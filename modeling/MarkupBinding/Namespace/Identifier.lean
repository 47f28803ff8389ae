import MarkupBinding.Text.Blank
import MarkupBinding.Text.Split
/-!
# Namespaces

A namespace identifier of the form `clr-namespace:Path;assembly=Name` points into a library of the
host. The core library goes by several assembly names; the canonical form of an identifier uses one
of them, so that all spellings of a core namespace are recognised as one. Identifiers of any other
form are their own canonical form. `Namespace` has the identifiers that markup documents
conventionally use.

Results:

* `read?_text`: what is written from a path and an assembly is read back.
* `canonicalNamespace_idem`: a canonical form is its own canonical form.
-/
namespace MarkupBinding

open Text

/-- A namespace within a host library. -/
structure AssemblyNamespace where
  path : String
  assembly : Option String
deriving DecidableEq

namespace AssemblyNamespace

/-- What the identifiers of this form start with. -/
def scheme : List Char := "clr-namespace:".toList

/-- What the part that names the assembly starts with. -/
def assemblyKey : List Char := "assembly=".toList

/-- The name that stands for the core library in canonical forms. -/
def coreAssembly : String := "System.Runtime"

/-- The names of the core library. -/
def coreAssemblies : List String := [coreAssembly, "System.Private.CoreLib", "mscorlib"]

/-- The assembly that a part of an identifier names. -/
def assembly? (part : List Char) : Option String :=
  (dropStart? assemblyKey (trim part)).map fun name => String.ofList (trim name)

/-- Reads an identifier of this form. Of several parts that name an assembly the first counts. -/
def read? (id : String) : Option AssemblyNamespace :=
  match dropStart? scheme (trim id.toList) with
  | none => none
  | some rest =>
    match pieces (· == ';') rest with
    | [] => none
    | path :: parts => some ⟨String.ofList (trim path), parts.findSome? assembly?⟩

/-- The last name of the path. -/
def lastName (n : AssemblyNamespace) : String :=
  String.ofList (lastPiece (· == '.') n.path.toList)

/-- The assembly is the core library. -/
def isCore (n : AssemblyNamespace) : Bool :=
  match n.assembly with
  | some name => coreAssemblies.contains name
  | none => false

/-- The same namespace under the canonical assembly name. -/
def canonical (n : AssemblyNamespace) : AssemblyNamespace :=
  if n.isCore then { n with assembly := some coreAssembly } else n

/-- The text of an identifier, as characters. -/
def chars (n : AssemblyNamespace) : List Char :=
  scheme ++ n.path.toList ++
    match n.assembly with
    | some name => ';' :: assemblyKey ++ name.toList
    | none => []

/-- The text of an identifier. -/
def text (n : AssemblyNamespace) : String := String.ofList n.chars

/-- A path or an assembly name that can be written in an identifier: it is trimmed and holds no
semicolon. -/
def Part (s : String) : Prop := trim s.toList = s.toList ∧ ';' ∉ s.toList

/-- Both parts can be written. -/
structure Writable (n : AssemblyNamespace) : Prop where
  path : Part n.path
  assembly : ∀ name, n.assembly = some name → Part name

end AssemblyNamespace

/-- The canonical form of a namespace identifier. -/
def canonicalNamespace (id : String) : String :=
  match AssemblyNamespace.read? id with
  | some n => n.canonical.text
  | none => id

namespace AssemblyNamespace

/-! ## Reading back -/

theorem not_mem_of_mem_pieces {s piece : List Char} (h : piece ∈ pieces (· == ';') s) :
    ';' ∉ piece :=
  fun m => absurd (of_mem_pieces h ';' m) (by decide)

theorem part_of_trim_piece {s piece : List Char} (h : piece ∈ pieces (· == ';') s) :
    Part (String.ofList (trim piece)) := by
  refine ⟨by simp, ?_⟩
  rw [String.toList_ofList]
  exact fun m => not_mem_of_mem_pieces h (mem_of_mem_trim m)

theorem writable_of_read? {id : String} {n : AssemblyNamespace} (h : read? id = some n) :
    Writable n := by
  unfold read? at h
  split at h
  · cases h
  · next rest _ =>
    split at h
    · cases h
    · next path parts e =>
      cases h
      refine ⟨part_of_trim_piece (s := rest) (by simp [e]), fun name hname => ?_⟩
      obtain ⟨part, hpart, ha⟩ := List.exists_of_findSome?_eq_some hname
      obtain ⟨t, ht, rfl⟩ := Option.map_eq_some_iff.1 ha
      refine ⟨by simp, ?_⟩
      rw [String.toList_ofList]
      intro m
      have inPart : ';' ∈ trim part := by
        rw [dropStart?_eq_some_iff.1 ht]
        exact List.mem_append_right _ (mem_of_mem_trim m)
      exact not_mem_of_mem_pieces (s := rest) (by simp [e, hpart]) (mem_of_mem_trim inPart)

theorem assembly?_key_append {name : String} (h : trim name.toList = name.toList) :
    assembly? (assemblyKey ++ name.toList) = some name := by
  rw [assembly?, trim_append (by decide) h,
    dropStart?_eq_some_iff.2 rfl]
  simp [h]

theorem trim_chars {n : AssemblyNamespace} (h : Writable n) : trim n.chars = n.chars := by
  have path : trim (scheme ++ n.path.toList) = scheme ++ n.path.toList :=
    trim_append (by decide) h.path.1
  unfold chars
  cases e : n.assembly with
  | none => simpa using path
  | some name =>
    have part : trim (assemblyKey ++ name.toList) = assemblyKey ++ name.toList :=
      trim_append (by decide) (h.assembly name e).1
    exact trim_append_cons path (by decide) part

theorem read?_text {n : AssemblyNamespace} (h : Writable n) : read? n.text = some n := by
  rw [read?, text, String.toList_ofList, trim_chars h]
  unfold chars
  obtain ⟨path, assembly⟩ := n
  cases assembly with
  | none =>
    simp only [List.append_nil]
    rw [dropStart?_eq_some_iff.2 rfl]
    have hp := h.path
    simp only [Part] at hp
    simp [pieces_of_none (beq_eq_false_of_not_mem hp.2), hp.1]
  | some name =>
    have hp := h.path
    have ha := h.assembly name rfl
    simp only [Part] at hp ha
    have key : ';' ∉ assemblyKey ++ name.toList := by
      simp only [List.mem_append, not_or]
      exact ⟨by decide, ha.2⟩
    rw [dropStart?_eq_some_iff.2 (List.append_assoc ..)]
    dsimp only
    rw [List.cons_append, pieces_append_cons (beq_eq_false_of_not_mem hp.2) rfl,
      pieces_of_none (beq_eq_false_of_not_mem key)]
    simp [hp.1, assembly?_key_append ha.1]

theorem isCore_canonical (n : AssemblyNamespace) : n.canonical.isCore = n.isCore := by
  unfold canonical
  split
  · next h => rw [h]; rfl
  · rfl

theorem canonical_idem (n : AssemblyNamespace) : n.canonical.canonical = n.canonical := by
  rw [canonical, isCore_canonical]
  split
  · next h => simp [canonical, h]
  · rfl

theorem Writable.canonical {n : AssemblyNamespace} (h : Writable n) : Writable n.canonical := by
  unfold AssemblyNamespace.canonical
  split
  · refine ⟨h.path, ?_⟩
    rintro name ⟨⟩
    exact ⟨by decide, by decide⟩
  · exact h

end AssemblyNamespace

theorem canonicalNamespace_idem (id : String) :
    canonicalNamespace (canonicalNamespace id) = canonicalNamespace id := by
  cases h : AssemblyNamespace.read? id with
  | none => simp [canonicalNamespace, h]
  | some n =>
    have back := AssemblyNamespace.read?_text (AssemblyNamespace.writable_of_read? h).canonical
    have first : canonicalNamespace id = n.canonical.text := by simp [canonicalNamespace, h]
    rw [first]
    simp [canonicalNamespace, back, AssemblyNamespace.canonical_idem]

/-! ## Well-known namespaces -/

namespace Namespace

/-- The default namespace of presentation markup. -/
def presentation : String := "http://schemas.microsoft.com/winfx/2006/xaml/presentation"

/-- The namespace of the markup language itself. -/
def language : String := "http://schemas.microsoft.com/winfx/2006/xaml"

/-- The namespace of design-time attributes. -/
def designer : String := "http://schemas.microsoft.com/expression/blend/2008"

/-- The namespace of markup compatibility. -/
def compatibility : String := "http://schemas.openxmlformats.org/markup-compatibility/2006"

/-- The namespace of interaction triggers. -/
def interactivity : String := "http://schemas.microsoft.com/expression/2010/interactivity"

/-- The namespace of behaviours. -/
def behaviors : String := "http://schemas.microsoft.com/xaml/behaviors"

/-- The namespace of the composition library. -/
def composition : String := "http://prismlibrary.com"

/-- The `System` namespace of the host, in the spelling of the reference assembly. -/
def system : String := "clr-namespace:System;assembly=System.Runtime"

/-- The `System` namespace, in the spelling of the implementation assembly. -/
def systemImplementation : String := "clr-namespace:System;assembly=System.Private.CoreLib"

/-- The `System` namespace, in the spelling of the older framework. -/
def systemLegacy : String := "clr-namespace:System;assembly=mscorlib"

/-- Conventional prefixes with their namespaces. -/
def common : List (String × String) :=
  [("x", language), ("d", designer), ("mc", compatibility), ("s", system), ("i", interactivity),
    ("b", behaviors), ("prism", composition)]

end Namespace

end MarkupBinding
