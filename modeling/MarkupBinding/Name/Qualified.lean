import MarkupBinding.Text.Blank
import MarkupBinding.Text.Split
/-!
# Qualified names and the type wrapper

Markup names a type as `p:Name`, where the prefix `p` stands for a namespace, or as `Name` in the
default namespace. A name is read by cutting at its first colon, so what follows may hold further
colons. The empty prefix means the default namespace and is not written. Where a type is named, the
name may stand in an expression of its own, `{x:Type Name}`; this wrapper counts whatever its prefix
is, and its closing brace may be missing.

Results:

* `read_qualify`: a name that is written from a prefix and a local name is read back, if neither
  has blanks around it and the prefix holds no colon.
* `read_of_no_colon`: a name without a colon is read as it stands.
* `unwrap_of_no_brace`: a text that does not start with a brace is trimmed and nothing else.
* `inner?_of_head`: what is within a brace and a word, if the word is marked.
* `inner?_eq_none_iff`: which texts are no wrappers.
-/
namespace MarkupBinding

open Text

/-! ## Qualified names -/

/-- A name with the prefix that was written before it, if a colon was written. -/
structure QualifiedName where
  pfx : Option String
  name : String
deriving DecidableEq

/-- The text of a name behind a prefix; the empty prefix is not written. -/
def qualify (pfx name : String) : String :=
  if pfx = "" then name else pfx ++ ":" ++ name

namespace QualifiedName

/-- Reads a name. -/
def read (text : String) : QualifiedName :=
  let s := trim text.toList
  match cutFirst? (· == ':') s with
  | some (pfx, name) => ⟨some (String.ofList (trim pfx)), String.ofList (trim name)⟩
  | none => ⟨none, String.ofList s⟩

/-- The prefix under which the namespace is looked up. -/
def lookupPrefix (q : QualifiedName) : String := q.pfx.getD ""

/-- The text of a name. -/
def text (q : QualifiedName) : String := qualify q.lookupPrefix q.name

end QualifiedName

theorem toList_qualify {pfx name : String} (h : pfx ≠ "") :
    (qualify pfx name).toList = pfx.toList ++ ':' :: name.toList := by
  rw [qualify, if_neg h]
  simp

theorem QualifiedName.read_qualify {pfx name : String} (h : pfx ≠ "") (colon : ':' ∉ pfx.toList)
    (hp : trim pfx.toList = pfx.toList) (hn : trim name.toList = name.toList) :
    QualifiedName.read (qualify pfx name) = ⟨some pfx, name⟩ := by
  have cut : cutFirst? (· == ':') (pfx.toList ++ ':' :: name.toList) =
      some (pfx.toList, name.toList) :=
    cutFirst?_eq_some_iff.2 ⟨fun d hd => by
      simp only [beq_eq_false_iff_ne]
      rintro rfl
      exact colon hd, ':', rfl, rfl⟩
  rw [QualifiedName.read, toList_qualify h, trim_append_cons hp (by decide) hn]
  simp [cut, hp, hn]

theorem QualifiedName.read_of_no_colon {name : String} (colon : ':' ∉ name.toList)
    (trimmed : trim name.toList = name.toList) : QualifiedName.read name = ⟨none, name⟩ := by
  have uncut : cutFirst? (· == ':') name.toList = none :=
    cutFirst?_eq_none_iff.2 (beq_eq_false_of_not_mem colon)
  simp [QualifiedName.read, trimmed, uncut]

/-! ## The type wrapper -/

namespace TypeWrapper

/-- What a wrapper's own name ends in, behind its prefix. -/
def marker : List Char := [':', 'T', 'y', 'p', 'e']

/-- The text is a prefix without a colon, followed by the marker. -/
def isMarked (head : List Char) : Bool :=
  match dropEnd? marker head with
  | some pfx => !pfx.isEmpty && !pfx.contains ':'
  | none => false

/-- The name within the wrapper, if the trimmed text is one. -/
def inner? : List Char → Option (List Char)
  | '{' :: rest =>
    match cutFirst? isBlank rest with
    | some (head, inner) =>
      if isMarked head then some (trim ((dropEnd? ['}'] inner).getD inner)) else none
    | none => none
  | _ => none

/-- Takes a type wrapper off a name. -/
def unwrap (text : String) : String :=
  let s := trim text.toList
  String.ofList ((inner? s).getD s)

/-- A prefix that a wrapper can have. -/
structure IsPrefix (pfx : List Char) : Prop where
  filled : pfx ≠ []
  noColon : ':' ∉ pfx
  visible : ∀ c ∈ pfx, isBlank c = false

/-- The text is a wrapper: a brace, a prefix, the marker and a blank. What follows may be anything,
and no brace needs to close it. -/
def IsWrapper (s : List Char) : Prop :=
  ∃ pfx c rest, IsPrefix pfx ∧ isBlank c = true ∧ s = '{' :: (pfx ++ marker ++ c :: rest)

/-! ## Laws -/

theorem unwrap_of_no_brace {text : String} (h : (trim text.toList).head? ≠ some '{') :
    unwrap text = trimmed text := by
  have no_wrapper : inner? (trim text.toList) = none := by
    unfold inner?
    split
    · next rest heq => rw [heq] at h; exact absurd rfl h
    · rfl
  simp [unwrap, trimmed, no_wrapper]

theorem isBlank_marker : ∀ c ∈ marker, isBlank c = false := by
  intro c hc
  have none : marker.any isBlank = false := by decide
  simpa using List.any_eq_false.1 none c hc

theorem isMarked_eq {pfx : List Char} (colon : ':' ∉ pfx) :
    isMarked (pfx ++ marker) = !pfx.isEmpty := by
  have front : dropEnd? marker (pfx ++ marker) = some pfx := dropEnd?_eq_some_iff.2 rfl
  simp [isMarked, front, colon]

theorem isMarked_iff {head : List Char} :
    isMarked head = true ↔ ∃ pfx, pfx ≠ [] ∧ ':' ∉ pfx ∧ head = pfx ++ marker := by
  constructor
  · intro marked
    cases front : dropEnd? marker head with
    | none => simp [isMarked, front] at marked
    | some pfx =>
      simp only [isMarked, front, Bool.and_eq_true, Bool.not_eq_true', List.isEmpty_eq_false_iff,
        List.contains_eq_mem, decide_eq_false_iff_not] at marked
      exact ⟨pfx, marked.1, marked.2, dropEnd?_eq_some_iff.1 front⟩
  · rintro ⟨pfx, filled, colon, rfl⟩
    rw [isMarked_eq colon]
    simpa using filled

/-- The first word behind the brace decides. -/
theorem inner?_of_head {head : List Char} (visible : ∀ c ∈ head, isBlank c = false) {c : Char}
    (blank : isBlank c = true) (rest : List Char) :
    inner? ('{' :: (head ++ c :: rest)) =
      if isMarked head then some (trim ((dropEnd? ['}'] rest).getD rest)) else none := by
  have cut : cutFirst? isBlank (head ++ c :: rest) = some (head, rest) :=
    cutFirst?_eq_some_iff.2 ⟨visible, c, blank, rfl⟩
  rw [inner?, cut]

theorem inner?_marked {pfx : List Char} (h : IsPrefix pfx) {c : Char} (blank : isBlank c = true)
    (rest : List Char) : inner? ('{' :: (pfx ++ marker ++ c :: rest)) =
      some (trim ((dropEnd? ['}'] rest).getD rest)) := by
  have visible : ∀ d ∈ pfx ++ marker, isBlank d = false := fun d hd =>
    (List.mem_append.1 hd).elim (h.visible d) (isBlank_marker d)
  rw [inner?_of_head visible blank, if_pos (isMarked_iff.2 ⟨pfx, h.filled, h.noColon, rfl⟩)]

theorem inner?_eq_none_iff {s : List Char} : inner? s = none ↔ ¬ IsWrapper s := by
  constructor
  · rintro none ⟨pfx, c, rest, h, blank, rfl⟩
    rw [inner?_marked h blank] at none
    cases none
  · intro plain
    unfold inner?
    split
    · next rest =>
      split
      · next head inner cut =>
        obtain ⟨visible, c, blank, rfl⟩ := cutFirst?_eq_some_iff.1 cut
        rw [if_neg]
        intro marked
        obtain ⟨pfx, filled, colon, rfl⟩ := isMarked_iff.1 marked
        have shown : ∀ d ∈ pfx, isBlank d = false :=
          fun d hd => visible d (List.mem_append_left _ hd)
        exact plain ⟨pfx, c, inner, ⟨filled, colon, shown⟩, blank, rfl⟩
      · rfl
    · rfl

end TypeWrapper

end MarkupBinding
