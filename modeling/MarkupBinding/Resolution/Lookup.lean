import MarkupBinding.Name.Qualified
import MarkupBinding.Prefixes.Table
import MarkupBinding.Types.Catalogue
/-!
# Looking up types by name

A name in a document stands for a type of a catalogue: its prefix, or the lack of one, gives the
namespace. `resolve` reads names with or without a type wrapper. `representing` gives the type that
an element stands for, which is the type of a property if the element is written `Owner.Property`.
Where a name stands for nothing, `LookupError` names the culprit.

Results:

* `resolve_eq_ok`: what a name resolves to has the local name and the namespace of its prefix.
-/
namespace MarkupBinding

/-- Why a name cannot be looked up. -/
inductive LookupError where
  | unknownPrefix (pfx : String)
  | unknownType (name ns : String)
  | unknownProperty (typeName property : String)
deriving DecidableEq

/-- The wording of a lookup error. -/
def LookupError.message : LookupError → String
  | .unknownPrefix pfx => "unknown namespace prefix " ++ Text.quoted pfx
  | .unknownType name ns =>
    "type " ++ Text.quoted name ++ " not found in namespace " ++ Text.quoted ns
  | .unknownProperty typeName property =>
    "type " ++ Text.quoted typeName ++ " has no property " ++ Text.quoted property

namespace Catalogue

variable {ι β : Type}

/-- The type of a name in a namespace, or why there is none. -/
def lookup (types : Catalogue ι β) (ns name : String) : Except LookupError (TypeDecl ι β) :=
  match types.find? ns name with
  | some d => .ok d
  | none => .error (.unknownType name ns)

/-- The namespace of a name: that of its prefix, or else the default one, which may be empty. -/
def namespaceFor (t : PrefixTable) (name : QualifiedName) : Except LookupError String :=
  match name.pfx with
  | some pfx =>
    match t.namespaceOf? pfx with
    | some ns => .ok ns
    | none => .error (.unknownPrefix pfx)
  | none => .ok (t.defaultNamespace?.getD "")

/-- The type that a name in a document stands for. -/
def resolve (types : Catalogue ι β) (text : String) (t : PrefixTable) :
    Except LookupError (TypeDecl ι β) :=
  let name := QualifiedName.read (TypeWrapper.unwrap text)
  match namespaceFor t name with
  | .ok ns => types.lookup ns name.name
  | .error e => .error e

/-- The type that an element of a namespace stands for. -/
def representing (types : Catalogue ι β) (element ns : String) : Except LookupError TypeHead :=
  match Text.cutFirst? (· == '.') element.toList with
  | some (owner, property) =>
    match types.lookup ns (String.ofList owner) with
    | .ok d =>
      match d.member? (String.ofList property) with
      | some slot => .ok slot.type
      | none => .error (.unknownProperty d.name (String.ofList property))
    | .error e => .error e
  | none => (types.lookup ns element).map TypeDecl.head

/-- The type that an element stands for, where an unknown element is not an error. -/
def representing? (types : Catalogue ι β) (element ns : String) : Option TypeHead :=
  (types.representing element ns).toOption

/-! ## Laws -/

theorem lookup_eq_ok_iff {types : Catalogue ι β} {ns name : String} {d : TypeDecl ι β} :
    types.lookup ns name = .ok d ↔ types.find? ns name = some d := by
  unfold lookup
  split <;> simp_all

theorem resolve_eq_ok {types : Catalogue ι β} {text : String} {t : PrefixTable} {d : TypeDecl ι β}
    (h : types.resolve text t = .ok d) :
    ∃ ns, namespaceFor t (QualifiedName.read (TypeWrapper.unwrap text)) = .ok ns ∧
      d.id = .of ns (QualifiedName.read (TypeWrapper.unwrap text)).name := by
  unfold resolve at h
  dsimp only at h
  split at h
  · next ns e => exact ⟨ns, e, id_of_find? (lookup_eq_ok_iff.1 h)⟩
  · cases h

end Catalogue

end MarkupBinding
