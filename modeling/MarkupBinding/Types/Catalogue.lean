import MarkupBinding.Keyed
import MarkupBinding.Types.Value
/-!
# Declarations of types

A host describes each type that markup may create or mention: the constructors, tried in the order
in which they are declared, the properties, and the properties that the type defines for other
elements. Constructors and setters are functions of the host; `ι` is the type of its instances.

A `Catalogue` has the declared types by identity. Registering a type again replaces its declaration.

Results:

* `find?_congr`: all spellings of a namespace are looked up alike.
* `id_of_find?`: what is found has the identity that was looked for.
-/
namespace MarkupBinding

/-! ## Members -/

/-- The name of a property and the type of its values. -/
structure Slot where
  name : String
  type : TypeHead
deriving DecidableEq

/-- A constructor: the types of its parameters, and the function of the host. -/
structure Constructor (ι β : Type) where
  params : List TypeHead
  make : List (Value β) → Except HostError ι

/-- A property, with a setter unless it is read-only. -/
structure Property (ι β : Type) extends Slot where
  set? : Option (ι → Value β → Except HostError ι)

/-- The declaration of a type. -/
structure TypeDecl (ι β : Type) where
  head : TypeHead
  constructors : List (Constructor ι β)
  properties : List (Property ι β)
  /-- The properties that the type defines for other elements. -/
  attached : List Slot

variable {ι β : Type}

/-- The number of arguments that a constructor takes. -/
def Constructor.arity (c : Constructor ι β) : Nat := c.params.length

/-- The names of the parameter types. -/
def Constructor.signature (c : Constructor ι β) : List String := c.params.map TypeHead.name

/-- A constructor shown for diagnosis, by the names of its parameter types. -/
def dumpSignature (signature : List String) : String :=
  Text.Dump.openRecord "Constructor" [("params", Text.Dump.list (signature.map Text.quoted))]

/-- A constructor of instances of one type of the host. -/
def Constructor.ofType {α : Type} (type : HostType ι α) (params : List TypeHead)
    (make : List (Value β) → Except HostError α) : Constructor ι β :=
  ⟨params, fun arguments => (make arguments).map type.wrap⟩

namespace Property

/-- A property of instances of one type of the host; it refuses all other instances. -/
def ofType {α : Type} (type : HostType ι α) (slot : Slot) (set : α → Value β → Except HostError α) :
    Property ι β :=
  ⟨slot, some fun target v =>
    match type.view target with
    | some a => (set a v).map type.wrap
    | none => .error (.foreignTarget type.name)⟩

/-- A property that can only be read. -/
def readOnly (slot : Slot) : Property ι β := ⟨slot, none⟩

/-- The property can be assigned. -/
def isWritable (p : Property ι β) : Bool := p.set?.isSome

/-- Assigns a value to the property of an instance. -/
def assign (p : Property ι β) (target : ι) (v : Value β) : Except HostError ι :=
  match p.set? with
  | some set => set target v
  | none => .error (.readOnly p.name)

end Property

/-- A property shown for diagnosis. -/
def Slot.dump (slot : Slot) (writable : Bool) : String :=
  Text.Dump.record "Property"
    [("name", Text.quoted slot.name), ("value_type", Text.quoted slot.type.name),
      ("writable", if writable then "true" else "false")]

namespace TypeDecl

/-- The name of the type, without a prefix. -/
def name (d : TypeDecl ι β) : String := d.head.name

/-- The canonical namespace of the type. -/
def ns (d : TypeDecl ι β) : String := d.head.ns

/-- The identity of the type. -/
def id (d : TypeDecl ι β) : TypeId := d.head.id

/-- A type without members. -/
def scalar (ns name : String) (kind : TargetKind) : TypeDecl ι β :=
  ⟨.plain ns name kind, [], [], []⟩

/-- The first property of a name. -/
def property? (d : TypeDecl ι β) (name : String) : Option (Property ι β) :=
  d.properties.find? fun p => p.name = name

/-- The first property of a name that can be assigned; a read-only one in front hides it. -/
def writable? (d : TypeDecl ι β) (name : String) : Option (Property ι β) :=
  (d.property? name).filter Property.isWritable

/-- The first property of a name that the type defines for other elements. -/
def attached? (d : TypeDecl ι β) (name : String) : Option Slot :=
  d.attached.find? fun slot => slot.name = name

/-- The first member of a name; the type's own properties come first. -/
def member? (d : TypeDecl ι β) (name : String) : Option Slot :=
  ((d.property? name).map Property.toSlot).or (d.attached? name)

/-- The declaration shown for diagnosis. -/
def dump (d : TypeDecl ι β) : String :=
  Text.Dump.record "TypeDescriptor"
    [("name", Text.quoted d.name), ("namespace", Text.quoted d.ns), ("kind", d.head.kind.label),
      ("constructors",
        Text.Dump.list (d.constructors.map fun c => dumpSignature c.signature)),
      ("properties", Text.Dump.list (d.properties.map fun p => p.toSlot.dump p.isWritable)),
      ("attached", Text.Dump.list (d.attached.map fun slot => slot.dump false))]

end TypeDecl

/-! ## Catalogues -/

/-- The declared types. -/
structure Catalogue (ι β : Type) where
  decls : List (TypeDecl ι β)

/-- The scalar types of the `System` namespace. -/
def systemTypes : List (String × TargetKind) :=
  [("String", .text), ("Object", .object), ("Type", .type), ("Boolean", .convertible),
    ("Int32", .convertible), ("Int64", .convertible), ("Double", .convertible)]

namespace Catalogue

/-- The catalogue without types. -/
def empty : Catalogue ι β := ⟨[]⟩

/-- Registers a type, in place of the one with the same identity. -/
def register (types : Catalogue ι β) (d : TypeDecl ι β) : Catalogue ι β :=
  ⟨Keyed.upsert TypeDecl.id d types.decls⟩

/-- The type of a name in a namespace, however the namespace is spelled. -/
def find? (types : Catalogue ι β) (ns name : String) : Option (TypeDecl ι β) :=
  Keyed.get? TypeDecl.id (.of ns name) types.decls

/-- The catalogue of the scalar types of the `System` namespace. -/
def system : Catalogue ι β :=
  systemTypes.foldl (fun types t => types.register (.scalar Namespace.system t.1 t.2)) empty

/-- A type of the `System` namespace. -/
def system? (types : Catalogue ι β) (name : String) : Option (TypeDecl ι β) :=
  types.find? Namespace.system name

/-- The number of types. -/
def size (types : Catalogue ι β) : Nat := types.decls.length

theorem find?_congr (types : Catalogue ι β) {ns ns' : String}
    (same : canonicalNamespace ns' = canonicalNamespace ns) (name : String) :
    types.find? ns' name = types.find? ns name := by
  rw [find?, find?, TypeId.of_congr same]

theorem id_of_find? {types : Catalogue ι β} {ns name : String} {d : TypeDecl ι β}
    (h : types.find? ns name = some d) : d.id = .of ns name :=
  Keyed.key_of_get?_eq_some h

end Catalogue

end MarkupBinding
