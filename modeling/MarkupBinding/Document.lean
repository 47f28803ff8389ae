import MarkupBinding.Binding
import MarkupBinding.Expression.Parser
import MarkupBinding.Resolution.Naming
/-!
# Documents

A document has prefixes of its own, and is read against the types, aliases and converters of its
host. Types and resource keys are named in it, which may bind prefixes, and expressions are bound in
it, which does not. The type name of an expression may be written without the suffix that extension
types carry.
-/
namespace MarkupBinding

/-- What the name of an extension type ends in, and an expression may leave out. -/
def extensionSuffix : String := "Extension"

/-- The choices for a new document. -/
structure DocumentSetup where
  aliases : Aliases
  /-- Bind the conventional prefixes. -/
  commonPrefixes : Bool
  /-- Let expressions leave out the suffix of extension types. -/
  suffixOptional : Bool

/-- The usual choices: conventional aliases, only the default namespace bound, suffix optional. -/
def DocumentSetup.usual : DocumentSetup := ⟨.wellKnown, false, true⟩

/-- A document, with what it is read against. -/
structure Document (ι β : Type) where
  types : Catalogue ι β
  conversions : ConversionTable β
  aliases : Aliases
  suffixOptional : Bool
  table : PrefixTable

namespace Document

variable {ι β : Type}

/-- A new document. -/
def new (types : Catalogue ι β) (conversions : ConversionTable β) (setup : DocumentSetup) :
    Document ι β :=
  let table := PrefixTable.presentation
  ⟨types, conversions, setup.aliases, setup.suffixOptional,
    if setup.commonPrefixes then table.bindCommon else table⟩

/-- The document with another prefix table. -/
def withTable (doc : Document ι β) (table : PrefixTable) : Document ι β :=
  { doc with table := table }

/-- A document nested in this one. -/
def child (doc : Document ι β) : Document ι β := doc.withTable doc.table.child

/-! ## Names -/

/-- Names a type; a prefix is bound for it only if that is allowed. -/
def nameOf (doc : Document ι β) (head : TypeHead) (mayBind : Bool) : Except NamingError Naming :=
  MarkupBinding.nameOf doc.aliases head doc.table mayBind

/-- Writes a resource key, binding prefixes for it. -/
def resourceKey (doc : Document ι β) (key : ResourceKey) : Naming :=
  key.markup doc.aliases doc.table

/-- The type that a name in the document stands for. -/
def resolve (doc : Document ι β) (text : String) : Except LookupError (TypeDecl ι β) :=
  doc.types.resolve text doc.table

/-- The type that the type name of an expression stands for, as it is written or with the suffix.
If neither resolves, it is the name as written that is reported. -/
def extensionType (doc : Document ι β) (name : String) : Except LookupError (TypeDecl ι β) :=
  match doc.resolve name with
  | .ok d => .ok d
  | .error e =>
    if doc.suffixOptional then (doc.resolve (name ++ extensionSuffix)).mapError fun _ => e
    else .error e

/-! ## Binding -/

/-- What the document binds expressions with. -/
def environment (doc : Document ι β) : Environment ι β := ⟨doc.types, doc.conversions, doc.table⟩

/-- Reads an expression and binds it to a type, whatever type it names. -/
def bindTo (doc : Document ι β) (text : String) (d : TypeDecl ι β) :
    Except BindingError ι × List BindingEvent :=
  doc.environment.bind (.parse text) d

/-- Reads an expression, binds it to the type that it names, and views the instance as what was
asked for. -/
def bindAs {α : Type} (view : ι → Option α) (doc : Document ι β) (text : String) :
    Except BindingError α × List BindingEvent :=
  let e := Expression.parse text
  match doc.extensionType e.typeName with
  | .ok d => doc.environment.bindAs view e d
  | .error err => (.error (.lookup err), [])

/-- Reads an expression and binds it to the type that it names. -/
def bind (doc : Document ι β) (text : String) : Except BindingError ι × List BindingEvent :=
  let e := Expression.parse text
  match doc.extensionType e.typeName with
  | .ok d => doc.environment.bind e d
  | .error err => (.error (.lookup err), [])

end Document

end MarkupBinding
