import MarkupBinding.Namespace.Identifier
import MarkupBinding.Text.Quoted
/-!
# Types and values

A type is known by its name and its namespace, where all spellings of a namespace count as one: a
`TypeId` holds the canonical form. `TypeHead` is what the descriptions of other types may say about
a type: who it is, how text is turned into a value of it, and the prefix its library would like.

A `Value` is what constructors and properties are given: nothing, a text, a type, or what a
converter of the host has boxed. The host takes it as what it needs, or is told what is wrong.

Results:

* `of_eq_of_iff`: two spellings name the same type exactly if names and canonical forms agree.
-/
namespace MarkupBinding

/-! ## The identity of a type -/

/-- The identity of a type: its canonical namespace and its name. -/
structure TypeId where
  ns : String
  name : String
  canonical : canonicalNamespace ns = ns
deriving DecidableEq

namespace TypeId

/-- The type of a name in a namespace, however the namespace is spelled. -/
def of (ns name : String) : TypeId := ⟨canonicalNamespace ns, name, canonicalNamespace_idem ns⟩

theorem of_eq_of_iff {ns ns' name name' : String} :
    of ns name = of ns' name' ↔ canonicalNamespace ns = canonicalNamespace ns' ∧ name = name' := by
  simp [of]

theorem of_congr {ns ns' : String} (same : canonicalNamespace ns' = canonicalNamespace ns)
    (name : String) : of ns' name = of ns name :=
  of_eq_of_iff.2 ⟨same, rfl⟩

@[simp] theorem of_ns_name (id : TypeId) : of id.ns id.name = id := by
  obtain ⟨ns, name, h⟩ := id
  simp [of, h]

end TypeId

/-- How text is turned into a value of a type. -/
inductive TargetKind where
  /-- The text itself is the value. -/
  | text
  /-- An untyped slot, which takes the text as it is. -/
  | object
  /-- The text names a type. -/
  | type
  /-- A converter is asked. -/
  | convertible
deriving DecidableEq

/-- The name of a kind. -/
def TargetKind.label : TargetKind → String
  | .text => "String"
  | .object => "Object"
  | .type => "Type"
  | .convertible => "Convertible"

/-- What other types may say about a type. -/
structure TypeHead where
  id : TypeId
  kind : TargetKind
  preferredPrefix : Option String
deriving DecidableEq

namespace TypeHead

/-- The name without a prefix. -/
def name (head : TypeHead) : String := head.id.name

/-- The canonical namespace. -/
def ns (head : TypeHead) : String := head.id.ns

/-- A type without a preferred prefix. -/
def plain (ns name : String) (kind : TargetKind) : TypeHead := ⟨.of ns name, kind, none⟩

end TypeHead

/-! ## What hosts pass around

A host has types of its own, and what it hands over may be of any of them: `β` is what a converter
may box, and `ι` what a constructor may make. -/

/-- A type `α` of the host within `ω`, which holds what is of any type: its name, what is of it, and
what is of it seen as any. -/
structure HostType (ω α : Type) where
  name : String
  view : ω → Option α
  wrap : α → ω

/-- The types that a host boxes without a converter of its own: those of the texts and types in an
expression, and those that the standard converters make. -/
structure Boxing (β : Type) where
  text : HostType β String
  type : HostType β TypeHead
  bool : HostType β Bool
  int32 : HostType β Int32
  int64 : HostType β Int64
  double : HostType β Float

/-- A value of an argument or a property. -/
inductive Value (β : Type) where
  /-- A key was written without a value. -/
  | null
  | text (text : String)
  | type (head : TypeHead)
  /-- What a converter has made. -/
  | boxed (content : β)
deriving DecidableEq

/-- Why a value cannot be taken as it was asked for. The value itself, where it is mentioned, is
kept as it is shown. -/
inductive ValueError where
  | notText (shown : String)
  | notType (shown : String)
  | missing (wanted : String)
  | mismatch (wanted : String)
deriving DecidableEq

/-- The wording of an error about a value. -/
def ValueError.message : ValueError → String
  | .notText shown => "expected a string, got " ++ shown
  | .notType shown => "expected a type reference, got " ++ shown
  | .missing wanted => "expected " ++ wanted ++ ", got null"
  | .mismatch wanted => "value is not a " ++ wanted

namespace Value

variable {β α : Type}

/-- The value was missing. -/
def isNull : Value β → Bool
  | .null => true
  | _ => false

/-- The value shown for diagnosis; what a converter has made is not shown. -/
def dump : Value β → String
  | .null => "Null"
  | .text s => Text.Dump.tagged "Str" (Text.quoted s)
  | .type head => Text.Dump.tagged "Type" (Text.quoted head.name)
  | .boxed _ => Text.Dump.tagged "Boxed" ".."

/-- The value as a text. -/
def asText : Value β → Except ValueError String
  | .text s => .ok s
  | v => .error (.notText v.dump)

/-- The value as a text that may be missing. -/
def asOptionalText : Value β → Except ValueError (Option String)
  | .null => .ok none
  | v => v.asText.map some

/-- The value as a type. -/
def asType : Value β → Except ValueError TypeHead
  | .type head => .ok head
  | v => .error (.notType v.dump)

/-- The value in a box, whatever it is; the missing value has none. -/
def content? (boxing : Boxing β) : Value β → Option β
  | .null => none
  | .text s => some (boxing.text.wrap s)
  | .type head => some (boxing.type.wrap head)
  | .boxed content => some content

/-- The value as one of a type of the host. -/
def as (boxing : Boxing β) (wanted : HostType β α) (v : Value β) : Except ValueError α :=
  match v.content? boxing with
  | none => .error (.missing wanted.name)
  | some content =>
    match wanted.view content with
    | some a => .ok a
    | none => .error (.mismatch wanted.name)

end Value

/-! ## Taking arguments

A constructor is handed its converted arguments as a queue and takes them one by one; an argument
that is not what was asked for is used up all the same. -/

/-- What the code of a host reports: about values, about targets, and in words of its own. -/
inductive HostError where
  | exhausted
  | value (e : ValueError)
  | readOnly (property : String)
  | foreignTarget (wanted : String)
  | refused (reason : String)
deriving DecidableEq

/-- The wording of an error of a host. -/
def HostError.message : HostError → String
  | .exhausted => "constructor argument missing"
  | .value e => e.message
  | .readOnly property => "property " ++ Text.quoted property ++ " is read-only"
  | .foreignTarget wanted => "target is not a " ++ wanted
  | .refused reason => reason

namespace Arguments

variable {β α : Type}

/-- Takes the next argument as what it is asked for, with what is left of the queue. -/
def take (ask : Value β → Except ValueError α) :
    List (Value β) → Except HostError α × List (Value β)
  | [] => (.error .exhausted, [])
  | v :: rest => ((ask v).mapError .value, rest)

/-- Takes the next argument as it is. -/
def next : List (Value β) → Except HostError (Value β) × List (Value β) := take .ok

/-- Takes the next argument as a text. -/
def text : List (Value β) → Except HostError String × List (Value β) := take Value.asText

/-- Takes the next argument as a type. -/
def type : List (Value β) → Except HostError TypeHead × List (Value β) := take Value.asType

/-- Takes the next argument as one of a type of the host. -/
def as (boxing : Boxing β) (wanted : HostType β α) :
    List (Value β) → Except HostError α × List (Value β) := take (Value.as boxing wanted)

end Arguments

end MarkupBinding
