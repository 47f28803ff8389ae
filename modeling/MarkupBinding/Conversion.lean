import MarkupBinding.Number.Numeral
import MarkupBinding.Resolution.Lookup
import MarkupBinding.Text.Blank
/-!
# Conversions

Texts become values by way of converters, which are registered by the identity of their target.
Texts and untyped slots need none: they take what is written, and nothing where nothing is written.
For all other targets a missing text is an error. `Refusal` is why a converter did not take a text,
and `ConversionError` why a text did not become a value of its target type; a refusal is the cause
of the error that reports it.

Results:

* `convert_eq`: how a conversion comes out, for a target that asks a converter.
-/
namespace MarkupBinding

/-! ## Failures -/

/-- Why a converter did not take a text. -/
inductive Refusal where
  | integer (e : Integer.Error)
  | double (e : Double.Error)
  /-- The text is not one of the two words for a truth value in letters of either case. -/
  | notBoolean (text : String)
  /-- A converter of the host, in its own words. -/
  | host (reason : String)
deriving DecidableEq

/-- The wording of a refusal. -/
def Refusal.message : Refusal → String
  | .integer e => e.message
  | .double e => e.message
  | .notBoolean text => Text.quoted text ++ " is not a boolean"
  | .host reason => reason

/-- Why a text did not become a value of its target type. -/
inductive ConversionError where
  | unsupported (target : String)
  | refused (target input : String) (cause : Refusal)
  | valueRequired (target : String)
  | lookup (e : LookupError)
deriving DecidableEq

namespace ConversionError

/-- The wording of an error. -/
def message : ConversionError → String
  | .unsupported target => "no converter registered for " ++ Text.quoted target
  | .refused target input _ =>
    "converter for " ++ Text.quoted target ++ " rejected " ++ Text.quoted input
  | .valueRequired target => Text.quoted target ++ " requires a value"
  | .lookup e => e.message

/-- The wording of an error, followed by that of its cause. -/
def causes (e : ConversionError) : String :=
  match e with
  | .refused _ _ cause => e.message ++ ": " ++ cause.message
  | _ => e.message

end ConversionError

/-! ## Tables of converters -/

/-- Turns a text into a value, or says why not. -/
abbrev Convert (β : Type) : Type := String → Except Refusal (Value β)

/-- A converter with its target. -/
structure Converter (β : Type) where
  target : TypeId
  convert : Convert β

/-- The registered converters. -/
structure ConversionTable (β : Type) where
  converters : List (Converter β)

namespace ConversionTable

variable {β : Type}

/-- The table without converters. -/
def empty : ConversionTable β := ⟨[]⟩

/-- Registers a converter, in place of the one for the same target. -/
def register (t : ConversionTable β) (target : TypeId) (convert : Convert β) : ConversionTable β :=
  ⟨Keyed.upsert Converter.target ⟨target, convert⟩ t.converters⟩

/-- The converter for a target. -/
def converter? (t : ConversionTable β) (target : TypeId) : Option (Convert β) :=
  (Keyed.get? Converter.target target t.converters).map Converter.convert

/-- A converter is registered for a target. -/
def contains (t : ConversionTable β) (target : TypeId) : Bool := (t.converter? target).isSome

/-- Asks the converter for a target. -/
def ask (t : ConversionTable β) (target : TypeHead) (input : String) :
    Except ConversionError (Value β) :=
  match t.converter? target.id with
  | none => .error (.unsupported target.name)
  | some convert => (convert input).mapError (.refused target.name input)

/-- Turns a text, or the lack of one, into a value of a target. -/
def convert (t : ConversionTable β) (target : TypeHead) (input : Option String) :
    Except ConversionError (Value β) :=
  match target.kind, input with
  | .text, none | .object, none => .ok .null
  | .text, some s | .object, some s => .ok (.text s)
  | _, none => .error (.valueRequired target.name)
  | _, some s => t.ask target s

/-- The table shown for diagnosis: the names of its targets in order. -/
def dump (t : ConversionTable β) : String :=
  let names := (t.converters.map fun c => c.target.name).mergeSort fun a b => a ≤ b
  Text.Dump.record "ConversionRegistry"
    [("targets", Text.Dump.list (names.map Text.quoted))]

theorem convert_eq (t : ConversionTable β) {target : TypeHead} (h : target.kind = .convertible)
    (input : Option String) :
    t.convert target input =
      match input with
      | none => .error (.valueRequired target.name)
      | some s => t.ask target s := by
  cases input <;> simp [convert, h]

end ConversionTable

/-! ## Standard converters

All of them disregard blanks around the text. -/

namespace Convert

open Text

variable {β α : Type}

/-- Reads a text without the blanks around it, and boxes what was read as one of a type of the
host. -/
def ofReader (type : HostType β α) (read : List Char → Except Refusal α) : Convert β := fun s =>
  (read (trim s.toList)).map fun a => .boxed (type.wrap a)

/-- Integers of 32 bits. -/
def int32 (type : HostType β Int32) : Convert β :=
  ofReader type fun s =>
    ((Integer.read Int32.minValue.toInt Int32.maxValue.toInt s).map Int32.ofInt).mapError .integer

/-- Integers of 64 bits. -/
def int64 (type : HostType β Int64) : Convert β :=
  ofReader type fun s =>
    ((Integer.read Int64.minValue.toInt Int64.maxValue.toInt s).map Int64.ofInt).mapError .integer

/-- Doubles. -/
def double (type : HostType β Float) : Convert β :=
  ofReader type fun s => (Double.read s).mapError .double

/-- The words `true` and `false` in letters of either case. -/
def boolean (type : HostType β Bool) : Convert β :=
  ofReader type fun s =>
    match String.ofList (s.map Char.toLower) with
    | "true" => .ok true
    | "false" => .ok false
    | _ => .error (.notBoolean (String.ofList s))

end Convert

namespace ConversionTable

variable {ι β : Type}

/-- The scalar types of the `System` namespace that need a converter, with their converters. -/
def systemConverters (boxing : Boxing β) : List (String × Convert β) :=
  [("Boolean", .boolean boxing.bool), ("Int32", .int32 boxing.int32),
    ("Int64", .int64 boxing.int64), ("Double", .double boxing.double)]

/-- The converters for the scalar types that a catalogue has. -/
def standard (boxing : Boxing β) (types : Catalogue ι β) : ConversionTable β :=
  (systemConverters boxing).foldl
    (fun t c =>
      match types.system? c.1 with
      | some d => t.register d.id c.2
      | none => t)
    empty

end ConversionTable

end MarkupBinding
