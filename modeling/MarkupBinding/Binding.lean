import MarkupBinding.Conversion
import MarkupBinding.Expression.Basic
/-!
# Binding expressions to instances

An expression is bound to a type in two steps. The arguments go to the first constructor that takes
as many, to whose parameter types they can be converted, and that accepts the values. Then each
assignment goes to the property of its name; what cannot be assigned is left alone. `BindingEvent`
reports in order everything that was passed over, and a finished binding; `BindingError` is why
there is no instance at all.

Results:

* `construct_cons`: how the first constructor of a list counts.
* `fst_bind_congr`: what comes of a binding depends on the arguments and the assignments only.
-/
namespace MarkupBinding

/-! ## Reports and errors -/

/-- Why a constructor or a property was passed over. -/
inductive Obstacle where
  | conversion (e : ConversionError)
  | host (e : HostError)
deriving DecidableEq

/-- The wording of an obstacle with its cause. -/
def Obstacle.causes : Obstacle → String
  | .conversion e => e.causes
  | .host e => e.message

/-- A report about a binding. -/
inductive BindingEvent where
  /-- The constructor that was tried at a place among those with as many parameters. -/
  | rejected (type : String) (attempt : Nat) (signature : List String) (obstacle : Obstacle)
  | notWritable (type property : String)
  | notAssigned (type property : String) (obstacle : Obstacle)
  | bound (expression : Expression) (type : String)
deriving DecidableEq

namespace BindingEvent

/-- A report about a rejected constructor is of interest only to those who trace a binding. -/
def isTrace : BindingEvent → Bool
  | .rejected .. => true
  | _ => false

/-- The wording of a report. -/
def message : BindingEvent → String
  | .rejected type attempt signature obstacle =>
    type ++ ": constructor #" ++ String.ofList (Decimal.write attempt) ++ " " ++
      dumpSignature signature ++ " rejected: " ++ obstacle.causes
  | .notWritable type property =>
    type ++ ": no writable property " ++ Text.quoted property ++ ", skipped"
  | .notAssigned type property obstacle =>
    type ++ "." ++ property ++ ": " ++ obstacle.causes ++ ", skipped"
  | .bound expression type => "bound " ++ expression.print ++ " as " ++ type

end BindingEvent

/-- Why an expression has no instance. -/
inductive BindingError where
  | noConstructor (typeName : String) (arity : Nat)
  | lookup (e : LookupError)
  /-- There is an instance, but not of what was asked for. -/
  | wrongInstance (typeName : String)
deriving DecidableEq

/-- The wording of an error; the host is known by the language that it is written in. -/
def BindingError.message (language : String) : BindingError → String
  | .noConstructor typeName arity =>
    "no constructor of " ++ Text.quoted typeName ++ " accepts " ++
      String.ofList (Decimal.write arity) ++ " positional argument(s)"
  | .lookup e => e.message
  | .wrongInstance typeName =>
    "descriptor " ++ Text.quoted typeName ++ " does not construct the requested " ++
      language ++ " type"

/-! ## Environments -/

/-- What an expression is bound with: types, converters, and the prefixes of the document. -/
structure Environment (ι β : Type) where
  types : Catalogue ι β
  conversions : ConversionTable β
  prefixes : PrefixTable

namespace Environment

variable {ι β : Type}

/-- Turns the text of an argument or a property into a value. A type is looked up by its name. -/
def convert (env : Environment ι β) (target : TypeHead) (input : Option String) :
    Except ConversionError (Value β) :=
  match target.kind, input with
  | .type, some text =>
    match env.types.resolve text env.prefixes with
    | .ok d => .ok (.type d.head)
    | .error e => .error (.lookup e)
  | .type, none => .error (.valueRequired target.name)
  | _, _ => env.conversions.convert target input

/-- Turns the texts of arguments into values, up to the first that cannot be turned into one. -/
def convertAll (env : Environment ι β) : List TypeHead → List (Option String) →
    Except ConversionError (List (Value β))
  | target :: targets, input :: inputs =>
    match env.convert target input with
    | .ok v => (env.convertAll targets inputs).map (v :: ·)
    | .error e => .error e
  | _, _ => .ok []

/-! ## Construction -/

/-- Tries a constructor. -/
def attempt (env : Environment ι β) (c : Constructor ι β) (arguments : List (Option String)) :
    Except Obstacle ι :=
  match env.convertAll c.params arguments with
  | .ok values => (c.make values).mapError .host
  | .error e => .error (.conversion e)

/-- Tries constructors in turn, the first of them at place `place`. -/
def construct (env : Environment ι β) (type : String) (arguments : List (Option String))
    (place : Nat) : List (Constructor ι β) → Option ι × List BindingEvent
  | [] => (none, [])
  | c :: cs =>
    match env.attempt c arguments with
    | .ok i => (some i, [])
    | .error obstacle =>
      let (i, events) := env.construct type arguments (place + 1) cs
      (i, .rejected type place c.signature obstacle :: events)

/-- The constructors that take as many arguments as there are. -/
def candidates (d : TypeDecl ι β) (arguments : List (Option String)) : List (Constructor ι β) :=
  d.constructors.filter fun c => c.arity = arguments.length

/-! ## Assignment -/

/-- Assigns a text to a property. -/
def assignTo (env : Environment ι β) (p : Property ι β) (target : ι) (input : Option String) :
    Except Obstacle ι :=
  match env.convert p.type input with
  | .ok v => (p.assign target v).mapError .host
  | .error e => .error (.conversion e)

/-- Makes an assignment, or reports why not and leaves the instance as it is. -/
def assign (env : Environment ι β) (d : TypeDecl ι β) (target : ι) (name : String)
    (input : Option String) : ι × List BindingEvent :=
  match d.writable? name with
  | none => (target, [.notWritable d.name name])
  | some p =>
    match env.assignTo p target input with
    | .ok i => (i, [])
    | .error obstacle => (target, [.notAssigned d.name name obstacle])

/-- Makes assignments one after another. -/
def assignAll (env : Environment ι β) (d : TypeDecl ι β) (target : ι) :
    List (String × Option String) → ι × List BindingEvent
  | [] => (target, [])
  | (name, input) :: rest =>
    let (i, events) := env.assign d target name input
    let (i, later) := env.assignAll d i rest
    (i, events ++ later)

/-! ## Binding -/

/-- Binds an expression to a type. -/
def bind (env : Environment ι β) (e : Expression) (d : TypeDecl ι β) :
    Except BindingError ι × List BindingEvent :=
  match env.construct d.name e.arguments 0 (candidates d e.arguments) with
  | (none, events) => (.error (.noConstructor d.name e.arguments.length), events)
  | (some i, events) =>
    let (i, later) := env.assignAll d i e.assignments
    (.ok i, events ++ later ++ [.bound e d.name])

/-- Binds an expression and views the instance as what was asked for. -/
def bindAs {α : Type} (view : ι → Option α) (env : Environment ι β) (e : Expression)
    (d : TypeDecl ι β) : Except BindingError α × List BindingEvent :=
  match env.bind e d with
  | (.ok i, events) =>
    match view i with
    | some a => (.ok a, events)
    | none => (.error (.wrongInstance d.name), events)
  | (.error err, events) => (.error err, events)

/-! ## Laws -/

theorem construct_cons (env : Environment ι β) (type : String) (arguments : List (Option String))
    (place : Nat) (c : Constructor ι β) (cs : List (Constructor ι β)) :
    (env.construct type arguments place (c :: cs)).1 =
      match env.attempt c arguments with
      | .ok i => some i
      | .error _ => (env.construct type arguments (place + 1) cs).1 := by
  rw [construct]
  split <;> rfl

theorem fst_bind_congr {a b : Expression} (arguments : a.arguments = b.arguments)
    (assignments : a.assignments = b.assignments) (env : Environment ι β) (d : TypeDecl ι β) :
    (env.bind a d).1 = (env.bind b d).1 := by
  unfold bind
  rw [arguments, assignments]
  split <;> rfl

theorem fst_bindAs {α : Type} (view : ι → Option α) (env : Environment ι β) (e : Expression)
    (d : TypeDecl ι β) :
    (env.bindAs view e d).1 = (env.bind e d).1.bind fun i =>
      match view i with
      | some a => .ok a
      | none => .error (.wrongInstance d.name) := by
  unfold bindAs
  rcases env.bind e d with ⟨err | i, events⟩
  · rfl
  · dsimp only [Except.bind]
    split <;> rfl

end Environment

end MarkupBinding
