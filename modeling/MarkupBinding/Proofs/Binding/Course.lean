import MarkupBinding.Document
/-!
# The course of a binding

Binding an expression gives an instance, but not how it came about: two constructors may make the
same instance, and an assignment may leave no trace in it. The course of a binding is what the host
is asked to do for the instance: the constructor that is settled on, at its place among those that
take as many arguments, with the values that it is given, and the assignments that succeed, with
theirs. Whoever knows the course can make the instance without the expression.

Results:

* `run_of_construct?`: the constructor that is settled on makes what `construct` gives.
* `run_assignments`: the assignments that succeed make what `assignAll` gives.
* `run_course`: there is a course exactly if there is an instance, and running it gives the
  instance.
-/
namespace MarkupBinding

variable {ι β : Type}

/-- A constructor with its place among the candidates, the values that it is given, and what it
makes of them. -/
structure Construction (ι β : Type) where
  place : Nat
  constructor : Constructor ι β
  values : List (Value β)
  made : ι

/-- What the host is asked to do for an instance of a type. -/
structure Course (ι β : Type) where
  type : TypeDecl ι β
  construction : Construction ι β
  assignments : List (Property ι β × Value β)

/-- Does what a course says. -/
def Course.run (c : Course ι β) : Except HostError ι :=
  match c.construction.constructor.make c.construction.values with
  | .ok i => c.assignments.foldlM (fun i a => a.1.assign i a.2) i
  | .error e => .error e

namespace Environment

/-- What comes of a constructor at a place, if it takes the arguments. -/
def construction? (env : Environment ι β) (arguments : List (Option String)) (place : Nat)
    (c : Constructor ι β) : Option (Construction ι β) :=
  (env.convertAll c.params arguments).toOption.bind fun values =>
    (c.make values).toOption.map fun i => ⟨place, c, values, i⟩

/-- What comes of the first of several constructors that takes the arguments. -/
def construct? (env : Environment ι β) (arguments : List (Option String)) (place : Nat) :
    List (Constructor ι β) → Option (Construction ι β)
  | [] => none
  | c :: cs =>
    (env.construction? arguments place c).or (env.construct? arguments (place + 1) cs)

/-- The property and the value of an assignment, with the instance after it, if it succeeds. -/
def assign? (env : Environment ι β) (d : TypeDecl ι β) (target : ι) (name : String)
    (input : Option String) : Option ((Property ι β × Value β) × ι) :=
  (d.writable? name).bind fun p =>
    (env.convert p.type input).toOption.bind fun v =>
      (p.assign target v).toOption.map fun i => ((p, v), i)

/-- The assignments that succeed, made one after another. -/
def assignments (env : Environment ι β) (d : TypeDecl ι β) (target : ι) :
    List (String × Option String) → List (Property ι β × Value β)
  | [] => []
  | (name, input) :: rest =>
    match env.assign? d target name input with
    | some (a, i) => a :: env.assignments d i rest
    | none => env.assignments d target rest

/-- The course of binding an expression to a type. -/
def course (env : Environment ι β) (e : Expression) (d : TypeDecl ι β) : Option (Course ι β) :=
  (env.construct? e.arguments 0 (candidates d e.arguments)).map fun c =>
    ⟨d, c, env.assignments d c.made e.assignments⟩

/-! ## Construction -/

theorem made_construction? (env : Environment ι β) (arguments : List (Option String)) (place : Nat)
    (c : Constructor ι β) :
    (env.construction? arguments place c).map Construction.made =
      (env.attempt c arguments).toOption := by
  unfold construction? attempt
  cases env.convertAll c.params arguments with
  | error e => rfl
  | ok values =>
    dsimp only [Except.toOption, Option.bind]
    cases c.make values <;> rfl

theorem made_construct? (env : Environment ι β) (type : String) (arguments : List (Option String))
    (place : Nat) (cs : List (Constructor ι β)) :
    (env.construct? arguments place cs).map Construction.made =
      (env.construct type arguments place cs).1 := by
  induction cs generalizing place with
  | nil => rfl
  | cons c cs ih =>
    rw [construct?, Option.map_or, made_construction?, ih, construct_cons]
    cases env.attempt c arguments <;> rfl

theorem make_of_construct? {env : Environment ι β} {arguments : List (Option String)} {place : Nat}
    {cs : List (Constructor ι β)} {c : Construction ι β}
    (h : env.construct? arguments place cs = some c) :
    c.constructor.make c.values = .ok c.made := by
  induction cs generalizing place with
  | nil => cases h
  | cons first cs ih =>
    rcases Option.or_eq_some_iff.1 h with h | ⟨-, h⟩
    · obtain ⟨values, -, h⟩ := Option.bind_eq_some_iff.1 h
      obtain ⟨i, made, rfl⟩ := Option.map_eq_some_iff.1 h
      dsimp only
      cases e : first.make values with
      | error err => rw [e] at made; cases made
      | ok j =>
        rw [e] at made
        exact congrArg Except.ok (Option.some.inj made)
    · exact ih h

/-! ## Assignment -/

/-- An assignment succeeds with what the property is given, or leaves the instance as it is. -/
theorem assign?_cases (env : Environment ι β) (d : TypeDecl ι β) (target : ι) (name : String)
    (input : Option String) :
    (∃ a, env.assign? d target name input = some (a, (env.assign d target name input).1) ∧
      a.1.assign target a.2 = .ok (env.assign d target name input).1) ∨
    (env.assign? d target name input = none ∧ (env.assign d target name input).1 = target) := by
  unfold assign? assign assignTo
  cases d.writable? name with
  | none => exact Or.inr ⟨rfl, rfl⟩
  | some p =>
    dsimp only [Option.bind]
    cases env.convert p.type input with
    | error e => exact Or.inr ⟨rfl, rfl⟩
    | ok v =>
      dsimp only [Except.toOption]
      cases e : p.assign target v with
      | error err => exact Or.inr ⟨rfl, rfl⟩
      | ok i => exact Or.inl ⟨(p, v), rfl, e⟩

theorem run_assignments (env : Environment ι β) (d : TypeDecl ι β) (target : ι)
    (pairs : List (String × Option String)) :
    (env.assignments d target pairs).foldlM (fun i a => a.1.assign i a.2) target =
      .ok (env.assignAll d target pairs).1 := by
  induction pairs generalizing target with
  | nil => rfl
  | cons pair pairs ih =>
    obtain ⟨name, input⟩ := pair
    have later : (env.assignAll d target ((name, input) :: pairs)).1 =
        (env.assignAll d (env.assign d target name input).1 pairs).1 := rfl
    rw [later, assignments]
    obtain ⟨a, e, assigned⟩ | ⟨e, same⟩ := env.assign?_cases d target name input
    · rw [e]
      dsimp only
      rw [List.foldlM_cons, assigned]
      exact ih _
    · rw [e, same]
      exact ih target

/-! ## Binding -/

theorem run_course (env : Environment ι β) (e : Expression) (d : TypeDecl ι β) :
    (env.course e d).map Course.run = (env.bind e d).1.toOption.map Except.ok := by
  have made := env.made_construct? d.name e.arguments 0 (candidates d e.arguments)
  unfold course bind
  -- There is a construction exactly if there is an instance, so two of the four cases remain.
  cases found : env.construct? e.arguments 0 (candidates d e.arguments) with
  | none =>
    rw [found] at made
    split
    · rfl
    · next i _ h => rw [h] at made; cases made
  | some c =>
    rw [found] at made
    split
    · next h => rw [h] at made; cases made
    · next i _ h =>
      rw [h] at made
      obtain rfl := Option.some.inj made
      have run : Course.run ⟨d, c, env.assignments d c.made e.assignments⟩ =
          .ok (env.assignAll d c.made e.assignments).1 := by
        rw [Course.run, make_of_construct? found]
        exact run_assignments env d c.made e.assignments
      exact congrArg some run

end Environment

namespace Document

/-- The course of binding an expression to the type that it names. -/
def course (doc : Document ι β) (text : String) : Option (Course ι β) :=
  (doc.extensionType (Expression.parse text).typeName).toOption.bind
    (doc.environment.course (.parse text))

theorem run_course (doc : Document ι β) (text : String) :
    (doc.course text).map Course.run = (doc.bind text).1.toOption.map Except.ok := by
  unfold course bind
  dsimp only
  cases doc.extensionType (Expression.parse text).typeName with
  | error e => rfl
  | ok d => exact doc.environment.run_course (.parse text) d

end Document

end MarkupBinding
