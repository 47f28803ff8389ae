import MarkupBinding.Binding
import MarkupBinding.Expression.Parser
/-!
# Which constructor is settled on

A constructor qualifies for the arguments of an expression if it has a parameter for each, if each
can be converted to the type of its parameter, and if the host accepts the values. `Accepts` says so
of one constructor, with the values and with what is made of them, and looks neither at other
constructors nor at the order in which things are tried. The binder tries constructors in turn and
leaves the rest of the way out at the first obstacle; what it settles on is the first constructor,
in the order of declaration, that qualifies.

So constructors that do not qualify might as well not be there. Only the reports about what was
passed over can tell the difference.

Results:

* `convertAll_eq_ok_iff`: conversion up to the first failure succeeds if every conversion does.
* `made?_eq_some_iff`: what a constructor makes of the arguments, read off `Accepts`.
* `fst_construct_candidates`: construction takes the first of all constructors that makes something.
* `bind_first_qualifying`: which instance a binding starts from, and when there is none.
-/
namespace MarkupBinding

namespace Environment

variable {ι β : Type}

/-- A constructor makes an instance of the arguments, by way of the values that they have as its
parameters. -/
structure Accepts (env : Environment ι β) (c : Constructor ι β) (arguments : List (Option String))
    (values : List (Value β)) (made : ι) : Prop where
  arity : c.arity = arguments.length
  converted : List.zipWith env.convert c.params arguments = values.map Except.ok
  accepted : c.make values = .ok made

/-- The constructor makes something of the arguments. -/
def Qualifies (env : Environment ι β) (arguments : List (Option String)) (c : Constructor ι β) :
    Prop :=
  ∃ values made, env.Accepts c arguments values made

/-- What a constructor makes of the arguments, if it takes as many. -/
def made? (env : Environment ι β) (arguments : List (Option String)) (c : Constructor ι β) :
    Option ι :=
  if c.arity = arguments.length then (env.attempt c arguments).toOption else none

/-! ## One constructor -/

theorem convertAll_cons_eq_ok_iff (env : Environment ι β) (target : TypeHead)
    (targets : List TypeHead) (input : Option String) (inputs : List (Option String))
    (values : List (Value β)) :
    env.convertAll (target :: targets) (input :: inputs) = .ok values ↔
      ∃ v vs, values = v :: vs ∧ env.convert target input = .ok v ∧
        env.convertAll targets inputs = .ok vs := by
  rw [convertAll]
  cases env.convert target input with
  | error e => simp
  | ok v =>
    cases env.convertAll targets inputs with
    | error e => simp [Except.map]
    | ok vs => simp [Except.map, eq_comm]

theorem convertAll_eq_ok_iff (env : Environment ι β) (targets : List TypeHead)
    (inputs : List (Option String)) (values : List (Value β)) :
    env.convertAll targets inputs = .ok values ↔
      List.zipWith env.convert targets inputs = values.map Except.ok := by
  induction targets generalizing inputs values with
  | nil => simp [convertAll, eq_comm]
  | cons target targets ih =>
    cases inputs with
    | nil => simp [convertAll, eq_comm]
    | cons input inputs =>
      rw [convertAll_cons_eq_ok_iff, List.zipWith_cons_cons, eq_comm (b := values.map _),
        List.map_eq_cons_iff]
      simp only [ih, eq_comm]

theorem attempt_eq_ok_iff (env : Environment ι β) (c : Constructor ι β)
    (arguments : List (Option String)) (i : ι) :
    env.attempt c arguments = .ok i ↔
      ∃ values, env.convertAll c.params arguments = .ok values ∧ c.make values = .ok i := by
  unfold attempt
  cases env.convertAll c.params arguments with
  | error e => simp
  | ok values =>
    simp only [Except.ok.injEq, exists_eq_left']
    cases c.make values with
    | error e => exact ⟨nofun, nofun⟩
    | ok made =>
      constructor
      · intro h
        rw [Except.ok.inj h]
      · intro h
        rw [Except.ok.inj h]
        rfl

theorem made?_eq_some_iff (env : Environment ι β) (arguments : List (Option String))
    (c : Constructor ι β) (i : ι) :
    env.made? arguments c = some i ↔ ∃ values, env.Accepts c arguments values i := by
  have toOption (r : Except Obstacle ι) : r.toOption = some i ↔ r = .ok i := by
    cases r <;> simp [Except.toOption]
  unfold made?
  split
  · next arity =>
    rw [toOption, attempt_eq_ok_iff]
    simp only [convertAll_eq_ok_iff]
    constructor
    · rintro ⟨values, converted, accepted⟩
      exact ⟨values, arity, converted, accepted⟩
    · rintro ⟨values, h⟩
      exact ⟨values, h.converted, h.accepted⟩
  · next arity =>
    constructor
    · intro h
      cases h
    · rintro ⟨values, h⟩
      exact absurd h.arity arity

theorem qualifies_iff_isSome (env : Environment ι β) (arguments : List (Option String))
    (c : Constructor ι β) : env.Qualifies arguments c ↔ (env.made? arguments c).isSome := by
  rw [Option.isSome_iff_exists]
  simp only [made?_eq_some_iff]
  exact exists_comm

theorem made?_eq_none_iff (env : Environment ι β) (arguments : List (Option String))
    (c : Constructor ι β) : env.made? arguments c = none ↔ ¬ env.Qualifies arguments c := by
  rw [qualifies_iff_isSome, Option.not_isSome_iff_eq_none]

instance (env : Environment ι β) (arguments : List (Option String)) :
    DecidablePred (env.Qualifies arguments) :=
  fun c => decidable_of_iff _ (env.qualifies_iff_isSome arguments c).symm

/-! ## The first of them -/

/-- Constructors with another number of parameters are not even tried, which comes to the same as if
they had made nothing. -/
theorem fst_construct_candidates (env : Environment ι β) (type : String)
    (arguments : List (Option String)) (place : Nat) (cs : List (Constructor ι β)) :
    (env.construct type arguments place (cs.filter fun c => c.arity = arguments.length)).1 =
      cs.findSome? (env.made? arguments) := by
  induction cs generalizing place with
  | nil => rfl
  | cons c cs ih =>
    rw [List.findSome?_cons]
    by_cases arity : c.arity = arguments.length
    · rw [List.filter_cons_of_pos (by simpa using arity), construct_cons, made?, if_pos arity, ih]
      cases env.attempt c arguments <;> rfl
    · rw [List.filter_cons_of_neg (by simpa using arity), made?, if_neg arity, ih]

/-- What makes nothing can be left out. -/
theorem findSome?_filter_qualifies (env : Environment ι β) (arguments : List (Option String))
    (cs : List (Constructor ι β)) :
    (cs.filter (env.Qualifies arguments)).findSome? (env.made? arguments) =
      cs.findSome? (env.made? arguments) := by
  induction cs with
  | nil => rfl
  | cons c cs ih =>
    by_cases h : env.Qualifies arguments c
    · rw [List.filter_cons_of_pos (by simpa using h), List.findSome?_cons, List.findSome?_cons, ih]
    · rw [List.filter_cons_of_neg (by simpa using h), List.findSome?_cons,
        (env.made?_eq_none_iff arguments c).2 h, ih]

theorem fst_bind (env : Environment ι β) (e : Expression) (d : TypeDecl ι β) :
    (env.bind e d).1 =
      match d.constructors.findSome? (env.made? e.arguments) with
      | none => .error (.noConstructor d.name e.arguments.length)
      | some made => .ok (env.assignAll d made e.assignments).1 := by
  rw [← env.fst_construct_candidates d.name e.arguments 0]
  unfold bind candidates
  rcases env.construct d.name e.arguments 0 _ with ⟨none | made, events⟩ <;> rfl

/-- Assignments do not look at the constructors of a type. -/
theorem assignAll_constructors (env : Environment ι β) (d : TypeDecl ι β)
    (cs : List (Constructor ι β))
    (target : ι) (pairs : List (String × Option String)) :
    env.assignAll { d with constructors := cs } target pairs = env.assignAll d target pairs := by
  induction pairs generalizing target with
  | nil => rfl
  | cons pair pairs ih =>
    have here : env.assign { d with constructors := cs } target pair.1 pair.2 =
        env.assign d target pair.1 pair.2 := rfl
    simp only [assignAll, here, ih]

/-! ## Arguments by index -/

theorem exists_ordered (e : Expression) :
    ∃ ordered : List (UInt64 × Option String), ordered.Perm e.indexed ∧
      ordered.Pairwise (fun p q => p.1 ≤ q.1) ∧ e.arguments = ordered.map Prod.snd := by
  have sorted : (e.indexed.mergeSort fun a b => a.1 ≤ b.1).Pairwise fun a b => a.1 ≤ b.1 := by
    have trans (a b c : UInt64 × Option String) (ab : decide (a.1 ≤ b.1) = true)
        (bc : decide (b.1 ≤ c.1) = true) : decide (a.1 ≤ c.1) = true := by
      rw [decide_eq_true_eq] at ab bc ⊢
      exact UInt64.le_trans ab bc
    have total (a b : UInt64 × Option String) :
        (decide (a.1 ≤ b.1) || decide (b.1 ≤ a.1)) = true := by
      simpa using UInt64.le_total a.1 b.1
    exact (List.pairwise_mergeSort trans total e.indexed).imp fun h => of_decide_eq_true h
  exact ⟨_, List.mergeSort_perm e.indexed _, sorted, rfl⟩

/-! ## Binding -/

/-- The arguments are taken by index. A binding starts from what the first constructor that
qualifies makes of them, fails exactly if there is none, and depends on no other constructor than
those that qualify. -/
theorem bind_first_qualifying (env : Environment ι β) (e : Expression) (d : TypeDecl ι β) :
    (∃ ordered : List (UInt64 × Option String), ordered.Perm e.indexed ∧
      ordered.Pairwise (fun p q => p.1 ≤ q.1) ∧ e.arguments = ordered.map Prod.snd) ∧
    (∀ i, (env.bind e d).1 = .ok i ↔ ∃ before c after values made,
      d.constructors = before ++ c :: after ∧
      (∀ b ∈ before, ¬ env.Qualifies e.arguments b) ∧ env.Accepts c e.arguments values made ∧
      i = (env.assignAll d made e.assignments).1) ∧
    (∀ err, (env.bind e d).1 = .error err ↔
      err = .noConstructor d.name e.indexed.length ∧
      ∀ c ∈ d.constructors, ¬ env.Qualifies e.arguments c) ∧
    ∀ cs, cs.filter (env.Qualifies e.arguments) =
        d.constructors.filter (env.Qualifies e.arguments) →
      (env.bind e { d with constructors := cs }).1 = (env.bind e d).1 := by
  refine ⟨exists_ordered e, fun i => ?_, fun err => ?_, fun cs same => ?_⟩
  · rw [fst_bind]
    constructor
    · intro h
      cases found : d.constructors.findSome? (env.made? e.arguments) with
      | none => rw [found] at h; cases h
      | some made =>
        rw [found] at h
        obtain ⟨before, c, after, whole, here, passed⟩ := List.findSome?_eq_some_iff.1 found
        obtain ⟨values, accepts⟩ := (env.made?_eq_some_iff _ _ _).1 here
        exact ⟨before, c, after, values, made, whole,
          fun b hb => (env.made?_eq_none_iff _ _).1 (passed b hb), accepts, (Except.ok.inj h).symm⟩
    · rintro ⟨before, c, after, values, made, whole, passed, accepts, rfl⟩
      have found : d.constructors.findSome? (env.made? e.arguments) = some made :=
        List.findSome?_eq_some_iff.2 ⟨before, c, after, whole,
          (env.made?_eq_some_iff _ _ _).2 ⟨values, accepts⟩,
          fun b hb => (env.made?_eq_none_iff _ _).2 (passed b hb)⟩
      rw [found]
  · rw [fst_bind, ← Expression.length_arguments]
    simp only [← made?_eq_none_iff, ← List.findSome?_eq_none_iff]
    cases d.constructors.findSome? (env.made? e.arguments) <;> simp [eq_comm]
  · rw [fst_bind, fst_bind, ← findSome?_filter_qualifies, same, findSome?_filter_qualifies]
    simp only [assignAll_constructors, TypeDecl.name]

/-- The arguments are written with a gap and out of order. The first constructor has too few
parameters, the second wants a number where there is none, and the third fails; the last would do,
but comes too late. Without the first three nothing changes. -/
theorem bind_first_qualifying_sparse :
    let text : TypeHead := .plain Namespace.system "String" .text
    let number : TypeHead := .plain Namespace.system "Int32" .convertible
    let takes (place : Nat) (params : List TypeHead) :
        Constructor (Nat × List (Value Int32)) Int32 := ⟨params, fun values => .ok (place, values)⟩
    let fails (params : List TypeHead) : Constructor (Nat × List (Value Int32)) Int32 :=
      ⟨params, fun _ => .error (.refused "no")⟩
    let late := [takes 3 [number, text], takes 4 [text, text]]
    let early := [takes 0 [text], takes 1 [text, number], fails [text, text]]
    let d : TypeDecl (Nat × List (Value Int32)) Int32 :=
      ⟨.plain "urn:t" "T" .object, early ++ late, [], []⟩
    let env : Environment (Nat × List (Value Int32)) Int32 :=
      ⟨.system, ConversionTable.empty.register number.id (.int32 ⟨"int", some, id⟩), .empty⟩
    let e := Expression.parse "\x7bT 7=b, 2=5\x7d"
    let made : Nat × List (Value Int32) := (3, [.boxed 5, .text "b"])
    e.arguments = [some "5", some "b"] ∧ (env.bind e d).1 = .ok made ∧
      (env.bind e { d with constructors := late }).1 = .ok made := by
  intro text number takes fails late early d env e made
  have entries : e.indexed = [(7, some "b"), (2, some "5")] := by decide +kernel
  have arguments : e.arguments = [some "5", some "b"] := by
    rw [Expression.arguments, entries]
    simp [List.mergeSort]
  have assignments : e.assignments = [] := by decide +kernel
  have passed : ∀ c ∈ early, ¬ env.Qualifies [some "5", some "b"] c := by decide +kernel
  obtain ⟨values, accepts⟩ : ∃ values, env.Accepts (takes 3 [number, text])
      [some "5", some "b"] values made :=
    (env.made?_eq_some_iff _ _ _).1 (by decide +kernel)
  obtain ⟨-, first, -, others⟩ := bind_first_qualifying env e d
  rw [arguments] at first others
  have bound : (env.bind e d).1 = .ok made :=
    (first made).2 ⟨early, _, _, values, made, rfl, passed, accepts, by rw [assignments]; rfl⟩
  refine ⟨arguments, bound, (others late ?_).trans bound⟩
  have none : early.filter (env.Qualifies [some "5", some "b"]) = [] := by
    simpa using passed
  have split : d.constructors = early ++ late := rfl
  rw [split, List.filter_append, none, List.nil_append]

end Environment

end MarkupBinding
