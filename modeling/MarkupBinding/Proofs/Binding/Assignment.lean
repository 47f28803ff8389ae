import Mathlib.Data.List.Basic
import MarkupBinding.Binding
import MarkupBinding.Expression.Parser
/-!
# What becomes of each assignment

Once there is an instance, the named entries of an expression that are not reserved are assigned to
it one after another. Each of them either sets the first property of its name, once, to the
converted value, or is passed over: because there is no such property, it is read-only, the text
cannot be converted, or the setter fails. `Treats` has a case for each of these. A property that the
type defines for other elements does not count as one of its own, and a setter that fails leaves no
trace in the instance, which is why an entry that is passed over is worth a report and nothing else.

So no entry depends on another one that was passed over: the instance is the same without it.

Results:

* `mem_assignments_iff`, `assignments_sublist`: the assignments are the entries whose names are not
  reserved, in the order of the entries.
* `exists_treats`, `assign_of_treats`: an assignment is treated in one of these ways, and what it
  leaves and reports is that of the case.
* `treatsAll_assignAll`: so are assignments one after another.
* `assignAll_filter`: what was passed over can be left out.
* `bind_assigns`: all this of a binding, of which nothing but the construction can fail.
-/
namespace MarkupBinding

variable {ι β : Type}

/-- The first property of a name, in the order of declaration. -/
def TypeDecl.IsFirst (d : TypeDecl ι β) (name : String) (p : Property ι β) : Prop :=
  ∃ before after, d.properties = before ++ p :: after ∧ p.name = name ∧ ∀ q ∈ before, q.name ≠ name

/-- What becomes of an assignment. -/
inductive Treatment (ι β : Type) where
  | made (p : Property ι β) (v : Value β)
  | skipped (report : BindingEvent)

/-- The report about an assignment that was not made. -/
def Treatment.report? : Treatment ι β → Option BindingEvent
  | .made .. => none
  | .skipped report => some report

/-! ## Which entries are assigned -/

namespace Expression

theorem assigned?_eq_some_iff {entry : Entry} {name : String} {input : Option String} :
    assigned? entry = some (name, input) ↔
      entry = ⟨.named name, input⟩ ∧ (Key.named name).isReserved = false := by
  obtain ⟨key, value⟩ := entry
  cases key with
  | typeName => simp [assigned?]
  | positional index => simp [assigned?]
  | named k =>
    cases reserved : (Key.named k).isReserved with
    | true =>
      simp only [assigned?, reserved, if_true, Entry.mk.injEq, Key.named.injEq]
      constructor
      · intro h
        cases h
      · rintro ⟨⟨rfl, -⟩, free⟩
        rw [reserved] at free
        cases free
    | false =>
      simp only [assigned?, reserved, Entry.mk.injEq, Key.named.injEq, Option.some.injEq,
        Prod.mk.injEq, Bool.false_eq_true, if_false]
      constructor
      · rintro ⟨rfl, rfl⟩
        exact ⟨⟨rfl, rfl⟩, reserved⟩
      · exact And.left

theorem unreserved_iff {name : String} :
    (Key.named name).isReserved = false ↔
      name.toList.head? ≠ some '@' ∧ ¬ (name ≠ "" ∧ ∀ c ∈ name.toList, c.isDigit = true) := by
  simp [Key.isReserved, Decimal.isNumeral]

/-- The entry that an assignment was written as. -/
def assignment (pair : String × Option String) : Entry := ⟨.named pair.1, pair.2⟩

theorem mem_assignments_iff {e : Expression} {name : String} {input : Option String} :
    (name, input) ∈ e.assignments ↔
      ⟨.named name, input⟩ ∈ e.entries ∧ (Key.named name).isReserved = false := by
  simp only [assignments, List.mem_filterMap, assigned?_eq_some_iff]
  constructor
  · rintro ⟨_, mem, rfl, unreserved⟩
    exact ⟨mem, unreserved⟩
  · rintro ⟨mem, unreserved⟩
    exact ⟨_, mem, rfl, unreserved⟩

/-- Assignments are entries, in the order in which these were written. -/
theorem assignments_sublist (e : Expression) :
    (e.assignments.map assignment).Sublist e.entries := by
  obtain ⟨entries⟩ := e
  unfold assignments
  induction entries with
  | nil => exact List.Sublist.refl _
  | cons entry entries ih =>
    cases h : assigned? entry with
    | none =>
      rw [List.filterMap_cons_none h]
      exact ih.cons entry
    | some pair =>
      rw [List.filterMap_cons_some h, List.map_cons, (assigned?_eq_some_iff.1 h).1]
      exact ih.cons_cons _

theorem assignments_filter (e : Expression) (keep : Entry → Bool) :
    assignments ⟨e.entries.filter keep⟩ = e.assignments.filter (keep ∘ assignment) := by
  unfold assignments
  rw [List.filterMap_filter, List.filter_filterMap]
  refine List.filterMap_congr fun entry _ => ?_
  cases h : assigned? entry with
  | none => split <;> rfl
  | some pair =>
    have whole : assignment pair = entry := (assigned?_eq_some_iff.1 h).1.symm
    cases hkeep : keep entry <;> simp [Option.filter_some, whole, hkeep]

theorem arguments_filter {e : Expression} {keep : Entry → Bool}
    (kept : ∀ entry ∈ e.entries, (indexed? entry).isSome → keep entry = true) :
    arguments ⟨e.entries.filter keep⟩ = e.arguments := by
  have same : indexed ⟨e.entries.filter keep⟩ = e.indexed := by
    unfold indexed
    rw [List.filterMap_filter]
    refine List.filterMap_congr fun entry mem => ?_
    cases h : indexed? entry with
    | none => split <;> rfl
    | some p => rw [if_pos (kept entry mem (by rw [h]; rfl))]
  rw [arguments, arguments, same]

end Expression

namespace Environment

/-- How the assignment of a text to a property of an instance may be treated, and the instance after
it. -/
inductive Treats (env : Environment ι β) (d : TypeDecl ι β) (target : ι) (name : String)
    (input : Option String) : Treatment ι β → ι → Prop
  | made {p : Property ι β} {set : ι → Value β → Except HostError ι} {v : Value β} {next : ι}
      (first : d.IsFirst name p) (writable : p.set? = some set)
      (converted : env.convert p.type input = .ok v) (accepted : set target v = .ok next) :
    Treats env d target name input (.made p v) next
  | missing (absent : ∀ p ∈ d.properties, p.name ≠ name) :
    Treats env d target name input (.skipped (.notWritable d.name name)) target
  | readOnly {p : Property ι β} (first : d.IsFirst name p) (fixed : p.set? = none) :
    Treats env d target name input (.skipped (.notWritable d.name name)) target
  | unconvertible {p : Property ι β} {set : ι → Value β → Except HostError ι}
      {err : ConversionError}
      (first : d.IsFirst name p) (writable : p.set? = some set)
      (failed : env.convert p.type input = .error err) :
    Treats env d target name input (.skipped (.notAssigned d.name name (.conversion err))) target
  | refused {p : Property ι β} {set : ι → Value β → Except HostError ι} {v : Value β}
      {err : HostError}
      (first : d.IsFirst name p) (writable : p.set? = some set)
      (converted : env.convert p.type input = .ok v) (failed : set target v = .error err) :
    Treats env d target name input (.skipped (.notAssigned d.name name (.host err))) target

/-- How assignments are treated, each on what the one before it left. -/
inductive TreatsAll (env : Environment ι β) (d : TypeDecl ι β) :
    ι → List (String × Option String) → List (Treatment ι β) → ι → Prop
  | nil (target : ι) : TreatsAll env d target [] [] target
  | cons {target next final : ι} {name : String} {input : Option String}
      {treatment : Treatment ι β} {pairs : List (String × Option String)}
      {treatments : List (Treatment ι β)} (first : env.Treats d target name input treatment next)
      (rest : TreatsAll env d next pairs treatments final) :
    TreatsAll env d target ((name, input) :: pairs) (treatment :: treatments) final

/-! ## One assignment -/

theorem property?_eq_some_iff {d : TypeDecl ι β} {name : String} {p : Property ι β} :
    d.property? name = some p ↔ d.IsFirst name p := by
  unfold TypeDecl.property? TypeDecl.IsFirst
  rw [List.find?_eq_some_iff_append]
  constructor
  · rintro ⟨same, before, after, whole, others⟩
    exact ⟨before, after, whole, by simpa using same, fun q hq => by simpa using others q hq⟩
  · rintro ⟨before, after, whole, same, others⟩
    exact ⟨by simpa using same, before, after, whole, fun q hq => by simpa using others q hq⟩

theorem property?_eq_none_iff {d : TypeDecl ι β} {name : String} :
    d.property? name = none ↔ ∀ p ∈ d.properties, p.name ≠ name := by
  simp [TypeDecl.property?]

theorem writable?_of_first {d : TypeDecl ι β} {name : String} {p : Property ι β}
    (first : d.IsFirst name p) : d.writable? name = if p.set?.isSome then some p else none := by
  rw [TypeDecl.writable?, property?_eq_some_iff.2 first, Option.filter_some]
  rfl

theorem exists_treats (env : Environment ι β) (d : TypeDecl ι β) (target : ι) (name : String)
    (input : Option String) :
    ∃ treatment next, env.Treats d target name input treatment next := by
  cases found : d.property? name with
  | none => exact ⟨_, _, .missing (property?_eq_none_iff.1 found)⟩
  | some p =>
    have first := property?_eq_some_iff.1 found
    cases setter : p.set? with
    | none => exact ⟨_, _, .readOnly first setter⟩
    | some set =>
      cases converted : env.convert p.type input with
      | error err => exact ⟨_, _, .unconvertible first setter converted⟩
      | ok v =>
        cases accepted : set target v with
        | error err => exact ⟨_, _, .refused first setter converted accepted⟩
        | ok next => exact ⟨_, _, .made first setter converted accepted⟩

theorem assign_of_writable {env : Environment ι β} {d : TypeDecl ι β} {target : ι} {name : String}
    {input : Option String} {p : Property ι β} {set : ι → Value β → Except HostError ι}
    (first : d.IsFirst name p) (writable : p.set? = some set) :
    env.assign d target name input =
      match env.assignTo p target input with
      | .ok next => (next, [])
      | .error obstacle => (target, [.notAssigned d.name name obstacle]) := by
  rw [assign, writable?_of_first first, writable]
  rfl

theorem assignTo_of_converted {env : Environment ι β} {target : ι} {input : Option String}
    {p : Property ι β} {set : ι → Value β → Except HostError ι} {v : Value β}
    (writable : p.set? = some set) (converted : env.convert p.type input = .ok v) :
    env.assignTo p target input = (set target v).mapError .host := by
  unfold assignTo Property.assign
  rw [converted, writable]

theorem assign_of_treats {env : Environment ι β} {d : TypeDecl ι β} {target next : ι}
    {name : String}
    {input : Option String} {treatment : Treatment ι β}
    (h : env.Treats d target name input treatment next) :
    env.assign d target name input = (next, treatment.report?.toList) := by
  cases h with
  | missing absent =>
    rw [assign, TypeDecl.writable?, property?_eq_none_iff.2 absent]
    rfl
  | readOnly first fixed =>
    rw [assign, writable?_of_first first, fixed]
    rfl
  | made first writable converted accepted =>
    rw [assign_of_writable first writable, assignTo_of_converted writable converted, accepted]
    rfl
  | unconvertible first writable failed =>
    rw [assign_of_writable first writable, assignTo, failed]
    rfl
  | refused first writable converted failed =>
    rw [assign_of_writable first writable, assignTo_of_converted writable converted, failed]
    rfl

theorem treats_assign (env : Environment ι β) (d : TypeDecl ι β) (target : ι) (name : String)
    (input : Option String) :
    ∃ treatment, env.Treats d target name input treatment (env.assign d target name input).1 ∧
      (env.assign d target name input).2 = treatment.report?.toList := by
  obtain ⟨treatment, next, h⟩ := env.exists_treats d target name input
  rw [assign_of_treats h]
  exact ⟨treatment, h, rfl⟩

theorem next_of_skipped {env : Environment ι β} {d : TypeDecl ι β} {target next : ι} {name : String}
    {input : Option String} {report : BindingEvent}
    (h : env.Treats d target name input (.skipped report) next) : next = target := by
  cases h <;> rfl

/-- The reports about assignments that were passed over are no traces, and say that something was
skipped. -/
theorem skipped_report {env : Environment ι β} {d : TypeDecl ι β} {target next : ι} {name : String}
    {input : Option String} {report : BindingEvent}
    (h : env.Treats d target name input (.skipped report) next) :
    report.isTrace = false ∧ ", skipped".toList <:+ report.message.toList := by
  have ends (front : String) : ", skipped".toList <:+ (front ++ ", skipped").toList := by
    rw [String.toList_append]
    exact List.suffix_append _ _
  cases h with
  | missing _ => exact ⟨rfl, ends _⟩
  | readOnly _ _ => exact ⟨rfl, ends _⟩
  | unconvertible _ _ _ => exact ⟨rfl, ends _⟩
  | refused _ _ _ _ => exact ⟨rfl, ends _⟩

/-! ## One after another -/

theorem treatsAll_assignAll (env : Environment ι β) (d : TypeDecl ι β) (target : ι)
    (pairs : List (String × Option String)) :
    ∃ treatments, env.TreatsAll d target pairs treatments (env.assignAll d target pairs).1 ∧
      (env.assignAll d target pairs).2 = treatments.filterMap Treatment.report? := by
  induction pairs generalizing target with
  | nil => exact ⟨[], .nil target, rfl⟩
  | cons pair pairs ih =>
    obtain ⟨name, input⟩ := pair
    obtain ⟨treatment, first, report⟩ := env.treats_assign d target name input
    obtain ⟨treatments, rest, reports⟩ := ih (env.assign d target name input).1
    refine ⟨treatment :: treatments, .cons first rest, ?_⟩
    simp only [assignAll, report, reports]
    cases h : treatment.report? <;> simp [h]

theorem skipped_of_treatsAll {env : Environment ι β} {d : TypeDecl ι β} {target final : ι}
    {pairs : List (String × Option String)} {treatments : List (Treatment ι β)}
    (h : env.TreatsAll d target pairs treatments final) {report : BindingEvent}
    (mem : Treatment.skipped report ∈ treatments) :
    report.isTrace = false ∧ ", skipped".toList <:+ report.message.toList := by
  induction h with
  | nil => cases mem
  | cons first _ ih =>
    rcases List.mem_cons.1 mem with rfl | mem
    · exact skipped_report first
    · exact ih mem

/-- Whatever is left out, as long as all assignments that were made are kept. -/
theorem assignAll_filter {env : Environment ι β} {d : TypeDecl ι β} {target final : ι}
    {pairs : List (String × Option String)} {treatments : List (Treatment ι β)}
    (h : env.TreatsAll d target pairs treatments final) {keep : String × Option String → Bool}
    (kept : ∀ pair p v, (pair, .made p v) ∈ pairs.zip treatments → keep pair = true) :
    (env.assignAll d target (pairs.filter keep)).1 = final := by
  induction h with
  | nil => rfl
  | @cons target next final name input treatment pairs treatments first _ ih =>
    have rest := ih fun pair p v mem => kept pair p v (List.mem_cons_of_mem _ mem)
    cases hkeep : keep (name, input) with
    | true =>
      rw [List.filter_cons_of_pos hkeep, assignAll, assign_of_treats first]
      exact rest
    | false =>
      -- It was not made, so it left the instance as it was.
      rw [List.filter_cons_of_neg (by simp [hkeep])]
      cases treatment with
      | made p v =>
        rw [kept (name, input) p v List.mem_cons_self] at hkeep
        cases hkeep
      | skipped report =>
        rw [next_of_skipped first] at rest
        exact rest

/-! ## Binding -/

/-- After construction a binding cannot fail. Its assignments are the entries with unreserved names,
in their order, each of them made or passed over with one report; and an expression that keeps the
arguments and whatever was assigned has the same instance. -/
theorem bind_assigns {env : Environment ι β} {e : Expression} {d : TypeDecl ι β} {start : ι}
    {rejected : List BindingEvent}
    (constructed : env.construct d.name e.arguments 0 (candidates d e.arguments) =
      (some start, rejected)) :
    ∃ treatments i, env.TreatsAll d start e.assignments treatments i ∧
      env.bind e d =
        (.ok i, rejected ++ treatments.filterMap Treatment.report? ++ [.bound e d.name]) ∧
      (∀ report, .skipped report ∈ treatments → report.isTrace = false ∧
        ", skipped".toList <:+ report.message.toList) ∧
      (e.assignments.map Expression.assignment).Sublist e.entries ∧
      (∀ name input, (name, input) ∈ e.assignments ↔ ⟨.named name, input⟩ ∈ e.entries ∧
        name.toList.head? ≠ some '@' ∧ ¬ (name ≠ "" ∧ ∀ c ∈ name.toList, c.isDigit = true)) ∧
      ∀ keep : Entry → Bool,
        (∀ entry ∈ e.entries, (Expression.indexed? entry).isSome → keep entry = true) →
        (∀ pair p v, (pair, .made p v) ∈ e.assignments.zip treatments →
          keep (Expression.assignment pair) = true) →
        (env.bind ⟨e.entries.filter keep⟩ d).1 = .ok i := by
  obtain ⟨treatments, treated, reports⟩ := env.treatsAll_assignAll d start e.assignments
  refine ⟨treatments, _, treated, ?_, fun _ => skipped_of_treatsAll treated,
    e.assignments_sublist, fun name input => ?_, fun keep arguments made => ?_⟩
  · rw [bind, constructed, ← reports]
  · rw [Expression.mem_assignments_iff, Expression.unreserved_iff]
  · rw [bind, Expression.arguments_filter arguments, constructed, Expression.assignments_filter]
    exact congrArg Except.ok (assignAll_filter treated made)

/-- Two of the four names are reserved, so nothing is assigned to the properties that have them; a
third property can only be read. Without these three entries the instance is the same. -/
theorem bind_assigns_unreserved :
    let text : TypeHead := .plain Namespace.system "String" .text
    let number : TypeHead := .plain Namespace.system "Int32" .convertible
    let huge := "18446744073709551616"
    let log (name : String) (type : TypeHead) : Property (List (String × Value Int32)) Int32 :=
      ⟨⟨name, type⟩, some fun assigned v => .ok (assigned ++ [(name, v)])⟩
    let d : TypeDecl (List (String × Value Int32)) Int32 := ⟨.plain "urn:t" "T" .object,
      [⟨[], fun _ => .ok []⟩],
      [log "@Foo" text, log huge text, .readOnly ⟨"Fixed", text⟩, log "Count" number], []⟩
    let env : Environment (List (String × Value Int32)) Int32 :=
      ⟨.system, ConversionTable.empty.register number.id (.int32 ⟨"int", some, id⟩), .empty⟩
    let e := Expression.parse "\x7bT @Foo=a, 18446744073709551616=b, Fixed=c, Count=5\x7d"
    let start : List (String × Value Int32) := []
    let final : List (String × Value Int32) := [("Count", .boxed 5)]
    env.construct d.name e.arguments 0 (candidates d e.arguments) = (some start, []) ∧
      env.bind e d = (.ok final, [.notWritable "T" "Fixed", .bound e "T"]) ∧
      (env.bind ⟨e.entries.filter fun entry => entry.key = .named "Count"⟩ d).1 = .ok final := by
  intro text number huge log d env e start final
  have indexed : e.indexed = [] := by decide +kernel
  have arguments : e.arguments = [] := by
    rw [Expression.arguments, indexed]
    simp
  have pairs : e.assignments = [("Fixed", some "c"), ("Count", some "5")] := by decide +kernel
  have constructed : env.construct d.name e.arguments 0 (candidates d e.arguments) =
      (some start, []) := by
    rw [arguments]
    rfl
  obtain ⟨treatments, i, treated, bound, -, -, -, isolated⟩ := bind_assigns constructed
  have assigned : env.assignAll d start e.assignments = (final, [.notWritable "T" "Fixed"]) := by
    rw [pairs]
    decide +kernel
  have bound : env.bind e d = (.ok final, [.notWritable "T" "Fixed", .bound e "T"]) := by
    rw [bind, constructed]
    dsimp only
    rw [assigned]
    rfl
  obtain ⟨treatments, i, treated, whole, -, -, -, isolated⟩ := bind_assigns constructed
  rw [whole] at bound
  obtain ⟨rfl⟩ : i = final := Except.ok.inj (congrArg Prod.fst bound)
  refine ⟨constructed, whole.trans bound, isolated _ (by decide +kernel) ?_⟩
  rw [pairs] at treated ⊢
  intro pair p v mem
  cases treated with
  | @cons _ next _ _ _ treatment _ treatments first rest =>
    rcases List.mem_cons.1 mem with same | mem
    · -- A property that can only be read is reported.
      cases (Prod.mk.inj same).2
      have silent : (env.assign d start "Fixed" (some "c")).2 = [] := by
        rw [assign_of_treats first]
        rfl
      exact absurd silent (by decide +kernel)
    · cases treatments with
      | nil => cases mem
      | cons treatment treatments =>
        rcases List.mem_cons.1 mem with same | mem
        · rw [(Prod.mk.inj same).1]
          rfl
        · cases mem

end Environment

end MarkupBinding
