import MarkupBinding.Binding
import MarkupBinding.Proofs.Expression.Printed
/-!
# Arguments and assignments do not see each other

The parts of an expression are arguments and assignments, in any order. An argument gets the index
after the highest one in use, and an assignment stands where its name first came in, so the two
kinds are kept apart: entering an assignment changes nothing about the arguments, and an argument
nothing about the assignments. Two texts with the same arguments in order, and the same assignments
in order, say the same, however the one kind is mixed into the other. The part that comes last is
read in another way than those before commas, but not to another effect, since its value is not
empty.

Results:

* `indexed_enterAll`, `assignments_enterAll`: after a list of parts each kind is what its own parts
  make of it.
* `indexed_pushAll`: arguments are numbered in order.
* `parse_compose`: a text that is put together from parts is read as these parts.
* `bindAs_compose`: mixing the parts in another way gives the same instance or the same error.
-/
namespace MarkupBinding.Expression

open Text
open Mark (mark chars separates written? writtenAll)

/-- What stands between two commas. -/
inductive Part where
  | argument (value : String)
  | assignment (name value : String)
deriving DecidableEq

namespace Part

/-- The value of an argument. -/
def argument? : Part → Option String
  | argument value => some value
  | assignment .. => none

/-- The name and the value of an assignment. -/
def assignment? : Part → Option (String × String)
  | argument _ => none
  | assignment name value => some (name, value)

/-- The value of a part. -/
def value : Part → String
  | argument value => value
  | assignment _ value => value

/-- The entry that a part becomes; an argument has its index still to come. -/
def entry : Part → Entry
  | argument value => ⟨.positional 0, some value⟩
  | assignment name value => ⟨.named name, some value⟩

/-- The text of a part. -/
def chars : Part → List Char
  | argument value => value.toList
  | assignment name value => name.toList ++ '=' :: value.toList

/-- The part is read as it is written: no separator in it is taken for one, the value closes what it
opens and is not empty, and the name is not reserved. -/
structure Plain (p : Part) : Prop where
  value : IsValue p.value
  closed : Closes p.value.toList
  filled : p.value ≠ ""
  noSign : ∀ value ∈ p.argument?, NoneAt '=' (mark .top value.toList)
  name : ∀ a ∈ p.assignment?, IsKey a.1
  unreserved : ∀ a ∈ p.assignment?,
    a.1.toList.head? ≠ some '@' ∧ Decimal.isNumeral a.1.toList = false

instance : DecidablePred Plain := fun _ =>
  decidable_of_iff (_ ∧ _ ∧ _ ∧ _ ∧ _ ∧ _)
    ⟨fun h => ⟨h.1, h.2.1, h.2.2.1, h.2.2.2.1, h.2.2.2.2.1, h.2.2.2.2.2⟩,
      fun h => ⟨h.value, h.closed, h.filled, h.noSign, h.name, h.unreserved⟩⟩

/-- Both lists have the same arguments in the same order, and the same assignments. -/
structure Rearranged (parts parts' : List Part) : Prop where
  arguments : parts'.filterMap argument? = parts.filterMap argument?
  assignments : parts'.filterMap assignment? = parts.filterMap assignment?

end Part

/-- The text of an expression: its type name and its parts, with a gap behind each comma. -/
def compose (gap : List Char) (name : String) (parts : List Part) : String :=
  String.ofList
    ('{' :: (name.toList ++ ' ' :: (',' :: gap).intercalate (parts.map Part.chars)) ++ ['}'])

/-! ## One part -/

namespace Part

theorem spelled_entry (p : Part) : spelled p.entry = p.chars := by
  cases p <;> rfl

theorem value_entry (p : Part) : p.entry.value = some p.value := by
  cases p <;> rfl

theorem key_entry_ne (p : Part) : p.entry.key ≠ .typeName := by
  cases p <;> exact Key.noConfusion

namespace Plain

variable {p : Part}

theorem isReserved (h : p.Plain) : ∀ a ∈ p.assignment?, (Key.named a.1).isReserved = false := by
  intro a ha
  obtain ⟨sign, digits⟩ := h.unreserved a ha
  simp [Key.isReserved, sign, digits]

theorem isName (h : p.Plain) : ∀ a ∈ p.assignment?, IsName a.1 := by
  intro a ha
  obtain ⟨sign, digits⟩ := h.unreserved a ha
  have marker : a.1 ≠ Key.typeMarker := by
    intro e
    rw [e] at sign
    exact sign rfl
  exact Or.inl (Key.read_text_named marker digits)

theorem tidy (h : p.Plain) : Tidy p.entry := by
  cases p with
  | argument value =>
    exact ⟨fun _ named => (nomatch named), fun _ said => Option.some.inj said ▸ h.value⟩
  | assignment name value =>
    refine ⟨fun _ named => ?_, fun _ said => Option.some.inj said ▸ h.value⟩
    obtain rfl := Option.some.inj named
    exact ⟨h.name (name, value) rfl, h.isName (name, value) rfl⟩

theorem signFree (h : p.Plain) : SignFree p.entry := by
  cases p with
  | argument value =>
    intro q hq
    obtain rfl := Option.some.inj hq
    exact h.noSign value rfl
  | assignment name value => exact fun _ hq => nomatch hq

end Plain

theorem argument?_eq_some {p : Part} {value : String} (h : p.argument? = some value) :
    p = .argument value := by
  cases p with
  | argument v => rw [Option.some.inj h]
  | assignment n v => cases h

theorem assignment?_eq_some {p : Part} {a : String × String} (h : p.assignment? = some a) :
    p = .assignment a.1 a.2 := by
  cases p with
  | argument v => cases h
  | assignment n v => rw [← Option.some.inj h]

theorem Rearranged.mem {parts parts' : List Part} (h : Rearranged parts parts') {p : Part}
    (hp : p ∈ parts') : p ∈ parts := by
  cases p with
  | argument value =>
    have mem : value ∈ parts'.filterMap argument? := List.mem_filterMap.2 ⟨_, hp, rfl⟩
    rw [h.arguments] at mem
    obtain ⟨q, hq, same⟩ := List.mem_filterMap.1 mem
    exact argument?_eq_some same ▸ hq
  | assignment name value =>
    have mem : (name, value) ∈ parts'.filterMap assignment? := List.mem_filterMap.2 ⟨_, hp, rfl⟩
    rw [h.assignments] at mem
    obtain ⟨q, hq, same⟩ := List.mem_filterMap.1 mem
    exact assignment?_eq_some same ▸ hq

end Part

/-! ## Entering all parts -/

/-- Adds values as arguments, one after another. -/
def pushAll (e : Expression) (values : List String) : Expression :=
  values.foldl (fun e value => e.push (some value)) e

/-- Makes assignments one after another. -/
def assignEach (assigned : List (String × Option String)) (pairs : List (String × String)) :
    List (String × Option String) :=
  pairs.foldl (fun rows a => Keyed.upsert Prod.fst (a.1, some a.2) rows) assigned

/-- Enters parts one after another. -/
def enterAll (e : Expression) (parts : List Part) : Expression :=
  (parts.map fun p => asWritten p.entry).foldl enter e

theorem indexed_push_congr {a b : Expression} (same : a.indexed = b.indexed)
    (value : Option String) : (a.push value).indexed = (b.push value).indexed := by
  rw [push, push, indexed_insert_positional, indexed_insert_positional, lastIndex, lastIndex, same]

/-- The name of an assignment is entered as it is written. -/
theorem enter_assignment {name value : String} (h : (Part.assignment name value).Plain)
    (e : Expression) :
    e.enter (asWritten (Part.assignment name value).entry) =
      e.insert (.named name) (some value) := by
  have key : sourceKey name = .named name :=
    sourceKey_eq_named_iff.2 ⟨rfl, h.isName (name, value) rfl⟩
  rw [← key]
  rfl

theorem indexed_enterAll {parts : List Part} (plain : ∀ p ∈ parts, p.Plain) {a b : Expression}
    (same : a.indexed = b.indexed) :
    (a.enterAll parts).indexed = (b.pushAll (parts.filterMap Part.argument?)).indexed := by
  induction parts generalizing a b with
  | nil => exact same
  | cons p parts ih =>
    have others : ∀ q ∈ parts, q.Plain := fun q hq => plain q (List.mem_cons_of_mem p hq)
    cases p with
    | argument value => exact ih others (indexed_push_congr same (some value))
    | assignment name value =>
      have entered := enter_assignment (plain _ List.mem_cons_self) a
      refine ih others ?_
      rw [entered, indexed_insert_named, same]

theorem assignments_enterAll {parts : List Part} (plain : ∀ p ∈ parts, p.Plain) (e : Expression) :
    (e.enterAll parts).assignments =
      assignEach e.assignments (parts.filterMap Part.assignment?) := by
  induction parts generalizing e with
  | nil => rfl
  | cons p parts ih =>
    have others : ∀ q ∈ parts, q.Plain := fun q hq => plain q (List.mem_cons_of_mem p hq)
    cases p with
    | argument value =>
      have entered :
          (e.enter (asWritten (Part.argument value).entry)).assignments = e.assignments :=
        assignments_insert_positional e _ (some value)
      have rest := ih others (e.enter (asWritten (Part.argument value).entry))
      rw [entered] at rest
      exact rest
    | assignment name value =>
      have first := plain _ List.mem_cons_self
      have rest := ih others (e.insert (.named name) (some value))
      rw [assignments_insert_named (first.isReserved (name, value) rfl),
        ← enter_assignment first] at rest
      exact rest

/-- As long as there are enough indices, arguments are numbered in order. -/
theorem indexed_pushAll {e : Expression} {values : List String}
    (few : e.lastIndex.toNat + values.length < UInt64.size) :
    (e.pushAll values).indexed.map (fun p => (p.2, p.1.toNat)) =
      e.indexed.map (fun p => (p.2, p.1.toNat)) ++
        (values.map some).zipIdx (e.lastIndex.toNat + 1) := by
  induction values generalizing e with
  | nil => simp [pushAll]
  | cons value values ih =>
    rw [List.length_cons] at few
    have room : e.lastIndex.toNat + 1 < UInt64.size := by omega
    have succ := (nextIndex_free room).2.1
    have last := lastIndex_push room (some value)
    have appended : (e.push (some value)).indexed =
        e.indexed ++ [(e.lastIndex + 1, some value)] := by
      rw [indexed, entries_push room, List.filterMap_append]
      rfl
    have rest := @ih (e.push (some value)) (by rw [last, succ]; omega)
    rw [appended, last, succ] at rest
    rw [pushAll, List.foldl_cons]
    refine rest.trans ?_
    simp [succ]

theorem arguments_of_counted {e : Expression} {values : List (Option String)} {first : Nat}
    (h : e.indexed.map (fun p => (p.2, p.1.toNat)) = values.zipIdx first) :
    e.arguments = values := by
  have indices : e.indexed.map (fun p => p.1.toNat) = List.range' first values.length := by
    simpa [Function.comp_def] using congrArg (List.map Prod.snd) h
  have ascending : e.indexed.Pairwise fun p q => p.1 < q.1 := by
    have sorted : (List.range' first values.length).Pairwise (· < ·) := List.pairwise_lt_range'
    rw [← indices, List.pairwise_map] at sorted
    exact sorted.imp fun lt => UInt64.lt_iff_toNat_lt.2 lt
  rw [arguments_of_ascending ascending]
  simpa [Function.comp_def] using congrArg (List.map Prod.fst) h

/-! ## Reading what is put together -/

/-- A type name that closes what it opens and has no blank outside is read as it is written. -/
theorem isWord_of_closed {name : String} (closed : Closes name.toList)
    (noBlank : ∀ m ∈ mark .top name.toList, m.separates isBlank = false) : IsWord name := by
  refine ⟨trim_eq_self (fun c first => ?_) (fun c last => ?_), noBlank⟩
  · cases e : name.toList with
    | nil => simp [e] at first
    | cons d s =>
      obtain rfl : d = c := by simpa [e] using first
      rw [e] at noBlank
      cases blank : isBlank d with
      | false => rfl
      | true =>
        have top := noBlank ⟨d, (Level.top.after d).isTop⟩ List.mem_cons_self
        simp [separates, Mark.after_blank blank, blank] at top
  · obtain ⟨s, e⟩ := List.getLast?_eq_some_iff.1 last
    rw [e, Closes, Level.afterText_append] at closed
    have outside : (Level.top.afterText s).after c = Level.top := closed
    have mem : ⟨c, true⟩ ∈ mark .top name.toList := by
      rw [e, Mark.mark_append]
      simp [mark, outside]
    simpa [separates] using noBlank _ mem

/-- The last part is read like the others, since its value is not empty. -/
theorem writtenAll_parts {parts : List Part} (plain : ∀ p ∈ parts, p.Plain) :
    writtenAll ((parts.map Part.chars).map (mark .top)) =
      parts.map fun p => asWritten p.entry := by
  have whole : reread (parts.map Part.entry) = parts.map Part.entry := by
    refine reread_eq_self (fun entry mem => ?_) (fun entry mem => Or.inl ?_)
    · obtain ⟨p, hp, rfl⟩ := List.mem_map.1 (List.dropLast_subset _ mem)
      exact ⟨p.value, p.value_entry, (plain p hp).closed⟩
    · obtain ⟨p, hp, rfl⟩ := List.mem_map.1 (List.mem_of_getLast? mem)
      exact ⟨p.value, p.value_entry, (plain p hp).filled⟩
  have said := writtenAll_spelled (List.forall_mem_map.2 fun p _ => p.key_entry_ne)
    (List.forall_mem_map.2 fun p hp => (plain p hp).tidy)
    (List.forall_mem_map.2 fun p hp => (plain p hp).signFree)
  rw [whole, List.map_map, List.map_map] at said
  rw [← Function.comp_def, ← said, List.map_map]
  refine congrArg writtenAll (List.map_congr_left fun p _ => ?_)
  rw [Function.comp_apply, Function.comp_apply, p.spelled_entry]

theorem parse_compose {name : String} (closed : Closes name.toList)
    (noBlank : ∀ m ∈ mark .top name.toList, m.separates isBlank = false) {gap : List Char}
    (blank : ∀ c ∈ gap, isBlank c = true) {parts : List Part} (plain : ∀ p ∈ parts, p.Plain) :
    parse (compose gap name parts) = (ofTypeName name).enterAll parts := by
  have comma : ∀ s ∈ parts.map Part.chars, NoneAt ',' (mark .top s) := by
    refine List.forall_mem_map.2 fun p hp => ?_
    rw [← p.spelled_entry]
    exact noComma_spelled (plain p hp).tidy
  have earlier : ∀ s ∈ (parts.map Part.chars).dropLast, Closes s := by
    intro s mem
    obtain ⟨p, hp, rfl⟩ := List.mem_map.1 (List.dropLast_subset _ mem)
    rw [← p.spelled_entry]
    refine closes_spelled (plain p hp).tidy ?_
    rw [p.value_entry]
    exact (plain p hp).closed
  rw [compose, parse_joined closed noBlank blank comma earlier, writtenAll_parts plain,
    (isWord_of_closed closed noBlank).trimmed, String.ofList_toList, enterAll]

/-! ## Mixing the parts -/

/-- That arguments are found in order takes indices for all of them, and an index has 64 bits. The
two texts are read alike in any case. -/
theorem bindAs_compose {name : String} (closed : Closes name.toList)
    (noBlank : ∀ m ∈ mark .top name.toList, m.separates isBlank = false) {gap gap' : List Char}
    (blank : ∀ c ∈ gap, isBlank c = true) (blank' : ∀ c ∈ gap', isBlank c = true)
    {parts parts' : List Part} (plain : ∀ p ∈ parts, p.Plain)
    (rearranged : Part.Rearranged parts parts') :
    let e := parse (compose gap name parts)
    let e' := parse (compose gap' name parts')
    let values := (parts.filterMap Part.argument?).map some
    e'.typeName = e.typeName ∧ e'.arguments = e.arguments ∧ e'.assignments = e.assignments ∧
      (values.length < UInt64.size → e.arguments = values ∧
        e.indexed.map (fun p => (p.2, p.1.toNat)) = values.zipIdx 1 ∧
        e'.indexed.map (fun p => (p.2, p.1.toNat)) = values.zipIdx 1) ∧
      ∀ {ι β α : Type} (view : ι → Option α) (env : Environment ι β) (d : TypeDecl ι β),
        (env.bindAs view e' d).1 = (env.bindAs view e d).1 := by
  intro e e' values
  have plain' : ∀ p ∈ parts', p.Plain := fun p hp => plain p (rearranged.mem hp)
  have read : e = (ofTypeName name).enterAll parts := parse_compose closed noBlank blank plain
  have read' : e' = (ofTypeName name).enterAll parts' := parse_compose closed noBlank blank' plain'
  have type : e'.typeName = e.typeName := by
    rw [read, read', enterAll, enterAll, typeName_foldl_enter, typeName_foldl_enter]
  have pushed :
      e.indexed = ((ofTypeName name).pushAll (parts.filterMap Part.argument?)).indexed := by
    rw [read, indexed_enterAll plain rfl]
  have indexed : e'.indexed = e.indexed := by
    rw [pushed, read', indexed_enterAll plain' rfl, rearranged.arguments]
  have arguments : e'.arguments = e.arguments := by
    rw [Expression.arguments, Expression.arguments, indexed]
  have assignments : e'.assignments = e.assignments := by
    rw [read, read', assignments_enterAll plain, assignments_enterAll plain',
      rearranged.assignments]
  have counted (few : values.length < UInt64.size) :
      e.indexed.map (fun p => (p.2, p.1.toNat)) = values.zipIdx 1 := by
    have start : (ofTypeName name).lastIndex.toNat + (parts.filterMap Part.argument?).length <
        UInt64.size := by
      rw [List.length_map] at few
      exact (Nat.zero_add _).symm ▸ few
    rw [pushed, indexed_pushAll start]
    rfl
  refine ⟨type, arguments, assignments,
    fun few => ⟨arguments_of_counted (counted few), counted few, ?_⟩, fun view env d => ?_⟩
  · rw [indexed, counted few]
  · rw [Environment.fst_bindAs, Environment.fst_bindAs,
      Environment.fst_bind_congr arguments assignments]

/-- An argument with a comma in braces and a name that is assigned twice, in two texts of which one
has all assignments in front. -/
theorem bindAs_compose_assignments_first :
    let parts : List Part := [.argument "a", .assignment "K" "1", .argument "\x7bb, c\x7d",
      .assignment "K" "\"2=3\""]
    let parts' : List Part := [.assignment "K" "1", .assignment "K" "\"2=3\"", .argument "a",
      .argument "\x7bb, c\x7d"]
    let e := parse (compose [' '] "x:T" parts)
    let e' := parse (compose [] "x:T" parts')
    compose [' '] "x:T" parts = "\x7bx:T a, K=1, \x7bb, c\x7d, K=\"2=3\"\x7d" ∧
      compose [] "x:T" parts' = "\x7bx:T K=1,K=\"2=3\",a,\x7bb, c\x7d\x7d" ∧
      e'.typeName = e.typeName ∧ e'.assignments = e.assignments ∧
      e'.arguments = [some "a", some "\x7bb, c\x7d"] := by
  intro parts parts' e e'
  have closed : Closes "x:T".toList := by decide
  have plain : ∀ p ∈ parts, p.Plain := by decide
  have rearranged : Part.Rearranged parts parts' := ⟨rfl, rfl⟩
  obtain ⟨type, arguments, assignments, counted, -⟩ := bindAs_compose closed (by decide)
    isBlank_space (fun _ none => absurd none List.not_mem_nil) plain rearranged
  refine ⟨by decide +kernel, by decide +kernel, type, assignments, arguments.trans ?_⟩
  exact (counted (by decide)).1

end MarkupBinding.Expression
