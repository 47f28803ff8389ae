import MarkupBinding.Expression.Parser
/-!
# Entering one entry after another

What is written is entered into an expression from left to right. A name that is not in use goes
behind all other entries, and so does an argument, under the index after the highest one: as long
as there is such an index, an argument never meets an entry of its own index. So a list of entries
with distinct names is entered as it stands, except that its arguments are numbered anew
(`numbered`) in the order in which they come.

Results:

* `entries_push`, `lastIndex_push`: an argument is appended, and has the highest index from then on.
* `entries_foldl_enter`: a list of entries is appended, its arguments numbered in order.
* `countP_foldl_enter`, `forall_values_foldl_enter`: no values come in but those that are entered.
* `values_numbered`, `assigned_numbered`: numbering changes neither the values of the arguments, in
  the order in which they come, nor the assignments.
* `ascending_numbered`, `arguments_of_ascending`: so this is the order of the numbered arguments.
* `numbered_eq_self`: arguments that were numbered in order keep their indices.
-/
namespace MarkupBinding.Expression

/-- The name of an entry that has one. -/
def name? (entry : Entry) : Option String :=
  match entry.key with
  | .named name => some name
  | _ => none

/-- An entry as it is written behind the type name: an argument without its index. -/
def asWritten (entry : Entry) : Written := ⟨name? entry, entry.value⟩

/-- The entries, with their arguments numbered in order behind an index. -/
def numbered (last : UInt64) : List Entry → List Entry
  | [] => []
  | ⟨.positional _, value⟩ :: rest => ⟨.positional (last + 1), value⟩ :: numbered (last + 1) rest
  | entry :: rest => entry :: numbered last rest

/-- An entry has the index. -/
def Uses (e : Expression) (index : UInt64) : Prop := .positional index ∈ e.entries.map Entry.key

instance (e : Expression) (index : UInt64) : Decidable (e.Uses index) :=
  inferInstanceAs (Decidable (_ ∈ _))

/-- The key of an entry can be written: it is not that of the type name, and a name is read as a
name. -/
def Writable (entry : Entry) : Prop :=
  entry.key ≠ .typeName ∧ ∀ name, entry.key = .named name → sourceKey name = .named name

theorem Writable.of_key {a b : Entry} (h : Writable a) (same : a.key = b.key) : Writable b := by
  unfold Writable at h ⊢
  rwa [same] at h

theorem mem_name? {entry : Entry} {name : String} :
    name ∈ name? entry ↔ entry.key = .named name := by
  unfold name?
  split <;> simp_all

/-- Entries with distinct keys have distinct names. -/
theorem names_of_keys {entries : List Entry} (h : (entries.map Entry.key).Nodup) :
    (entries.filterMap name?).Nodup := by
  refine List.pairwise_filterMap.2 ((List.pairwise_map.1 h).imp fun {a b} ne n hn k hk e => ne ?_)
  rw [mem_name?.1 hn, mem_name?.1 hk, e]

@[simp] theorem asWritten_positional (index : UInt64) (value : Option String) :
    asWritten ⟨.positional index, value⟩ = ⟨none, value⟩ := rfl

@[simp] theorem asWritten_named (name : String) (value : Option String) :
    asWritten ⟨.named name, value⟩ = ⟨some name, value⟩ := rfl

/-! ## The highest index -/

theorem le_foldl_max (l : List (UInt64 × Option String)) (m : UInt64) :
    m.toNat ≤ (l.foldl (fun m p => max m p.1) m).toNat ∧
      ∀ p ∈ l, p.1.toNat ≤ (l.foldl (fun m p => max m p.1) m).toNat := by
  induction l generalizing m with
  | nil => exact ⟨Nat.le_refl _, fun _ hp => absurd hp List.not_mem_nil⟩
  | cons q l ih =>
    obtain ⟨start, rest⟩ := ih (max m q.1)
    rw [toNat_max] at start
    refine ⟨by rw [List.foldl_cons]; omega, fun p hp => ?_⟩
    rw [List.foldl_cons]
    rcases List.mem_cons.1 hp with rfl | hp
    · omega
    · exact rest p hp

theorem le_lastIndex {e : Expression} {p : UInt64 × Option String} (h : p ∈ e.indexed) :
    p.1.toNat ≤ e.lastIndex.toNat :=
  (le_foldl_max e.indexed 0).2 p h

theorem uses_iff {e : Expression} {index : UInt64} :
    e.Uses index ↔ ∃ value, (index, value) ∈ e.indexed := by
  unfold Uses indexed
  rw [List.mem_map]
  constructor
  · rintro ⟨entry, mem, key⟩
    exact ⟨entry.value, List.mem_filterMap.2 ⟨entry, mem, by simp [indexed?, key]⟩⟩
  · rintro ⟨value, mem⟩
    obtain ⟨⟨key, v⟩, mem, shown⟩ := List.mem_filterMap.1 mem
    refine ⟨_, mem, ?_⟩
    cases key with
    | positional i => rw [(Prod.mk.inj (Option.some.inj shown)).1]
    | typeName => cases shown
    | named name => cases shown

theorem le_lastIndex_of_uses {e : Expression} {index : UInt64} (h : e.Uses index) :
    index.toNat ≤ e.lastIndex.toNat := by
  obtain ⟨value, mem⟩ := uses_iff.1 h
  exact le_lastIndex mem

theorem lastIndex_append (entries : List Entry) (entry : Entry) :
    lastIndex ⟨entries ++ [entry]⟩ =
      match indexed? entry with
      | some p => max (lastIndex ⟨entries⟩) p.1
      | none => lastIndex ⟨entries⟩ := by
  unfold lastIndex indexed
  rw [List.filterMap_append, List.foldl_append]
  cases h : indexed? entry <;> simp [h]

/-! ## One entry -/

/-- The index after the highest one is free. -/
theorem nextIndex_free {e : Expression} (h : e.lastIndex.toNat + 1 < UInt64.size) :
    nextIndex e.lastIndex = e.lastIndex + 1 ∧
      (e.lastIndex + 1).toNat = e.lastIndex.toNat + 1 ∧
      ¬ e.Uses (e.lastIndex + 1) := by
  have small : e.lastIndex.toNat + 1 < 2 ^ 64 := h
  have succ : (e.lastIndex + 1).toNat = e.lastIndex.toNat + 1 := by
    rw [UInt64.toNat_add, UInt64.toNat_one]
    omega
  refine ⟨by rw [nextIndex, if_pos h], succ, fun used => ?_⟩
  have bound := le_lastIndex_of_uses used
  omega

theorem entries_push {e : Expression} (h : e.lastIndex.toNat + 1 < UInt64.size)
    (value : Option String) :
    (e.push value).entries = e.entries ++ [⟨.positional (e.lastIndex + 1), value⟩] := by
  obtain ⟨next, -, free⟩ := nextIndex_free h
  rw [push, next]
  exact entries_insert_of_new free value

theorem lastIndex_push {e : Expression} (h : e.lastIndex.toNat + 1 < UInt64.size)
    (value : Option String) : (e.push value).lastIndex = e.lastIndex + 1 := by
  have succ := (nextIndex_free h).2.1
  have appended : e.push value = ⟨e.entries ++ [⟨.positional (e.lastIndex + 1), value⟩]⟩ :=
    congrArg Expression.mk (entries_push h value)
  rw [appended, lastIndex_append]
  change max e.lastIndex (e.lastIndex + 1) = e.lastIndex + 1
  rw [← UInt64.toNat_inj, toNat_max]
  omega

/-! ## A list of entries -/

theorem entries_foldl_enter {rest : List Entry} {e : Expression}
    (writable : ∀ entry ∈ rest, Writable entry)
    (distinct : ((e.entries ++ rest).filterMap name?).Nodup)
    (few : e.lastIndex.toNat + (rest.filterMap indexed?).length < UInt64.size) :
    ((rest.map asWritten).foldl enter e).entries = e.entries ++ numbered e.lastIndex rest := by
  induction rest generalizing e with
  | nil => exact (List.append_nil _).symm
  | cons entry rest ih =>
    obtain ⟨key, value⟩ := entry
    obtain ⟨notType, named⟩ := writable _ List.mem_cons_self
    have others : ∀ x ∈ rest, Writable x := fun x hx => writable x (List.mem_cons_of_mem _ hx)
    rw [List.map_cons, List.foldl_cons]
    cases key with
    | typeName => exact absurd rfl notType
    | positional index =>
      rw [List.filterMap_cons_some (indexed?_positional _ _), List.length_cons] at few
      have room : e.lastIndex.toNat + 1 < UInt64.size := by omega
      have pushed := entries_push room value
      have last := lastIndex_push room value
      have distinct' : (((e.push value).entries ++ rest).filterMap name?).Nodup := by
        rw [List.filterMap_append] at distinct
        rw [pushed, List.append_assoc, List.filterMap_append]
        exact distinct
      have few' : (e.push value).lastIndex.toNat + (rest.filterMap indexed?).length <
          UInt64.size := by
        rw [last, (nextIndex_free room).2.1]
        omega
      have appended := ih others distinct' few'
      rw [pushed, last, List.append_assoc] at appended
      exact appended
    | named name =>
      have free : Key.named name ∉ e.entries.map Entry.key := by
        intro mem
        obtain ⟨other, hother, same⟩ := List.mem_map.1 mem
        have used : name ∈ e.entries.filterMap name? :=
          List.mem_filterMap.2 ⟨other, hother, by simp [name?, same]⟩
        rw [List.filterMap_append, List.nodup_append] at distinct
        exact distinct.2.2 name used name (List.mem_filterMap.2 ⟨_, List.mem_cons_self, rfl⟩) rfl
      have inserted := entries_insert_of_new free value
      have last : (e.insert (.named name) value).lastIndex = e.lastIndex := by
        have whole : e.insert (.named name) value = ⟨e.entries ++ [⟨.named name, value⟩]⟩ :=
          congrArg Expression.mk inserted
        rw [whole, lastIndex_append]
        rfl
      have entered : enter e (asWritten ⟨.named name, value⟩) = e.insert (.named name) value := by
        have key := named name rfl
        simp [enter, asWritten, name?, key]
      have distinct' :
          (((e.insert (.named name) value).entries ++ rest).filterMap name?).Nodup := by
        rw [inserted, List.append_assoc]
        exact distinct
      have appended := ih others distinct' (by rw [last]; exact few)
      rw [inserted, last, List.append_assoc] at appended
      rw [entered]
      exact appended

/-! ## Values -/

theorem countP_enter (p : Option String → Bool) (e : Expression) (w : Written) :
    (e.enter w).entries.countP (fun entry => p entry.value) ≤
      e.entries.countP (fun entry => p entry.value) + [w].countP fun w => p w.value := by
  unfold enter
  split <;> exact Keyed.countP_upsert_le _ _ _ _

/-- Entering adds no values of any kind but those that are entered. -/
theorem countP_foldl_enter (p : Option String → Bool) (ws : List Written) (e : Expression) :
    (ws.foldl enter e).entries.countP (fun entry => p entry.value) ≤
      e.entries.countP (fun entry => p entry.value) + ws.countP fun w => p w.value := by
  induction ws generalizing e with
  | nil => exact Nat.le_refl _
  | cons w ws ih =>
    have first := countP_enter p e w
    have others := ih (e.enter w)
    rw [List.countP_singleton] at first
    rw [List.foldl_cons, List.countP_cons]
    omega

theorem forall_values_foldl_enter {P : Option String → Prop} [DecidablePred P] {ws : List Written}
    (new : ∀ w ∈ ws, P w.value) {e : Expression} (old : ∀ entry ∈ e.entries, P entry.value) :
    ∀ entry ∈ (ws.foldl enter e).entries, P entry.value := by
  have entered := countP_foldl_enter (fun value => ¬ P value) ws e
  have noneNew : ws.countP (fun w => ¬ P w.value) = 0 :=
    List.countP_eq_zero.2 fun w mem => by simpa using new w mem
  have noneOld : e.entries.countP (fun entry => ¬ P entry.value) = 0 :=
    List.countP_eq_zero.2 fun entry mem => by simpa using old entry mem
  rw [noneNew, noneOld] at entered
  intro entry mem
  simpa using List.countP_eq_zero.1 (Nat.le_zero.1 entered) entry mem

/-! ## Numbered entries -/

theorem values_numbered (last : UInt64) (entries : List Entry) :
    ((numbered last entries).filterMap indexed?).map Prod.snd =
      (entries.filterMap indexed?).map Prod.snd := by
  induction entries generalizing last with
  | nil => rfl
  | cons entry rest ih =>
    obtain ⟨key, value⟩ := entry
    cases key with
    | typeName => exact ih last
    | positional index => exact congrArg (value :: ·) (ih (last + 1))
    | named name => exact ih last

theorem assigned_numbered (last : UInt64) (entries : List Entry) :
    (numbered last entries).filterMap assigned? = entries.filterMap assigned? := by
  induction entries generalizing last with
  | nil => rfl
  | cons entry rest ih =>
    obtain ⟨key, value⟩ := entry
    cases key with
    | typeName => exact ih last
    | positional index => exact ih (last + 1)
    | named name =>
      rw [numbered, List.filterMap_cons, List.filterMap_cons, ih]
      simp

/-- Arguments that are numbered in order have ascending indices. -/
theorem ascending_numbered {last : UInt64} {entries : List Entry}
    (few : last.toNat + (entries.filterMap indexed?).length < UInt64.size) :
    (∀ p ∈ (numbered last entries).filterMap indexed?, last < p.1) ∧
      ((numbered last entries).filterMap indexed?).Pairwise fun p q => p.1 < q.1 := by
  induction entries generalizing last with
  | nil => exact ⟨fun _ hp => absurd hp List.not_mem_nil, List.Pairwise.nil⟩
  | cons entry rest ih =>
    obtain ⟨key, value⟩ := entry
    cases key with
    | typeName => exact ih few
    | named name => exact ih few
    | positional index =>
      rw [List.filterMap_cons_some (indexed?_positional _ _), List.length_cons] at few
      have small : last.toNat + 1 < 2 ^ 64 := by
        have size : UInt64.size = 2 ^ 64 := rfl
        omega
      have succ : (last + 1).toNat = last.toNat + 1 := by
        rw [UInt64.toNat_add, UInt64.toNat_one]
        omega
      have first : last < last + 1 := by
        rw [UInt64.lt_iff_toNat_lt]
        omega
      obtain ⟨above, ascending⟩ := @ih (last + 1) (by omega)
      rw [numbered, List.filterMap_cons_some (indexed?_positional _ _)]
      refine ⟨fun p hp => ?_, List.pairwise_cons.2 ⟨above, ascending⟩⟩
      rcases List.mem_cons.1 hp with rfl | hp
      · exact first
      · exact UInt64.lt_trans first (above p hp)

theorem arguments_of_ascending {e : Expression}
    (h : e.indexed.Pairwise fun p q => p.1 < q.1) : e.arguments = e.indexed.map Prod.snd := by
  have sorted : e.indexed.Pairwise fun p q => decide (p.1 ≤ q.1) = true :=
    h.imp fun lt => decide_eq_true (UInt64.le_of_lt lt)
  rw [arguments, List.mergeSort_of_pairwise sorted]

/-- Arguments that are numbered in order keep their indices. -/
theorem numbered_eq_self {last : UInt64} {entries : List Entry}
    (counted : (entries.filterMap indexed?).map (fun p => p.1.toNat) =
      List.range' (last.toNat + 1) (entries.filterMap indexed?).length) :
    numbered last entries = entries := by
  induction entries generalizing last with
  | nil => rfl
  | cons entry rest ih =>
    obtain ⟨key, value⟩ := entry
    cases key with
    | typeName => exact congrArg (_ :: ·) (ih counted)
    | named name => exact congrArg (_ :: ·) (ih counted)
    | positional index =>
      rw [List.filterMap_cons_some (indexed?_positional _ _), List.map_cons, List.length_cons,
        List.range'_succ, List.cons.injEq] at counted
      obtain ⟨first, rest'⟩ := counted
      have first : index.toNat = last.toNat + 1 := first
      have succ : (last + 1).toNat = last.toNat + 1 := by
        have bound := index.toNat_lt
        rw [UInt64.toNat_add, UInt64.toNat_one]
        omega
      have same : last + 1 = index := UInt64.toNat_inj.1 (succ.trans first.symm)
      rw [numbered, same, ih]
      rw [← same, succ]
      exact rest'

end MarkupBinding.Expression
