import MarkupBinding.Proofs.Expression.Printed
/-!
# What is left of the entries

`reread` lists the entries that the reader finds in print. Two kinds of them count: arguments and
assignments. Which kind an entry is follows from its key, and an entry that is found again has kept
its key. So the arguments, or the assignments, are left as they were exactly if each of them is left
as it was in its place: in front of others it must not lack a value, and at the end it must not have
an empty one. An argument at the end must have a value, or it is not found at all.

Results:

* `filterMap_reread_iff`: entries that count by their keys are left exactly if each of them is.
* `kept_iff`: what this means for arguments and assignments.
* `arguments_reread_iff`: what is left is the list of all arguments by index exactly if all are left
  and stand in the order of their indices.
-/
namespace MarkupBinding.Expression

/-- The value of an entry that is an argument. -/
def argument? (entry : Entry) : Option (Option String) := (indexed? entry).map Prod.snd

theorem values_indexed (e : Expression) :
    e.indexed.map Prod.snd = e.entries.filterMap argument? :=
  List.map_filterMap

theorem perm_arguments (e : Expression) : e.arguments.Perm (e.entries.filterMap argument?) := by
  rw [← values_indexed]
  exact (List.mergeSort_perm e.indexed _).map Prod.snd

/-! ## One entry -/

theorem argument?_filled (entry : Entry) :
    argument? (filled entry) = (argument? entry).map fun value => some (value.getD "") := by
  obtain ⟨key, value⟩ := entry
  cases key <;> simp [filled, argument?]

theorem argument?_closing (entry : Entry) :
    (closing? entry).bind argument? = (argument? entry).bind fun value =>
      if value.getD "" = "" then none else some (some (value.getD "")) := by
  obtain ⟨key, value⟩ := entry
  by_cases empty : value.getD "" = "" <;> cases key <;>
    simp [closing?, empty, filled, argument?]

theorem assigned?_filled (entry : Entry) : assigned? (filled entry) =
    (assigned? entry).map fun p => (p.1, some (p.2.getD "")) := by
  obtain ⟨key, value⟩ := entry
  cases key with
  | named name => cases h : (Key.named name).isReserved <;> simp [filled, assigned?, h]
  | typeName => rfl
  | positional index => rfl

theorem assigned?_closing (entry : Entry) : (closing? entry).bind assigned? =
    (assigned? entry).map fun p =>
      (p.1, if p.2.getD "" = "" then none else some (p.2.getD "")) := by
  obtain ⟨key, value⟩ := entry
  by_cases empty : value.getD "" = "" <;> cases key with
  | named name =>
    cases h : (Key.named name).isReserved <;> simp [closing?, empty, filled, assigned?, h]
  | typeName => simp [closing?, empty, filled, assigned?]
  | positional index => simp [closing?, empty, filled, assigned?]

theorem kept_filled (entry : Entry) :
    argument? (filled entry) = argument? entry ∧ assigned? (filled entry) = assigned? entry ↔
      (entry.key.isReserved = false → entry.value ≠ none) := by
  rw [argument?_filled, assigned?_filled]
  obtain ⟨key, value⟩ := entry
  cases key with
  | typeName => simp [argument?, assigned?, Key.isReserved]
  | positional index => cases value <;> simp [argument?, assigned?, Key.isReserved]
  | named name =>
    cases reserved : (Key.named name).isReserved <;> cases value <;>
      simp [argument?, assigned?, reserved]

theorem kept_closing (entry : Entry) :
    (closing? entry).bind argument? = argument? entry ∧
        (closing? entry).bind assigned? = assigned? entry ↔
      (entry.key.isReserved = false →
        entry.value ≠ some "" ∧ (entry.value = none → name? entry ≠ none)) := by
  rw [argument?_closing, assigned?_closing]
  obtain ⟨key, value⟩ := entry
  cases key with
  | typeName => simp [argument?, assigned?, Key.isReserved]
  | positional index =>
    cases value with
    | none => simp [argument?, assigned?, Key.isReserved, name?]
    | some text => by_cases empty : text = "" <;> simp [argument?, assigned?, Key.isReserved, empty]
  | named name =>
    cases reserved : (Key.named name).isReserved <;> cases value with
    | none => simp [argument?, assigned?, reserved, name?]
    | some text => by_cases empty : text = "" <;> simp [argument?, assigned?, reserved, empty]

/-! ## A list of entries -/

theorem filterMap_toList {α β : Type} (f : α → Option β) (o : Option α) :
    o.toList.filterMap f = (o.bind f).toList := by
  cases o with
  | none => rfl
  | some a => cases h : f a <;> simp [h]

theorem filterMap_cons_toList {α β : Type} (f : α → Option β) (a : α) (l : List α) :
    (a :: l).filterMap f = (f a).toList ++ l.filterMap f := by
  cases h : f a <;> simp [h]

theorem toList_inj {α : Type} {a b : Option α} : a.toList = b.toList ↔ a = b := by
  cases a <;> cases b <;> simp

/-- Where an entry counts whatever its value is, all that count are left exactly if each is left as
it was: filled, or as the last one. -/
theorem filterMap_reread_iff {β : Type} {f : Entry → Option β}
    (counts : ∀ entry, (f (filled entry)).isSome = (f entry).isSome) (rest : List Entry) :
    (reread rest).filterMap f = rest.filterMap f ↔
      (∀ entry ∈ rest.dropLast, f (filled entry) = f entry) ∧
        ∀ entry ∈ rest.getLast?, (closing? entry).bind f = f entry := by
  induction rest with
  | nil => simp [reread]
  | cons entry rest ih =>
    cases rest with
    | nil =>
      rw [reread, filterMap_toList, filterMap_cons_toList, List.filterMap_nil, List.append_nil,
        toList_inj]
      simp
    | cons next rest =>
      have size : (f (filled entry)).toList.length = (f entry).toList.length := by
        have both := counts entry
        revert both
        cases f (filled entry) <;> cases f entry <;> simp
      rw [reread_cons entry (List.cons_ne_nil _ _), filterMap_cons_toList,
        filterMap_cons_toList f entry, List.dropLast_cons_cons, List.getLast?_cons_cons,
        List.forall_mem_cons, and_assoc, ← ih]
      constructor
      · intro same
        obtain ⟨here, others⟩ := List.append_inj same size
        exact ⟨toList_inj.1 here, others⟩
      · rintro ⟨here, others⟩
        rw [here, others]

theorem kept_iff (entries : List Entry) :
    (reread entries).filterMap argument? = entries.filterMap argument? ∧
        (reread entries).filterMap assigned? = entries.filterMap assigned? ↔
      (∀ entry ∈ entries.dropLast, entry.key.isReserved = false → entry.value ≠ none) ∧
        ∀ entry ∈ entries.getLast?, entry.key.isReserved = false →
          entry.value ≠ some "" ∧ (entry.value = none → name? entry ≠ none) := by
  have arguments := @filterMap_reread_iff _ argument?
    (fun entry => by rw [argument?_filled, Option.isSome_map]) entries
  have assignments := @filterMap_reread_iff _ assigned?
    (fun entry => by rw [assigned?_filled, Option.isSome_map]) entries
  rw [arguments, assignments, and_and_and_comm]
  simp only [← forall_and, kept_filled, kept_closing]

/-- No argument that is read again is without a value. -/
theorem valued_reread (rest : List Entry) : none ∉ (reread rest).filterMap argument? := by
  induction rest with
  | nil => simp [reread]
  | cons entry rest ih =>
    cases rest with
    | nil =>
      rw [reread, filterMap_toList, argument?_closing]
      cases argument? entry with
      | none => simp
      | some value => by_cases empty : value.getD "" = "" <;> simp [empty]
    | cons next rest =>
      rw [reread_cons entry (List.cons_ne_nil _ _), filterMap_cons_toList, argument?_filled]
      intro mem
      rcases List.mem_append.1 mem with mem | mem
      · cases h : argument? entry <;> simp [h] at mem
      · exact ih mem

/-- Where as many arguments are left as there were, and none was without a value, all are left. -/
theorem arguments_reread {rest : List Entry} (valued : none ∉ rest.filterMap argument?)
    (length : ((reread rest).filterMap argument?).length = (rest.filterMap argument?).length) :
    (reread rest).filterMap argument? = rest.filterMap argument? := by
  induction rest with
  | nil => rfl
  | cons entry rest ih =>
    rw [filterMap_cons_toList] at valued length ⊢
    have value : argument? entry ≠ some none := by
      intro h
      simp [h] at valued
    cases rest with
    | nil =>
      rw [reread, filterMap_toList, argument?_closing] at length ⊢
      cases h : argument? entry with
      | none => rfl
      | some v =>
        cases v with
        | none => exact absurd h value
        | some text => by_cases empty : text = "" <;> simp_all
    | cons next rest =>
      have here : argument? (filled entry) = argument? entry := by
        rw [argument?_filled]
        cases h : argument? entry with
        | none => rfl
        | some v =>
          cases v with
          | none => exact absurd h value
          | some text => rfl
      rw [reread_cons entry (List.cons_ne_nil _ _), filterMap_cons_toList, here] at length ⊢
      rw [List.length_append, List.length_append] at length
      rw [ih (fun mem => valued (List.mem_append_right _ mem)) (by omega)]

theorem arguments_reread_iff (e : Expression) :
    (reread e.entries).filterMap argument? = e.arguments ↔
      e.entries.filterMap argument? = e.arguments ∧
        (reread e.entries).filterMap argument? = e.entries.filterMap argument? := by
  constructor
  · intro same
    have perm := perm_arguments e
    have valued : none ∉ e.entries.filterMap argument? := by
      rw [← perm.mem_iff, ← same]
      exact valued_reread e.entries
    have kept := arguments_reread valued (by rw [same, perm.length_eq])
    exact ⟨kept ▸ same, kept⟩
  · rintro ⟨inOrder, kept⟩
    rw [kept, inOrder]

end MarkupBinding.Expression
