import MarkupBinding.Proofs.Expression.Kept
/-!
# What a text says, and what its print says

An expression that was read is printed and read again. Here are all the ways in which the second
reading can differ from the first.

Results:

* `argumentsLength_foldl_enter`: arguments are as long as what is entered, at most.
* `length_written?_spelled`, `length_writtenAll_spelled`: what is read is shorter than what was
  printed, by a character at least for each argument with an equals sign.
* `arguments_parse_print_ne`: so the arguments are not those that were printed.
* `arguments_parse_print`, `assignments_parse_print`: what is read again, without equals signs.
* `parse_print_parse`: the type name is kept, and exactly the faithful expressions keep their
  arguments and assignments. No text that closes what it opens is an exception.
-/
/-! ## Arguments with an equals sign

An argument can have an equals sign outside quotes and braces: it is written with its index, and the
index ends at an equals sign of its own. In print the index is gone, so the reader takes what stands
in front of the sign for a key. Whatever this makes of the entry, the text in front of the sign is
lost to the arguments. All other pieces give the arguments at most what was printed of them, and an
entry that replaces another one only takes away. So the arguments together get shorter. -/

namespace MarkupBinding.Expression

open Text
open Mark (mark chars separates written? writtenAll)

/-- The length of an entry that is an argument. -/
def argumentLength (entry : Entry) : Nat :=
  ((argument? entry).map fun value => (value.getD "").length).getD 0

/-- The length of all arguments. -/
def argumentsLength (entries : List Entry) : Nat :=
  ((entries.filterMap argument?).flatMap fun value => (value.getD "").toList).length

@[simp] theorem argumentsLength_nil : argumentsLength [] = 0 := rfl

@[simp] theorem argumentsLength_cons (entry : Entry) (rest : List Entry) :
    argumentsLength (entry :: rest) = argumentLength entry + argumentsLength rest := by
  cases h : argument? entry <;> simp [argumentsLength, argumentLength, h, String.length_toList]

@[simp] theorem argumentsLength_append (a b : List Entry) :
    argumentsLength (a ++ b) = argumentsLength a + argumentsLength b := by
  simp [argumentsLength]

theorem argumentsLength_eq (e : Expression) : argumentsLength e.entries =
    (e.arguments.flatMap fun value => (value.getD "").toList).length :=
  ((perm_arguments e).symm.flatMap_right _).length_eq

/-- What is written, as the entry it becomes; the index of an argument does not matter here. -/
def entered (w : Written) : Entry := ⟨(w.key.map sourceKey).getD (.positional 0), w.value⟩

theorem argumentsLength_upsert (entry : Entry) (entries : List Entry) :
    argumentsLength (Keyed.upsert Entry.key entry entries) ≤
      argumentsLength entries + argumentLength entry := by
  induction entries with
  | nil => simp [Keyed.upsert]
  | cons first rest ih =>
    unfold Keyed.upsert
    split <;> simp <;> omega

theorem argumentsLength_enter (e : Expression) (w : Written) :
    argumentsLength (e.enter w).entries ≤
      argumentsLength e.entries + argumentLength (entered w) := by
  obtain ⟨key, value⟩ := w
  cases key with
  | none => exact argumentsLength_upsert ⟨.positional (nextIndex e.lastIndex), value⟩ e.entries
  | some name => exact argumentsLength_upsert ⟨sourceKey name, value⟩ e.entries

theorem argumentsLength_foldl_enter (ws : List Written) (e : Expression) :
    argumentsLength (ws.foldl enter e).entries ≤
      argumentsLength e.entries + argumentsLength (ws.map entered) := by
  induction ws generalizing e with
  | nil => simp
  | cons w ws ih =>
    have one := argumentsLength_enter e w
    have others := ih (e.enter w)
    rw [List.foldl_cons, List.map_cons, argumentsLength_cons]
    omega

theorem argumentLength_entered {entry : Entry} (h : Writable entry) :
    argumentLength (entered (asWritten entry)) = argumentLength entry := by
  obtain ⟨key, value⟩ := entry
  cases key with
  | typeName => exact absurd rfl h.1
  | positional index => rfl
  | named name =>
    have key := h.2 name rfl
    simp [entered, key, argumentLength, argument?]

theorem argumentLength_filled (entry : Entry) :
    argumentLength (filled entry) = argumentLength entry := by
  rw [argumentLength, argument?_filled, argumentLength]
  cases argument? entry <;> rfl

theorem argumentLength_closing {entry last : Entry} (h : closing? entry = some last) :
    argumentLength last ≤ argumentLength entry := by
  have argument := argument?_closing entry
  rw [h, Option.bind_some] at argument
  rw [argumentLength, argument, argumentLength]
  cases argument? entry with
  | none => simp
  | some value => by_cases empty : value.getD "" = "" <;> simp [empty]

theorem argumentLength_le (entry : Entry) :
    argumentLength entry ≤ (entry.value.getD "").length := by
  obtain ⟨key, value⟩ := entry
  cases key <;> simp [argumentLength, argument?]

/-- Behind an equals sign, less is left of a text than there was. -/
theorem length_says_lt {s : List Char} {w : Written} (h : Says s w)
    (sign : ¬ NoneAt '=' (mark .top s)) : argumentLength (entered w) < s.length := by
  cases h with
  | unnamed noSign => exact absurd noSign sign
  | named key value whole closed noSign said cut =>
    have rest : argumentLength (entered ⟨some (String.ofList (trim key)), said⟩) ≤
        (said.getD "").length := argumentLength_le _
    have trimmed := length_trim_le value
    rw [whole, List.length_append, List.length_cons]
    rcases cut with rfl | rfl
    · rw [Option.getD_none, String.length_empty] at rest
      omega
    · rw [Option.getD_some, String.length_ofList] at rest
      omega

/-- A piece gives the arguments no more than the entry it was printed from had, and less if the
entry is an argument with an equals sign. -/
theorem length_written?_spelled {entry : Entry} (notType : entry.key ≠ .typeName) (h : Tidy entry)
    (isLast : Bool) :
    argumentsLength ((written? isLast (mark .top (spelled entry))).toList.map entered) +
      (if SignFree entry then 0 else 1) ≤ argumentLength entry := by
  by_cases signFree : SignFree entry
  · have writable := h.writable notType
    rw [written?_spelled notType h signFree, if_pos signFree]
    cases isLast with
    | false =>
      have same : Writable (filled entry) := writable
      simp [argumentLength_entered same, argumentLength_filled]
    | true =>
      cases last : closing? entry with
      | none => simp
      | some x =>
        have same : Writable x := by
          unfold Writable at writable ⊢
          rwa [key_closing? last]
        simpa [argumentLength_entered same] using argumentLength_closing last
  · obtain ⟨key, value⟩ := entry
    cases key with
    | typeName => exact absurd rfl notType
    | named name => exact absurd (fun p hp => nomatch hp) signFree
    | positional index =>
      have sign : ¬ NoneAt '=' (mark .top (value.getD "").toList) := fun none =>
        signFree fun p hp => Option.some.inj hp ▸ none
      have text : spelled ⟨.positional index, value⟩ = (value.getD "").toList := rfl
      have length : argumentLength ⟨.positional index, value⟩ = (value.getD "").toList.length :=
        String.length_toList.symm
      rw [text, length, if_neg signFree]
      cases said : written? isLast (mark .top (value.getD "").toList) with
      | none =>
        have filled : (value.getD "").toList ≠ [] := fun empty =>
          sign (empty ▸ fun _ hm => absurd hm List.not_mem_nil)
        simpa using Nat.succ_le_of_lt (List.length_pos_iff.2 filled)
      | some w =>
        have shorter := length_says_lt (says_of_written? said) sign
        simpa using Nat.succ_le_of_lt shorter

/-- So all of them together are shorter by at least one character for each equals sign. -/
theorem length_writtenAll_spelled {rest : List Entry}
    (notType : ∀ entry ∈ rest, entry.key ≠ .typeName) (tidy : ∀ entry ∈ rest, Tidy entry) :
    argumentsLength
        ((writtenAll (rest.map fun entry => mark .top (spelled entry))).map entered) +
      rest.countP (fun entry => ¬ SignFree entry) ≤ argumentsLength rest := by
  induction rest with
  | nil => exact Nat.le_refl 0
  | cons entry rest ih =>
    have first := length_written?_spelled (notType entry List.mem_cons_self)
      (tidy entry List.mem_cons_self)
    have others := ih (fun x hx => notType x (List.mem_cons_of_mem entry hx))
      (fun x hx => tidy x (List.mem_cons_of_mem entry hx))
    have count : (entry :: rest).countP (fun entry => ¬ SignFree entry) =
        rest.countP (fun entry => ¬ SignFree entry) + if SignFree entry then 0 else 1 := by
      rw [List.countP_cons]
      by_cases signFree : SignFree entry <;> simp [signFree]
    rw [count, List.map_cons, argumentsLength_cons]
    cases rest with
    | nil =>
      have last := first true
      rw [List.map_nil, writtenAll, List.countP_nil]
      omega
    | cons next rest =>
      have here := first false
      rw [Mark.writtenAll_cons _ (by simp), List.map_append, argumentsLength_append]
      omega

/-- Where an argument has an equals sign, other arguments are read than were printed. -/
theorem arguments_parse_print_ne {e : Expression} {name : String} {rest : List Entry}
    (h : IsTidy e name rest) (separated : Separated rest)
    (signed : ∃ entry ∈ rest, ¬ SignFree entry) : (parse e.print).arguments ≠ e.arguments := by
  intro same
  have shorter := length_writtenAll_spelled h.notType h.tidy
  have some : 0 < rest.countP fun entry => ¬ SignFree entry := by
    simpa using signed
  have before : argumentsLength e.entries = argumentsLength rest := by
    rw [h.entries, argumentsLength_cons]
    simp [argumentLength, argument?]
  have after := argumentsLength_foldl_enter
    (writtenAll (rest.map fun entry => mark .top (spelled entry))) (ofTypeName name)
  have start : argumentsLength (ofTypeName name).entries = 0 := rfl
  have equal : argumentsLength (parse e.print).entries = argumentsLength e.entries := by
    rw [argumentsLength_eq, same, ← argumentsLength_eq]
  rw [parse_print_eq h separated] at equal
  omega

end MarkupBinding.Expression

/-! ## What a text says, and what its print says

An expression that was read is printed and read again. Its type name is the same. Its arguments and
assignments need not be: the printer leaves the indices out, so arguments that were written with
indices in another order change places; an argument whose value has an equals sign is read as a name
with a value; an empty argument at the end is gone; and where a missing value and an empty one trade
places, the reader takes one for the other. `Faithful` lists these cases, and there are no others as
long as every entry but the last closes what it opens. -/

namespace MarkupBinding.Expression

/-- Nothing that an expression says to a constructor or a property is lost or changed in print. -/
structure Faithful (e : Expression) : Prop where
  /-- The arguments stand in the order of their indices. -/
  inOrder : e.indexed.map Prod.snd = e.arguments
  signFree : ∀ entry ∈ e.entries, SignFree entry
  /-- In front of other entries, a missing value would be read as an empty one. -/
  earlier : ∀ entry ∈ e.entries.dropLast, entry.key.isReserved = false → entry.value ≠ none
  /-- At the end, an empty value would be read as a missing one, or not at all without a name. -/
  last : ∀ entry ∈ e.entries.getLast?, entry.key.isReserved = false →
    entry.value ≠ some "" ∧ (entry.value = none → name? entry ≠ none)

theorem faithful_iff (e : Expression) : Faithful e ↔
    e.entries.filterMap argument? = e.arguments ∧ (∀ entry ∈ e.entries, SignFree entry) ∧
      (reread e.entries).filterMap argument? = e.entries.filterMap argument? ∧
        (reread e.entries).filterMap assigned? = e.entries.filterMap assigned? := by
  rw [kept_iff, ← values_indexed]
  exact ⟨fun h => ⟨h.inOrder, h.signFree, h.earlier, h.last⟩,
    fun ⟨inOrder, signFree, earlier, last⟩ => ⟨inOrder, signFree, earlier, last⟩⟩

/-- The type name counts neither as an argument nor as an assignment. -/
theorem filterMap_reread_typeName {β : Type} {f : Entry → Option β}
    (skips : ∀ value, f ⟨.typeName, value⟩ = none) (name : String) (rest : List Entry) :
    (reread (⟨.typeName, some name⟩ :: rest)).filterMap f = (reread rest).filterMap f := by
  cases rest with
  | nil => by_cases empty : name = "" <;> simp [reread, closing?, empty, filled, skips]
  | cons entry rest =>
    rw [reread_cons _ (List.cons_ne_nil _ _)]
    exact List.filterMap_cons_none (skips _)

section Tidy

variable {e : Expression} {name : String} {rest : List Entry}

/-- The arguments are numbered as they are read, so their order is that of the text. -/
theorem arguments_parse_print (h : IsTidy e name rest) (separated : Separated rest)
    (signFree : ∀ entry ∈ rest, SignFree entry)
    (few : (rest.filterMap indexed?).length < UInt64.size) :
    (parse e.print).arguments = (reread rest).filterMap argument? := by
  have indexed : (parse e.print).indexed = (numbered 0 (reread rest)).filterMap indexed? := by
    rw [Expression.indexed, entries_parse_print h separated signFree few,
      List.filterMap_cons_none (indexed?_typeName _)]
  have ascending := (ascending_numbered (room_reread few)).2
  rw [← indexed] at ascending
  rw [arguments_of_ascending ascending, indexed, values_numbered, List.map_filterMap]
  rfl

theorem assignments_parse_print (h : IsTidy e name rest) (separated : Separated rest)
    (signFree : ∀ entry ∈ rest, SignFree entry)
    (few : (rest.filterMap indexed?).length < UInt64.size) :
    (parse e.print).assignments = (reread rest).filterMap assigned? := by
  rw [assignments, entries_parse_print h separated signFree few, List.filterMap_cons_none rfl,
    assigned_numbered]

theorem keeps_iff_faithful (h : IsTidy e name rest) (separated : Separated rest)
    (few : e.arguments.length < UInt64.size) :
    (parse e.print).arguments = e.arguments ∧ (parse e.print).assignments = e.assignments ↔
      Faithful e := by
  by_cases signFree : ∀ entry ∈ rest, SignFree entry
  · rw [length_arguments, indexed_of_tidy h] at few
    have arguments := arguments_parse_print h separated signFree few
    have assignments := assignments_parse_print h separated signFree few
    have all : ∀ entry ∈ e.entries, SignFree entry := by
      rw [h.entries]
      exact List.forall_mem_cons.2 ⟨fun p hp => (nomatch hp), signFree⟩
    rw [← filterMap_reread_typeName (fun _ => rfl) name, ← h.entries] at arguments assignments
    rw [faithful_iff, arguments, assignments, arguments_reread_iff, and_assoc]
    exact ⟨fun ⟨inOrder, kept⟩ => ⟨inOrder, all, kept⟩, fun ⟨inOrder, _, kept⟩ => ⟨inOrder, kept⟩⟩
  · have signed : ∃ entry ∈ rest, ¬ SignFree entry := by simpa using signFree
    have differ := arguments_parse_print_ne h separated signed
    refine ⟨fun same => absurd same.1 differ, fun faithful => absurd (fun entry mem => ?_) signFree⟩
    exact faithful.signFree entry (h.entries ▸ List.mem_cons_of_mem _ mem)

end Tidy

theorem parse_print_parse (text : String) :
    let e := parse text
    let e' := parse e.print
    e'.typeName = e.typeName ∧
      (Closes (body text.toList) → Separated e.entries) ∧
      (Separated e.entries → e.arguments.length < UInt64.size →
        (e'.arguments = e.arguments ∧ e'.assignments = e.assignments ↔ Faithful e)) := by
  intro e e'
  obtain ⟨name, rest, tidy⟩ := tidy_parse text
  refine ⟨typeName_parse_print tidy,
    fun closed entry mem => closes_parse closed entry (List.dropLast_subset _ mem),
    fun separated few => keeps_iff_faithful tidy ?_ few⟩
  have entries : e.entries = ⟨.typeName, some name⟩ :: rest := tidy.entries
  rw [entries] at separated
  exact separated.of_cons

/-- Indices in order, a name that is written twice, a reserved name and an open quotation. -/
theorem parse_print_parse_kept :
    let e := parse "\x7bT 1=a, K=b, K=\x7bc, d\x7d, @M=, 2=\"z\x7d"
    Separated e.entries ∧
      e.arguments.length < UInt64.size ∧
      (parse e.print).typeName = e.typeName ∧
      (parse e.print).arguments = e.arguments ∧ (parse e.print).assignments = e.assignments := by
  intro e
  have entries : e.entries = [⟨.typeName, some "T"⟩, ⟨.positional 1, some "a"⟩,
      ⟨.named "K", some "\x7bc, d\x7d"⟩, ⟨.named "@M", some ""⟩, ⟨.positional 2, some "\"z"⟩] := by
    decide +kernel
  have ascending : e.indexed.Pairwise fun p q => p.1 < q.1 := by
    rw [indexed, entries]
    decide
  have separated : Separated e.entries := by
    rw [entries]
    decide
  have few : e.arguments.length < UInt64.size := by
    rw [length_arguments, indexed, entries]
    decide
  have faithful : Faithful e := by
    refine ⟨(arguments_of_ascending ascending).symm, ?_, ?_, ?_⟩ <;> rw [entries] <;> decide
  obtain ⟨type, -, kept⟩ := parse_print_parse "\x7bT 1=a, K=b, K=\x7bc, d\x7d, @M=, 2=\"z\x7d"
  exact ⟨separated, few, type, (kept separated few).2 faithful⟩

/-- Arguments whose indices are not in order change places. -/
theorem parse_print_parse_reordered :
    let e := parse "\x7bT 2=B, 1=A\x7d"
    e.arguments = [some "A", some "B"] ∧ (parse e.print).arguments = [some "B", some "A"] := by
  intro e
  have before : e.indexed = [(2, some "B"), (1, some "A")] := by decide +kernel
  have after : (parse e.print).indexed = [(1, some "B"), (2, some "A")] := by decide +kernel
  constructor
  · rw [arguments, before]
    simp [List.mergeSort]
  · rw [arguments, after]
    simp [List.mergeSort]

end MarkupBinding.Expression
