/-!
# Keyed lists

A list whose rows carry a key, kept in the order in which the keys first came in. `upsert` writes a
row: a row with the same key is replaced where it stands, a new key goes to the end. `get?` reads
the row of a key and `erase` takes it out. Expressions, prefix tables, alias tables, type
catalogues and converter tables are all lists of this kind.

Results:

* `get?_upsert_self`, `get?_upsert_of_ne`: a write is read back, and changes no other key.
* `keys_upsert`, `nodup_upsert`: a write adds at most its own key, and keeps keys distinct.
* `upsert_of_not_mem`, `upsert_of_first`: a new key is appended; the first row of a key that is in
  use gives up its place.
* `get?_erase_of_ne`, `nodup_erase`: taking out a key leaves the others.
* `filter_upsert`, `filter_erase`: neither moves the rows of other keys.
* `filterMap_upsert_of_none`, `filterMap_upsert_of_some`: how a view of the rows is written.
* `countP_upsert_le`: a write adds at most its own row to the rows of any kind.
* `upsertAll_eq_self`: a table is what its rows write.
* `get?_upsertAll`: of all that was written under a key the last counts.
-/
namespace MarkupBinding.Keyed

variable {α β κ κ' : Type} [DecidableEq κ] [DecidableEq κ']

/-- Writes `a`: replaces the first row with `a`'s key, or appends `a`. -/
def upsert (key : α → κ) (a : α) : List α → List α
  | [] => [a]
  | b :: rows => if key b = key a then a :: rows else b :: upsert key a rows

/-- The first row with key `k`. -/
def get? (key : α → κ) (k : κ) (rows : List α) : Option α :=
  rows.find? fun a => key a = k

/-- Takes out the first row with key `k`. -/
def erase (key : α → κ) (k : κ) (rows : List α) : List α :=
  rows.eraseP fun a => key a = k

/-! ## Reading -/

@[simp] theorem get?_nil (key : α → κ) (k : κ) : get? key k [] = none := rfl

theorem get?_cons (key : α → κ) (k : κ) (a : α) (rows : List α) :
    get? key k (a :: rows) = if key a = k then some a else get? key k rows := by
  unfold get?
  rw [List.find?_cons]
  split <;> simp_all

theorem get?_append (key : α → κ) (k : κ) (xs ys : List α) :
    get? key k (xs ++ ys) = (get? key k xs).or (get? key k ys) :=
  List.find?_append

theorem get?_eq_none_iff {key : α → κ} {k : κ} {rows : List α} :
    get? key k rows = none ↔ k ∉ rows.map key := by
  simp [get?, List.find?_eq_none]

theorem key_of_get?_eq_some {key : α → κ} {k : κ} {rows : List α} {a : α}
    (h : get? key k rows = some a) : key a = k := by
  simpa using List.find?_some h

theorem mem_of_get?_eq_some {key : α → κ} {k : κ} {rows : List α} {a : α}
    (h : get? key k rows = some a) : a ∈ rows :=
  List.mem_of_find?_eq_some h

/-- Where keys are distinct, a row is found under its own key. -/
theorem get?_of_mem {key : α → κ} {rows : List α} (nodup : (rows.map key).Nodup) {a : α}
    (h : a ∈ rows) : get? key (key a) rows = some a := by
  induction rows with
  | nil => simp at h
  | cons b rows ih =>
    rw [List.map_cons, List.nodup_cons] at nodup
    rw [get?_cons]
    rcases List.mem_cons.1 h with rfl | h
    · simp
    · rw [if_neg, ih nodup.2 h]
      intro e
      exact nodup.1 (e ▸ List.mem_map_of_mem h)

/-! ## Writing -/

theorem get?_upsert_self (key : α → κ) (a : α) (rows : List α) :
    get? key (key a) (upsert key a rows) = some a := by
  induction rows with
  | nil => simp [upsert, get?_cons]
  | cons b rows ih =>
    unfold upsert
    split
    · simp [get?_cons]
    · next h => simp [get?_cons, h, ih]

theorem get?_upsert_of_ne {key : α → κ} {a : α} {k : κ} (h : k ≠ key a) (rows : List α) :
    get? key k (upsert key a rows) = get? key k rows := by
  induction rows with
  | nil => simp [upsert, get?_cons, Ne.symm h]
  | cons b rows ih =>
    unfold upsert
    split
    · next e => simp [get?_cons, e, Ne.symm h]
    · simp [get?_cons, ih]

theorem get?_upsert (key : α → κ) (a : α) (k : κ) (rows : List α) :
    get? key k (upsert key a rows) = if k = key a then some a else get? key k rows := by
  split
  · next h => rw [h, get?_upsert_self]
  · next h => rw [get?_upsert_of_ne h]

theorem keys_upsert (key : α → κ) (a : α) (rows : List α) :
    (upsert key a rows).map key =
      if key a ∈ rows.map key then rows.map key else rows.map key ++ [key a] := by
  induction rows with
  | nil => simp [upsert]
  | cons b rows ih =>
    unfold upsert
    by_cases h : key b = key a
    · simp [h]
    · rw [if_neg h, List.map_cons, ih]
      have h' : ¬ key a = key b := fun e => h e.symm
      by_cases m : key a ∈ rows.map key <;> simp [m, h']

theorem upsert_of_not_mem {key : α → κ} {a : α} {rows : List α} (h : key a ∉ rows.map key) :
    upsert key a rows = rows ++ [a] := by
  induction rows with
  | nil => rfl
  | cons b rows ih =>
    simp only [List.map_cons, List.mem_cons, not_or] at h
    rw [upsert, if_neg (fun e => h.1 e.symm), ih h.2, List.cons_append]

theorem upsert_of_first {key : α → κ} {a b : α} {before : List α} (same : key b = key a)
    (others : ∀ c ∈ before, key c ≠ key a) (after : List α) :
    upsert key a (before ++ b :: after) = before ++ a :: after := by
  induction before with
  | nil => rw [List.nil_append, upsert, if_pos same, List.nil_append]
  | cons c before ih =>
    rw [List.cons_append, upsert, if_neg (others c List.mem_cons_self),
      ih fun d hd => others d (List.mem_cons_of_mem c hd), List.cons_append]

theorem mem_keys_upsert {key : α → κ} {a : α} {k : κ} {rows : List α} :
    k ∈ (upsert key a rows).map key ↔ k = key a ∨ k ∈ rows.map key := by
  rw [keys_upsert]
  split
  · next h => exact ⟨Or.inr, fun o => o.elim (fun e => e ▸ h) id⟩
  · simp [or_comm]

theorem mem_upsert {key : α → κ} {a b : α} {rows : List α} (h : b ∈ upsert key a rows) :
    b = a ∨ b ∈ rows := by
  induction rows with
  | nil => exact Or.inl (List.mem_singleton.1 h)
  | cons c rows ih =>
    unfold upsert at h
    split at h
    · rcases List.mem_cons.1 h with rfl | h
      · exact Or.inl rfl
      · exact Or.inr (List.mem_cons_of_mem c h)
    · rcases List.mem_cons.1 h with rfl | h
      · exact Or.inr List.mem_cons_self
      · exact (ih h).imp id (List.mem_cons_of_mem c)

theorem nodup_upsert {key : α → κ} {a : α} {rows : List α} (h : (rows.map key).Nodup) :
    ((upsert key a rows).map key).Nodup := by
  rw [keys_upsert]
  split
  · exact h
  · next m =>
    refine List.nodup_append.2 ⟨h, by simp, fun k hk j hj e => m ?_⟩
    rwa [← List.mem_singleton.1 hj, ← e]

/-! ## Taking out -/

theorem get?_erase_of_ne {key : α → κ} {j k : κ} (h : k ≠ j) (rows : List α) :
    get? key k (erase key j rows) = get? key k rows := by
  induction rows with
  | nil => rfl
  | cons b rows ih =>
    unfold erase at *
    rw [List.eraseP_cons]
    by_cases e : key b = j
    · simp [e, get?_cons, Ne.symm h]
    · simp [e, get?_cons, ih]

theorem nodup_erase {key : α → κ} {k : κ} {rows : List α} (h : (rows.map key).Nodup) :
    ((erase key k rows).map key).Nodup :=
  h.sublist (List.eraseP_sublist.map key)

/-- Where keys are distinct, a key that was taken out is gone. -/
theorem get?_erase_self {key : α → κ} {rows : List α} (h : (rows.map key).Nodup) (k : κ) :
    get? key k (erase key k rows) = none := by
  induction rows with
  | nil => rfl
  | cons b rows ih =>
    rw [List.map_cons, List.nodup_cons] at h
    unfold erase at *
    rw [List.eraseP_cons]
    by_cases e : key b = k
    · subst e
      simpa using get?_eq_none_iff.2 h.1
    · simp [e, get?_cons, ih h.2]

/-! ## Rows of other keys -/

theorem filter_upsert (key : α → κ) (a : α) (rows : List α) :
    (upsert key a rows).filter (fun b => key b ≠ key a) = rows.filter fun b => key b ≠ key a := by
  induction rows with
  | nil => simp [upsert]
  | cons b rows ih =>
    unfold upsert
    split
    · next h => simp [h]
    · simp only [List.filter_cons, ih]

theorem filter_erase (key : α → κ) (k : κ) (rows : List α) :
    (erase key k rows).filter (fun b => key b ≠ k) = rows.filter fun b => key b ≠ k := by
  induction rows with
  | nil => rfl
  | cons b rows ih =>
    unfold erase at *
    rw [List.eraseP_cons]
    by_cases h : key b = k
    · simp [h]
    · simpa [h] using ih

/-! ## Views of the rows -/

/-- A view that leaves out the rows of a key does not see them written. -/
theorem filterMap_upsert_of_none {key : α → κ} {f : α → Option β} {a : α}
    (hidden : ∀ b, key b = key a → f b = none) (rows : List α) :
    (upsert key a rows).filterMap f = rows.filterMap f := by
  induction rows with
  | nil => simp [upsert, hidden]
  | cons b rows ih =>
    unfold upsert
    split
    · next h => rw [List.filterMap_cons_none (hidden a rfl), List.filterMap_cons_none (hidden b h)]
    · rw [List.filterMap_cons, List.filterMap_cons, ih]

/-- A view that shows all rows of a key, under a key of its own, is written like the list. -/
theorem filterMap_upsert_of_some {key : α → κ} {key' : β → κ'} {f : α → Option β} {a : α} {c : β}
    (here : f a = some c) (shown : ∀ b, key b = key a → (f b).isSome)
    (keys : ∀ b d, f b = some d → (key' d = key' c ↔ key b = key a)) (rows : List α) :
    (upsert key a rows).filterMap f = upsert key' c (rows.filterMap f) := by
  induction rows with
  | nil => simp [upsert, here]
  | cons b rows ih =>
    by_cases h : key b = key a
    · obtain ⟨d, hd⟩ := Option.isSome_iff_exists.1 (shown b h)
      have same := (keys b d hd).2 h
      rw [upsert, if_pos h, List.filterMap_cons_some here, List.filterMap_cons_some hd, upsert,
        if_pos same]
    · rw [upsert, if_neg h]
      cases hd : f b with
      | none => rw [List.filterMap_cons_none hd, List.filterMap_cons_none hd, ih]
      | some d =>
        have other : ¬ key' d = key' c := fun e => h ((keys b d hd).1 e)
        rw [List.filterMap_cons_some hd, List.filterMap_cons_some hd, ih, upsert, if_neg other]

theorem countP_upsert_le (p : α → Bool) (key : α → κ) (a : α) (rows : List α) :
    (upsert key a rows).countP p ≤ rows.countP p + [a].countP p := by
  induction rows with
  | nil => simp [upsert]
  | cons b rows ih =>
    unfold upsert
    split
    · rw [List.countP_cons, List.countP_cons, List.countP_singleton]
      omega
    · rw [List.countP_cons, List.countP_cons]
      omega

/-! ## Many writes -/

/-- Writes rows one after another. -/
def upsertAll (key : α → κ) (written rows : List α) : List α :=
  written.foldl (fun rows a => upsert key a rows) rows

theorem upsertAll_append (key : α → κ) (xs ys rows : List α) :
    upsertAll key (xs ++ ys) rows = upsertAll key ys (upsertAll key xs rows) :=
  List.foldl_append

theorem upsertAll_of_new {key : α → κ} {written rows : List α}
    (nodup : ((rows ++ written).map key).Nodup) : upsertAll key written rows = rows ++ written := by
  induction written generalizing rows with
  | nil => exact (List.append_nil rows).symm
  | cons a written ih =>
    have split : rows ++ a :: written = rows ++ [a] ++ written :=
      List.append_cons rows a written
    have new : key a ∉ rows.map key := by
      rw [List.map_append, List.nodup_append] at nodup
      exact fun mem => nodup.2.2 _ mem _ List.mem_cons_self rfl
    rw [split] at nodup ⊢
    rw [upsertAll, List.foldl_cons, upsert_of_not_mem new]
    exact ih nodup

theorem upsertAll_eq_self {key : α → κ} {rows : List α} (nodup : (rows.map key).Nodup) :
    upsertAll key rows [] = rows :=
  upsertAll_of_new nodup

theorem get?_upsertAll (key : α → κ) (k : κ) (written rows : List α) :
    get? key k (upsertAll key written rows) =
      (written.filter fun a => key a = k).getLast?.or (get? key k rows) := by
  induction written generalizing rows with
  | nil => rfl
  | cons a written ih =>
    have first : upsertAll key (a :: written) rows = upsertAll key written (upsert key a rows) :=
      rfl
    rw [first, ih, get?_upsert, List.filter_cons]
    by_cases h : k = key a
    · subst h
      cases last : (written.filter fun b => key b = key a).getLast? <;>
        simp [List.getLast?_cons, last]
    · have other : ¬ key a = k := fun e => h e.symm
      simp [h, other]

end MarkupBinding.Keyed
