/-!
# Cutting a text at a character

`dropStart?` and `dropEnd?` take a fixed text off one end, if it is there. `cutFirst?` cuts a list
in two at the first element of a class, which belongs to neither side; `pieces` cuts at every
element of a class, and `lastPiece` is what follows the last one. The last three cut texts, and
texts whose characters carry marks.

Results:

* `dropStart?_eq_some_iff`, `dropEnd?_eq_some_iff`: the text is what was dropped and what is left.
* `getD_dropStart?_eq_iff`, `getD_dropEnd?_eq_iff`: what is left if a character may be missing.
* `cutFirst?_eq_some_iff`, `cutFirst?_eq_none_iff`: where the first cut falls, if there is one.
* `pieces_append_cons`, `pieces_of_none`: the first piece ends at the first separator.
* `exists_append_pieces`: what no separator occurs in goes to the last piece, behind all others.
* `pieces_intercalate`: pieces with a separator between them are found again.
-/
namespace MarkupBinding.Text

/-- What follows `w`, if the text starts with it. -/
def dropStart? : (w s : List Char) → Option (List Char)
  | [], s => some s
  | _ :: _, [] => none
  | a :: w, c :: s => if a = c then dropStart? w s else none

/-- What comes before `w`, if the text ends with it. -/
def dropEnd? (w s : List Char) : Option (List Char) :=
  (dropStart? w.reverse s.reverse).map List.reverse

variable {α : Type}

/-- What comes before and after the first element of the class `p`. -/
def cutFirst? (p : α → Bool) : List α → Option (List α × List α)
  | [] => none
  | c :: s => if p c then some ([], s) else (cutFirst? p s).map fun (a, b) => (c :: a, b)

/-- What lies between the elements of the class `p`; always at least one piece. -/
def pieces (p : α → Bool) : List α → List (List α)
  | [] => [[]]
  | c :: s =>
    match pieces p s with
    | [] => [[c]]
    | piece :: rest => if p c then [] :: piece :: rest else (c :: piece) :: rest

/-- What follows the last element of the class `p`; everything if there is none. -/
def lastPiece (p : α → Bool) (s : List α) : List α :=
  (s.reverse.takeWhile fun c => !p c).reverse

/-! ## Laws -/

theorem dropStart?_eq_some_iff {w s r : List Char} : dropStart? w s = some r ↔ s = w ++ r := by
  induction w generalizing s with
  | nil => simp [dropStart?, eq_comm]
  | cons a w ih =>
    cases s with
    | nil => simp [dropStart?]
    | cons c s =>
      unfold dropStart?
      by_cases h : a = c
      · simp [h, ih]
      · simp [h, Ne.symm h]

theorem dropEnd?_eq_some_iff {w s r : List Char} : dropEnd? w s = some r ↔ s = r ++ w := by
  unfold dropEnd?
  rw [Option.map_eq_some_iff]
  constructor
  · rintro ⟨t, ht, rfl⟩
    have := congrArg List.reverse (dropStart?_eq_some_iff.1 ht)
    simpa using this
  · rintro rfl
    exact ⟨r.reverse, dropStart?_eq_some_iff.2 (by simp), by simp⟩

/-- What is left of a text that may start with `c`: the text is that and, in front of it, `c` or
nothing; nothing only if the text does not start with `c`. -/
theorem getD_dropStart?_eq_iff {c : Char} {s r : List Char} :
    (dropStart? [c] s).getD s = r ↔
      ∃ front, s = front ++ r ∧ (front = [c] ∨ front = [] ∧ s.head? ≠ some c) := by
  cases found : dropStart? [c] s with
  | some t =>
    obtain rfl := dropStart?_eq_some_iff.1 found
    constructor
    · rintro rfl
      exact ⟨[c], rfl, .inl rfl⟩
    · rintro ⟨front, split, rfl | ⟨-, other⟩⟩
      · exact List.append_cancel_left split
      · exact absurd rfl other
  | none =>
    have other : s.head? ≠ some c := fun first => by
      obtain ⟨t, rfl⟩ := List.head?_eq_some_iff.1 first
      rw [dropStart?_eq_some_iff.2 (rfl : c :: t = [c] ++ t)] at found
      cases found
    constructor
    · rintro rfl
      exact ⟨[], rfl, .inr ⟨rfl, other⟩⟩
    · rintro ⟨front, rfl, rfl | ⟨rfl, -⟩⟩
      · exact absurd rfl other
      · rfl

theorem getD_dropEnd?_eq_iff {c : Char} {s r : List Char} :
    (dropEnd? [c] s).getD s = r ↔
      ∃ back, s = r ++ back ∧ (back = [c] ∨ back = [] ∧ s.getLast? ≠ some c) := by
  have mirrored := getD_dropStart?_eq_iff (c := c) (s := s.reverse) (r := r.reverse)
  have left : (dropEnd? [c] s).getD s = ((dropStart? [c] s.reverse).getD s.reverse).reverse := by
    rw [dropEnd?, List.reverse_singleton]
    cases dropStart? [c] s.reverse <;> simp
  rw [left, List.reverse_eq_iff, mirrored, List.head?_reverse]
  constructor
  · rintro ⟨front, split, ends⟩
    refine ⟨front.reverse, by simpa using congrArg List.reverse split, ends.imp ?_ ?_⟩
    · rintro rfl; rfl
    · rintro ⟨rfl, other⟩; exact ⟨rfl, other⟩
  · rintro ⟨back, split, ends⟩
    refine ⟨back.reverse, by simpa using congrArg List.reverse split, ends.imp ?_ ?_⟩
    · rintro rfl; rfl
    · rintro ⟨rfl, other⟩; exact ⟨rfl, other⟩

theorem cutFirst?_eq_none_iff {p : α → Bool} {s : List α} :
    cutFirst? p s = none ↔ ∀ c ∈ s, p c = false := by
  induction s with
  | nil => simp [cutFirst?]
  | cons c s ih =>
    unfold cutFirst?
    by_cases h : p c
    · simp [h]
    · simp [h, ih]

theorem cutFirst?_eq_some_iff {p : α → Bool} {s a b : List α} :
    cutFirst? p s = some (a, b) ↔ (∀ d ∈ a, p d = false) ∧ ∃ c, p c = true ∧ s = a ++ c :: b := by
  induction s generalizing a with
  | nil => simp [cutFirst?]
  | cons c s ih =>
    unfold cutFirst?
    by_cases h : p c
    · rw [if_pos h]
      constructor
      · intro e
        obtain ⟨rfl, rfl⟩ := Prod.mk.inj (Option.some.inj e)
        exact ⟨by simp, c, h, rfl⟩
      · rintro ⟨ha, d, -, e⟩
        cases a with
        | nil => simp_all
        | cons x a => simp_all
    · rw [if_neg h, Option.map_eq_some_iff]
      constructor
      · rintro ⟨⟨a', b'⟩, e, e'⟩
        obtain ⟨rfl, rfl⟩ := Prod.mk.inj e'
        obtain ⟨ha, d, hd, rfl⟩ := ih.1 e
        exact ⟨by simpa using ⟨by simpa using h, ha⟩, d, hd, rfl⟩
      · rintro ⟨ha, d, hd, e⟩
        cases a with
        | nil => simp_all
        | cons x a =>
          obtain ⟨rfl, rfl⟩ := List.cons.inj e
          exact ⟨(a, b), ih.2 ⟨fun y hy => ha y (by simp [hy]), d, hd, rfl⟩, rfl⟩

theorem pieces_ne_nil (p : α → Bool) (s : List α) : pieces p s ≠ [] := by
  cases s with
  | nil => simp [pieces]
  | cons c s =>
    unfold pieces
    split
    · simp
    · split <;> simp

theorem pieces_cons_of_false {p : α → Bool} {c : α} (hc : p c = false) {s : List α}
    {piece : List α} {rest : List (List α)} (h : pieces p s = piece :: rest) :
    pieces p (c :: s) = (c :: piece) :: rest := by
  simp [pieces, h, hc]

theorem pieces_of_none {p : α → Bool} {s : List α} (h : ∀ c ∈ s, p c = false) :
    pieces p s = [s] := by
  induction s with
  | nil => rfl
  | cons c s ih =>
    exact pieces_cons_of_false (h c (by simp)) (ih fun d hd => h d (by simp [hd]))

/-- What lies in front of all separators belongs to the first piece. -/
theorem exists_pieces_append {p : α → Bool} {s : List α} (h : ∀ c ∈ s, p c = false) (t : List α) :
    ∃ piece rest, pieces p t = piece :: rest ∧ pieces p (s ++ t) = (s ++ piece) :: rest := by
  obtain ⟨piece, rest, e⟩ := List.exists_cons_of_ne_nil (pieces_ne_nil p t)
  refine ⟨piece, rest, e, ?_⟩
  induction s with
  | nil => exact e
  | cons c s ih =>
    exact pieces_cons_of_false (h c (by simp)) (ih fun d hd => h d (by simp [hd]))

/-- What lies behind all separators belongs to the last piece. -/
theorem exists_append_pieces {p : α → Bool} {t : List α} (h : ∀ c ∈ t, p c = false) (s : List α) :
    ∃ init last, pieces p s = init ++ [last] ∧ pieces p (s ++ t) = init ++ [last ++ t] := by
  induction s with
  | nil => exact ⟨[], [], rfl, pieces_of_none h⟩
  | cons c s ih =>
    obtain ⟨init, last, e, e'⟩ := ih
    rw [List.cons_append, pieces, pieces, e, e']
    cases init with
    | nil =>
      cases hc : p c with
      | true => exact ⟨[[]], last, by simp, by simp⟩
      | false => exact ⟨[], c :: last, by simp, by simp⟩
    | cons piece init =>
      cases hc : p c with
      | true => exact ⟨[] :: piece :: init, last, by simp, by simp⟩
      | false => exact ⟨(c :: piece) :: init, last, by simp, by simp⟩

theorem pieces_append_cons {p : α → Bool} {s : List α} (h : ∀ c ∈ s, p c = false) {d : α}
    (hd : p d = true) (t : List α) : pieces p (s ++ d :: t) = s :: pieces p t := by
  induction s with
  | nil =>
    rw [List.nil_append, pieces]
    cases e : pieces p t with
    | nil => exact absurd e (pieces_ne_nil p t)
    | cons q qs => simp [hd]
  | cons c s ih =>
    exact pieces_cons_of_false (h c (by simp)) (ih fun d hd => h d (by simp [hd]))

theorem of_mem_pieces {p : α → Bool} {s piece : List α} (h : piece ∈ pieces p s) :
    ∀ c ∈ piece, p c = false := by
  induction s generalizing piece with
  | nil => simp_all [pieces]
  | cons c s ih =>
    cases e : pieces p s with
    | nil => exact absurd e (pieces_ne_nil p s)
    | cons q qs =>
      rw [e] at ih
      rw [pieces, e] at h
      dsimp only at h
      split at h
      · rcases List.mem_cons.1 h with rfl | h
        · simp
        · exact ih h
      · next ne =>
        rcases List.mem_cons.1 h with rfl | h
        · have inPiece : ∀ d ∈ q, p d = false := ih (by simp)
          simpa [ne] using inPiece
        · exact ih (by simp [h])

theorem beq_eq_false_of_not_mem {sep : Char} {s : List Char} (h : sep ∉ s) :
    ∀ c ∈ s, (c == sep) = false := by
  intro c hc
  rw [beq_eq_false_iff_ne]
  rintro rfl
  exact h hc

theorem pieces_intercalate {sep : Char} {piece : List Char} {rest : List (List Char)}
    (h : ∀ part ∈ piece :: rest, sep ∉ part) :
    pieces (· == sep) ([sep].intercalate (piece :: rest)) = piece :: rest := by
  have first := beq_eq_false_of_not_mem (h piece List.mem_cons_self)
  induction rest generalizing piece with
  | nil => rw [List.intercalate_singleton, pieces_of_none first]
  | cons next rest ih =>
    have others : ∀ part ∈ next :: rest, sep ∉ part :=
      fun part mem => h part (List.mem_cons_of_mem piece mem)
    have behind := ih others (beq_eq_false_of_not_mem (others next List.mem_cons_self))
    rw [List.intercalate_cons_cons, List.append_assoc, List.singleton_append,
      pieces_append_cons first (beq_self_eq_true sep), behind]

end MarkupBinding.Text
