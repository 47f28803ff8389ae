/-!
# Places in a text

A `Span` marks a stretch of a text by two byte offsets in its UTF-8 form, the way an editor does.
Not every pair of offsets is a stretch: `slice?` answers only if the first is not behind the
second, both lie within the text, and both fall between characters.

Results:

* `byteLength_append`: lengths add up.
* `splitAt?_eq_some_iff`: an offset cuts a text exactly if it is the length of a front part.
* `slice?_append`: the stretch behind a front part and before a back part is what lies between them.
* `isSome_slice?_iff`: the spans that mark a stretch are those in bounds.
-/
namespace MarkupBinding.Text

/-- The number of bytes a text takes in UTF-8. -/
def byteLength : List Char → Nat
  | [] => 0
  | c :: s => c.utf8Size + byteLength s

/-- A stretch of a text, from byte offset `lo` up to byte offset `hi`. -/
structure Span where
  lo : Nat
  hi : Nat
deriving DecidableEq

/-- Cuts a text at a byte offset; `none` inside a character or behind the end. -/
def splitAt? : List Char → Nat → Option (List Char × List Char)
  | s, 0 => some ([], s)
  | [], _ + 1 => none
  | c :: s, n + 1 =>
    if c.utf8Size ≤ n + 1 then
      (splitAt? s (n + 1 - c.utf8Size)).map fun (a, b) => (c :: a, b)
    else none

/-- The stretch of a text that a span marks, if it marks one. -/
def slice? (s : List Char) (span : Span) : Option (List Char) :=
  if span.lo ≤ span.hi then
    match splitAt? s span.lo with
    | some (_, rest) => (splitAt? rest (span.hi - span.lo)).map Prod.fst
    | none => none
  else none

/-- The offset falls between two characters of the text, or at one of its ends. -/
def IsBoundary (s : List Char) (n : Nat) : Prop := ∃ a b, s = a ++ b ∧ byteLength a = n

/-- The offsets are in order, within the text and between characters. -/
structure Span.InBounds (s : List Char) (span : Span) : Prop where
  ordered : span.lo ≤ span.hi
  within : span.hi ≤ byteLength s
  lo : IsBoundary s span.lo
  hi : IsBoundary s span.hi

/-! ## Laws -/

@[simp] theorem byteLength_nil : byteLength [] = 0 := rfl

@[simp] theorem byteLength_cons (c : Char) (s : List Char) :
    byteLength (c :: s) = c.utf8Size + byteLength s := rfl

@[simp] theorem byteLength_append (s t : List Char) :
    byteLength (s ++ t) = byteLength s + byteLength t := by
  induction s with
  | nil => simp
  | cons c s ih => simp [ih, Nat.add_assoc]

theorem splitAt?_append (s t : List Char) : splitAt? (s ++ t) (byteLength s) = some (s, t) := by
  induction s with
  | nil => cases t <;> rfl
  | cons c s ih =>
    have h := Char.utf8Size_pos c
    rw [byteLength_cons]
    obtain ⟨n, hn⟩ : ∃ n, c.utf8Size + byteLength s = n + 1 :=
      ⟨c.utf8Size + byteLength s - 1, by omega⟩
    have hs : n + 1 - c.utf8Size = byteLength s := by omega
    rw [hn, List.cons_append, splitAt?, if_pos (by omega), hs, ih]
    rfl

theorem splitAt?_eq_some_iff {s a b : List Char} {n : Nat} :
    splitAt? s n = some (a, b) ↔ s = a ++ b ∧ byteLength a = n := by
  constructor
  · intro h
    induction s generalizing a n with
    | nil =>
      cases n with
      | zero => simp_all [splitAt?]
      | succ n => simp [splitAt?] at h
    | cons c s ih =>
      cases n with
      | zero => simp_all [splitAt?]
      | succ n =>
        rw [splitAt?] at h
        split at h
        · next hc =>
          obtain ⟨⟨a', b'⟩, h', e⟩ := Option.map_eq_some_iff.1 h
          obtain ⟨rfl, rfl⟩ := Prod.mk.inj e
          obtain ⟨rfl, hl⟩ := ih h'
          exact ⟨rfl, by rw [byteLength_cons, hl]; omega⟩
        · cases h
  · rintro ⟨rfl, rfl⟩
    exact splitAt?_append a b

theorem slice?_append (a b c : List Char) :
    slice? (a ++ b ++ c) ⟨byteLength a, byteLength a + byteLength b⟩ = some b := by
  have length : byteLength a + byteLength b - byteLength a = byteLength b := by omega
  rw [slice?, if_pos (Nat.le_add_right _ _), List.append_assoc, splitAt?_append]
  dsimp only
  rw [length, splitAt?_append]
  rfl

theorem isBoundary_zero (s : List Char) : IsBoundary s 0 := ⟨[], s, rfl, rfl⟩

theorem isBoundary_byteLength (s : List Char) : IsBoundary s (byteLength s) :=
  ⟨s, [], (List.append_nil s).symm, rfl⟩

theorem IsBoundary.le {s : List Char} {n : Nat} (h : IsBoundary s n) : n ≤ byteLength s := by
  obtain ⟨a, b, rfl, rfl⟩ := h
  rw [byteLength_append]
  exact Nat.le_add_right _ _

/-- A boundary stays one when the text goes on. -/
theorem IsBoundary.append {s : List Char} {n : Nat} (h : IsBoundary s n) (t : List Char) :
    IsBoundary (s ++ t) n := by
  obtain ⟨a, b, rfl, length⟩ := h
  exact ⟨a, b ++ t, List.append_assoc a b t, length⟩

theorem eq_nil_of_byteLength_eq_zero {s : List Char} (h : byteLength s = 0) : s = [] := by
  cases s with
  | nil => rfl
  | cons c s =>
    have wide := Char.utf8Size_pos c
    rw [byteLength_cons] at h
    omega

/-- Two boundaries in order cut a text in three. -/
theorem IsBoundary.exists_between {s : List Char} {lo hi : Nat} (first : IsBoundary s lo)
    (last : IsBoundary s hi) (ordered : lo ≤ hi) :
    ∃ a b c, s = a ++ b ++ c ∧ byteLength a = lo ∧ byteLength a + byteLength b = hi := by
  obtain ⟨a, rest, rfl, rfl⟩ := first
  obtain ⟨front, c, whole, rfl⟩ := last
  rcases List.append_eq_append_iff.1 whole with ⟨b, rfl, rfl⟩ | ⟨b, rfl, rfl⟩
  · exact ⟨a, b, c, (List.append_assoc a b c).symm, rfl, (byteLength_append a b).symm⟩
  -- Here the second boundary is not behind the first one, so both are the same.
  · rw [byteLength_append] at ordered
    have nothing : b = [] := eq_nil_of_byteLength_eq_zero (by omega)
    subst nothing
    exact ⟨front, [], rest, by simp, by simp, by simp⟩

theorem isSome_slice?_iff {s : List Char} {span : Span} :
    (slice? s span).isSome = true ↔ span.InBounds s := by
  constructor
  · intro marked
    unfold slice? at marked
    split at marked
    · next ordered =>
      split at marked
      · next a rest first =>
        obtain ⟨rfl, length⟩ := splitAt?_eq_some_iff.1 first
        obtain ⟨⟨b, c⟩, second⟩ := Option.isSome_iff_exists.1 (by simpa using marked)
        obtain ⟨rfl, length'⟩ := splitAt?_eq_some_iff.1 second
        have hi : IsBoundary (a ++ (b ++ c)) span.hi :=
          ⟨a ++ b, c, (List.append_assoc a b c).symm, by rw [byteLength_append]; omega⟩
        exact ⟨ordered, hi.le, ⟨a, b ++ c, rfl, length⟩, hi⟩
      · cases marked
    · cases marked
  · intro h
    obtain ⟨a, b, c, rfl, lo, hi⟩ := h.lo.exists_between h.hi h.ordered
    have found := slice?_append a b c
    rw [hi, lo] at found
    rw [found]
    rfl

theorem Span.InBounds.append {s : List Char} {span : Span} (h : span.InBounds s)
    (t : List Char) : span.InBounds (s ++ t) where
  ordered := h.ordered
  within := (h.hi.append t).le
  lo := h.lo.append t
  hi := h.hi.append t

end MarkupBinding.Text
