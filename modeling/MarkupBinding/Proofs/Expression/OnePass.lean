import MarkupBinding.Expression.Reading
/-!
# Two passes read what one pass says

`Expression.parse` runs through a text twice, with a level of its own each time;
`Expression.reading` marks the text once and cuts it by its marks.

Results:

* `mark_eq_append`: the parts of a marked text are marked texts.
* `trim_mark`: trimming a marked text is marking the trimmed text.
* `mark_of_separates`: around a blank, a comma or an equals sign outside quotes and braces, both
  parts of a text are marked as texts of their own.
* `exists_mark_of_mem_pieces`: so are the pieces between commas.
* `splitHead_eq`: the first pass cuts at the first blank outside quotes and braces.
* `readSegments_eq`: the second pass cuts at the commas, and each piece at its first equals sign.
* `parse_eq_reading`: both passes together read what the marked text says, for every text.
-/
/-! ## Marked texts

`Mark.mark` says of each character of a text whether it stands outside quotes and braces. A blank
never changes the level of a reader, so padding can be taken off before or after marking; and where
a marked text is cut in two, the second part is marked from the level that the first one leaves. -/

namespace MarkupBinding.Mark

open Text

@[simp] theorem chars_nil : chars [] = [] := rfl

@[simp] theorem chars_cons (m : Mark) (s : List Mark) : chars (m :: s) = m.char :: chars s := rfl

@[simp] theorem chars_append (x y : List Mark) : chars (x ++ y) = chars x ++ chars y :=
  List.map_append

theorem mark_eq_append {level : Level} {s : List Char} {x y : List Mark}
    (h : mark level s = x ++ y) :
    s = chars x ++ chars y ∧ mark level (chars x) = x ∧
      mark (level.afterText (chars x)) (chars y) = y := by
  have hs : s = chars x ++ chars y := by rw [← chars_append, ← h, chars_mark]
  rw [hs, mark_append] at h
  have hlen : (mark level (chars x)).length = x.length := by
    rw [← List.length_map (f := Mark.char)]
    exact congrArg List.length (chars_mark level (chars x)) |>.trans (by simp [chars])
  obtain ⟨h1, h2⟩ := List.append_inj h hlen
  exact ⟨hs, h1, h2⟩

theorem separates_of_ne {m : Mark} {a b : Char} (h : a ≠ b) (ha : m.separates (· == a) = true) :
    m.separates (· == b) = false := by
  simp only [separates, Bool.and_eq_true, beq_iff_eq] at ha
  simp [separates, ha.2, h]

theorem writtenAll_cons (piece : List Mark) {rest : List (List Mark)} (h : rest ≠ []) :
    writtenAll (piece :: rest) = (written? false piece).toList ++ writtenAll rest := by
  cases rest with
  | nil => exact absurd rfl h
  | cons p ps => rfl

/-! ### Padding -/

theorem after_blank {c : Char} (h : isBlank c = true) (level : Level) : level.after c = level := by
  refine Level.after_eq_self ⟨?_, ?_, ?_⟩ level <;> rintro rfl <;> revert h <;> decide

theorem dropWhile_blank_mark (level : Level) (s : List Char) :
    (mark level s).dropWhile (fun m => isBlank m.char) = mark level (trimStart s) := by
  induction s with
  | nil => rfl
  | cons c s ih =>
    unfold trimStart at ih ⊢
    by_cases hc : isBlank c = true
    · simp only [mark, after_blank hc, List.dropWhile_cons, hc, if_true]
      exact ih
    · simp only [List.dropWhile_cons, hc, mark, Bool.false_eq_true, if_false]

theorem chars_dropWhile_blank (s : List Mark) :
    chars (s.dropWhile fun m => isBlank m.char) = (chars s).dropWhile isBlank := by
  rw [chars, chars, List.dropWhile_map]
  rfl

theorem trim_mark (level : Level) (s : List Char) :
    trim (mark level s) = mark level (Text.trim s) := by
  unfold trim Text.trim trimEnd
  rw [dropWhile_blank_mark]
  generalize trimStart s = t
  -- What trimming leaves of the end is a front part, so it is marked as it stands.
  have front : ((mark level t).reverse.dropWhile fun m => isBlank m.char).reverse <+:
      mark level t := by
    rw [← List.reverse_suffix, List.reverse_reverse]
    exact List.dropWhile_suffix _
  obtain ⟨z, hz⟩ := front
  have marked := (mark_eq_append hz.symm).2.1
  have text : chars ((mark level t).reverse.dropWhile fun m => isBlank m.char).reverse =
      (t.reverse.dropWhile isBlank).reverse := by
    rw [chars, List.map_reverse, ← chars, chars_dropWhile_blank, chars, List.map_reverse, ← chars,
      chars_mark]
  rw [← marked, text]

/-! ### Separators -/

/-- A separator stands outside of everything, and so does the reader in front of it and behind. -/
theorem mark_of_separates {p : Char → Bool} (neutral : ∀ c, p c = true → ∀ l : Level, l.after c = l)
    {level : Level} {s : List Char} {x y : List Mark} {m : Mark} (h : mark level s = x ++ m :: y)
    (hm : m.separates p = true) :
    mark level (chars x) = x ∧ level.afterText (chars x) = Level.top ∧
      mark Level.top (chars y) = y ∧ Level.top.afterText (chars y) = level.afterText s := by
  obtain ⟨whole, front, back⟩ := mark_eq_append h
  rw [whole, Level.afterText_append]
  generalize hl : level.afterText (chars x) = l at back ⊢
  simp only [separates, Bool.and_eq_true] at hm
  rw [chars_cons, mark, List.cons.injEq, neutral m.char hm.2 l] at back
  obtain ⟨first, rest⟩ := back
  have outside : l = Level.top := by
    rw [← first] at hm
    exact Level.isTop_iff.1 hm.1
  rw [outside] at rest ⊢
  exact ⟨front, rfl, rest, by rw [chars_cons, Level.afterText_cons, neutral m.char hm.2]⟩

theorem mark_of_separates_blank {level : Level} {s : List Char} {x y : List Mark} {m : Mark}
    (h : mark level s = x ++ m :: y) (hm : m.separates isBlank = true) :
    mark Level.top (chars (m :: y)) = m :: y := by
  obtain ⟨-, outside, -, -⟩ := mark_of_separates (fun _ hc => after_blank hc) h hm
  rw [← outside]
  exact (mark_eq_append h).2.2

/-- So a text that is cut at a comma or an equals sign falls into texts marked on their own. -/
theorem mark_of_cut {c : Char} (neutral : c ≠ '"' ∧ c ≠ '{' ∧ c ≠ '}') {s : List Char}
    {x y : List Mark} (h : cutFirst? (separates (· == c)) (mark .top s) = some (x, y)) :
    mark .top (chars x) = x ∧ Level.top.afterText (chars x) = Level.top ∧
      mark .top (chars y) = y ∧ Level.top.afterText (chars y) = Level.top.afterText s := by
  obtain ⟨-, m, hm, e⟩ := cutFirst?_eq_some_iff.1 h
  refine mark_of_separates (fun d hd => ?_) e hm
  rw [beq_iff_eq.1 hd]
  exact Level.after_eq_self neutral

/-- A piece leaves the reader outside of everything, unless it is the last one: that leaves the
reader where the text does. -/
theorem exists_mark_of_mem_pieces {s : List Char} {piece : List Mark}
    (h : piece ∈ pieces (separates (· == ',')) (mark .top s)) :
    ∃ t, piece = mark .top t ∧
      (Level.top.afterText t = Level.top ∨ Level.top.afterText t = Level.top.afterText s) := by
  -- The text behind the first comma is shorter, and marked as if nothing stood before it.
  induction hn : s.length using Nat.strongRecOn generalizing s with
  | ind n ih =>
    cases cut : cutFirst? (separates (· == ',')) (mark .top s) with
    | none =>
      rw [pieces_of_none (cutFirst?_eq_none_iff.1 cut)] at h
      exact ⟨s, List.mem_singleton.1 h, Or.inr rfl⟩
    | some parts =>
      obtain ⟨x, y⟩ := parts
      obtain ⟨front, outside, back, same⟩ := mark_of_cut (by decide) cut
      obtain ⟨none, m, comma, e⟩ := cutFirst?_eq_some_iff.1 cut
      rw [e, pieces_append_cons none comma] at h
      rcases List.mem_cons.1 h with rfl | h
      · exact ⟨chars piece, front.symm, Or.inl outside⟩
      · have shorter : (chars y).length < n := by
          have whole := congrArg (List.length ∘ chars) e
          simp only [Function.comp_apply, chars_mark, chars_append, chars_cons, List.length_append,
            List.length_cons] at whole
          omega
        rw [← back] at h
        rw [← same]
        exact ih _ shorter h rfl

end MarkupBinding.Mark

/-! ## Two passes read what one pass says

`Expression.parse` runs through a text twice, with a level of its own each time: once up to the
blank behind the type name, then from there on for the arguments, where it keeps the place at which
the current segment starts and the place of its key. `Expression.reading` marks the text once and
cuts it by its marks.

The second pass may start outside of everything because the blank that ends the first one stands
there. What it keeps of a segment is related to the marks read so far by `Kept`: `kept_readSegment?`
says that a segment which ends here says what these marks say, and `kept_scan` follows the scan to
the end of the text. -/

namespace MarkupBinding.Expression

open Text
open Mark (mark chars separates written? writtenAll)

/-- No mark of a list separates at the character. -/
def NoneAt (c : Char) (s : List Mark) : Prop := ∀ m ∈ s, m.separates (· == c) = false

instance (c : Char) : DecidablePred (NoneAt c) := fun s => List.decidableBAll _ s

theorem textAt_append (a b c : List Char) :
    textAt (a ++ b ++ c) ⟨byteLength a, byteLength a + byteLength b⟩ = trim b := by
  rw [textAt, slice?_append, Option.getD_some]

/-! ### The type name -/

theorem blankOffset?_eq (level : Level) (pos : Nat) (s : List Char) :
    blankOffset? level pos s =
      match (mark level s).dropWhile (fun m => !m.separates isBlank) with
      | [] => none
      | _ :: _ => some (pos + byteLength (chars ((mark level s).takeWhile
          fun m => !m.separates isBlank))) := by
  induction s generalizing level pos with
  | nil => rfl
  | cons c s ih =>
    rw [blankOffset?]
    simp only [mark, List.dropWhile_cons, List.takeWhile_cons]
    cases h : separates isBlank ⟨c, (level.after c).isTop⟩ with
    | true =>
      have hc : ((level.after c).isTop && isBlank c) = true := h
      rw [if_pos hc]
      rfl
    | false =>
      have hc : ((level.after c).isTop && isBlank c) = false := h
      rw [hc, if_neg Bool.false_ne_true, ih]
      simp only [Bool.not_false, if_true, Mark.chars_cons, byteLength_cons, Nat.add_assoc]

/-- The two parts of the text within the braces, by its marks. -/
theorem splitHead_eq (inner : List Char) :
    splitHead inner =
      (trim (chars ((mark .top inner).takeWhile fun m => !m.separates isBlank)),
        trim (chars ((mark .top inner).dropWhile fun m => !m.separates isBlank))) := by
  have whole := List.takeWhile_append_dropWhile (p := fun m => !m.separates isBlank)
    (l := mark .top inner)
  generalize hx : (mark .top inner).takeWhile (fun m => !m.separates isBlank) = x at whole ⊢
  generalize hy : (mark .top inner).dropWhile (fun m => !m.separates isBlank) = y at whole ⊢
  have hs : inner = chars x ++ chars y := (Mark.mark_eq_append whole.symm).1
  have head := textAt_append [] (chars x) (chars y)
  have rest := textAt_append (chars x) (chars y) []
  simp only [List.nil_append, List.append_nil, byteLength_nil, Nat.zero_add] at head rest
  unfold splitHead headSpans
  rw [blankOffset?_eq, hx, hy]
  cases y with
  | nil =>
    have all : textAt inner ⟨0, byteLength inner⟩ = trim (chars x) := by
      rw [hs]
      simpa using head
    simp [all]
  | cons m y =>
    rw [hs, byteLength_append]
    simp only [Nat.zero_add, Option.map_some, Option.getD_some, head, rest]

/-- Where a blank ends the type name, the arguments are marked as a text of their own. -/
theorem trim_dropWhile_mark (inner : List Char) :
    Mark.trim ((mark .top inner).dropWhile fun m => !m.separates isBlank) =
      mark .top (splitHead inner).2 := by
  rw [splitHead_eq]
  have whole := List.takeWhile_append_dropWhile (p := fun m => !m.separates isBlank)
    (l := mark .top inner)
  cases hy : (mark .top inner).dropWhile (fun m => !m.separates isBlank) with
  | nil => rfl
  | cons m y =>
    rw [hy] at whole
    have hm : m.separates isBlank = true := by
      have := List.head?_dropWhile_not (fun m => !m.separates isBlank) (mark .top inner)
      rw [hy] at this
      simpa using this
    have marked := Mark.mark_of_separates_blank whole.symm hm
    have trimmed := Mark.trim_mark .top (chars (m :: y))
    rw [marked] at trimmed
    exact trimmed

/-! ### The arguments -/

/-- What a scan has kept of the marks `cur` of the current segment, which starts behind `front`:
the place of its key if its equals sign has been read, and the offset at which its value starts. -/
inductive Kept (front : List Char) : Option Span → Nat → List Mark → Prop
  | unnamed (cur : List Mark) (noSign : NoneAt '=' cur) : Kept front none (byteLength front) cur
  | named (key : List Mark) (sign : Mark) (value : List Mark) (noSign : NoneAt '=' key)
      (isSign : sign.separates (· == '=') = true) :
    Kept front (some ⟨byteLength front, byteLength front + byteLength (chars key)⟩)
      (byteLength (front ++ chars key ++ [sign.char])) (key ++ sign :: value)

theorem kept_nil (front : List Char) : Kept front none (byteLength front) [] :=
  .unnamed [] fun _ hm => absurd hm List.not_mem_nil

/-- A character that is no equals sign of the segment, or not its first. -/
theorem kept_push {front : List Char} {key : Option Span} {start : Nat} {cur : List Mark}
    (h : Kept front key start cur) {m : Mark}
    (hm : key = none → m.separates (· == '=') = false) : Kept front key start (cur ++ [m]) := by
  cases h with
  | unnamed cur noSign =>
    refine .unnamed (cur ++ [m]) fun x hx => ?_
    rcases List.mem_append.1 hx with hx | hx
    · exact noSign x hx
    · rw [List.mem_singleton.1 hx]
      exact hm rfl
  | named key sign value noSign isSign =>
    have named : Kept front _ _ _ := .named key sign (value ++ [m]) noSign isSign
    simpa using named

/-- The first equals sign of the segment. -/
theorem kept_sign {front : List Char} {start : Nat} {cur : List Mark}
    (h : Kept front none start cur) {m : Mark} (hm : m.separates (· == '=') = true) :
    Kept front (some ⟨start, byteLength front + byteLength (chars cur)⟩)
      (byteLength front + byteLength (chars (cur ++ [m]))) (cur ++ [m]) := by
  cases h with
  | unnamed cur noSign =>
    have named : Kept front _ _ _ := .named cur m [] noSign hm
    simpa using named

/-- A segment that ends behind the marks `cur` says what they say. -/
theorem kept_readSegment? {front : List Char} {key : Option Span} {start : Nat} {cur : List Mark}
    (h : Kept front key start cur) (rest : List Char) (closed : Bool) :
    readSegment? (front ++ chars cur ++ rest)
        ⟨key, ⟨start, byteLength front + byteLength (chars cur)⟩, closed⟩ =
      written? (!closed) cur := by
  cases h with
  | unnamed cur noSign =>
    have cut : cutFirst? (separates (· == '=')) cur = none := cutFirst?_eq_none_iff.2 noSign
    rw [written?, cut, readSegment?, textAt_append]
    cases closed <;> cases h : (trim (chars cur)).isEmpty <;> simp [h]
  | named key sign value noSign isSign =>
    have cut : cutFirst? (separates (· == '=')) (key ++ sign :: value) = some (key, value) :=
      cutFirst?_eq_some_iff.2 ⟨noSign, sign, isSign, rfl⟩
    have keyText : textAt (front ++ chars (key ++ sign :: value) ++ rest)
        ⟨byteLength front, byteLength front + byteLength (chars key)⟩ = trim (chars key) := by
      have := textAt_append front (chars key) (sign.char :: chars value ++ rest)
      simpa using this
    have valueText : textAt (front ++ chars (key ++ sign :: value) ++ rest)
        ⟨byteLength (front ++ chars key ++ [sign.char]),
          byteLength front + byteLength (chars (key ++ sign :: value))⟩ = trim (chars value) := by
      have := textAt_append (front ++ chars key ++ [sign.char]) (chars value) rest
      simpa [Nat.add_assoc] using this
    rw [written?, cut, readSegment?, valueText, Option.map_some, keyText]
    cases closed <;> cases h : (trim (chars value)).isEmpty <;> simp [h]

/-- The scan, from within a segment to the end of the text. -/
theorem kept_scan {text : List Char} (s : List Char) :
    ∀ {front : List Char} {level : Level} {key : Option Span} {start : Nat} {cur : List Mark},
      Kept front key start cur → NoneAt ',' cur → text = front ++ chars cur ++ s →
      (Segment.scan level start (byteLength front + byteLength (chars cur)) key s).filterMap
          (readSegment? text) =
        writtenAll (pieces (separates (· == ',')) (cur ++ mark level s)) := by
  induction s with
  | nil =>
    intro front level key start cur kept noComma ht
    have last : readSegment? text
        ⟨key, ⟨start, byteLength front + byteLength (chars cur)⟩, false⟩ = written? true cur := by
      rw [ht]
      exact kept_readSegment? kept [] false
    rw [Segment.scan, mark, List.append_nil, pieces_of_none noComma, List.filterMap_cons, last]
    cases h : written? true cur <;> simp [writtenAll, h]
  | cons c s ih =>
    intro front level key start cur kept noComma ht
    generalize hm : (⟨c, (level.after c).isTop⟩ : Mark) = m
    have hsep : ∀ d, m.separates (· == d) = ((level.after c).isTop && c == d) := fun d => by
      rw [← hm]
      rfl
    have hc : m.char = c := by rw [← hm]
    have ht' : text = front ++ chars (cur ++ [m]) ++ s := by simpa [hc] using ht
    have next : byteLength front + byteLength (chars cur) + c.utf8Size =
        byteLength front + byteLength (chars (cur ++ [m])) := by
      simp [hc, Nat.add_assoc]
    have noComma' (h : m.separates (· == ',') = false) : NoneAt ',' (cur ++ [m]) :=
      fun x hx => (List.mem_append.1 hx).elim (noComma x) fun hx => List.mem_singleton.1 hx ▸ h
    rw [Segment.scan, mark, hm, next, ← hsep, ← hsep]
    split
    · next sign =>
      simp only [Bool.and_eq_true, Option.isNone_iff_eq_none] at sign
      obtain ⟨isSign, rfl⟩ := sign
      have other : m.separates (· == ',') = false := Mark.separates_of_ne (by decide) isSign
      rw [List.append_cons cur m (mark (level.after c) s)]
      exact ih (kept_sign kept isSign) (noComma' other) ht'
    · next noSign =>
      split
      · next comma =>
        have here : readSegment? text
            ⟨key, ⟨start, byteLength front + byteLength (chars cur)⟩, true⟩ =
              written? false cur := by
          rw [ht]
          exact kept_readSegment? kept (c :: s) true
        have rest := @ih (front ++ chars (cur ++ [m])) (level.after c) none _ [] (kept_nil _)
          (fun _ hm => absurd hm List.not_mem_nil) (by rw [ht']; simp)
        rw [byteLength_append, Mark.chars_nil, byteLength_nil, Nat.add_zero] at rest
        rw [pieces_append_cons noComma comma, Mark.writtenAll_cons _ (pieces_ne_nil _ _),
          List.filterMap_cons, rest, here]
        cases written? false cur <;> rfl
      · next noComma'' =>
        rw [List.append_cons cur m (mark (level.after c) s)]
        refine ih (kept_push kept fun hk => ?_) (noComma' (by simpa using noComma'')) ht'
        simpa [hk] using noSign

/-- What the segments of an argument list say, by the marks of the list. -/
theorem readSegments_eq (s : List Char) :
    (Segment.ofText s).filterMap (readSegment? s) =
      writtenAll (pieces (separates (· == ',')) (mark .top s)) :=
  kept_scan s (kept_nil []) (fun _ hm => absurd hm List.not_mem_nil) rfl

/-! ### Both passes -/

theorem parse_eq_reading (text : String) : parse text = reading text := by
  unfold parse reading
  dsimp only
  rw [readSegments_eq, trim_dropWhile_mark, splitHead_eq]

end MarkupBinding.Expression
