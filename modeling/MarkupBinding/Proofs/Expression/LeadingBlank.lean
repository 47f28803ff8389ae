import MarkupBinding.Proofs.Expression.Composed
/-!
# Blanks within the braces

Blanks around an expression and blanks in front of its closing brace say nothing. A blank behind the
opening brace is another matter. The type name ends at the first blank outside quotes and braces,
and this one is looked for before anything is trimmed: so the type name is the empty text in front
of it, and all that follows, the intended type name included, is read as arguments. Further blanks
make no more difference, and an empty body has no type name to lose.

Results:

* `parse_braced_of_blank`: what is read where the text within the braces starts with a blank.
* `typeName_parse_braced_eq_empty_iff`: where it does not, there is a type name.
* `splitHead_append_blank`: blanks at the end do not matter.
* `parse_padded_iff`: which blanks within and around the braces change what is read, and how.
-/
namespace MarkupBinding.Expression

open Text
open Mark (mark chars separates writtenAll)

/-- A text within braces. -/
def braced (s : List Char) : String := String.ofList ('{' :: s ++ ['}'])

/-! ## Behind the opening brace -/

/-- The head ends where the text starts. -/
theorem splitHead_of_blank {s : List Char} (h : ∀ c ∈ s.head?, isBlank c = true) :
    splitHead s = ([], trim s) := by
  cases s with
  | nil => rfl
  | cons c s =>
    have blank : isBlank c = true := h c rfl
    rw [trim_blank_cons blank]
    exact @splitHead_append [] rfl (fun _ hm => absurd hm List.not_mem_nil) c blank s

theorem parse_braced_of_blank {s : List Char} (h : ∀ c ∈ s.head?, isBlank c = true) :
    parse (braced s) = (writtenAll (pieces (separates (· == ',')) (mark .top s))).foldl enter
      (ofTypeName "") :=
  parse_of_splitHead (splitHead_of_blank h)

theorem typeName_parse_braced_eq_empty_iff {s : List Char} :
    (parse (braced s)).typeName = "" ↔ ∀ c ∈ s.head?, isBlank c = true := by
  constructor
  · intro empty
    cases s with
    | nil => exact fun c hc => nomatch hc
    | cons c s =>
      rw [typeName_parse, braced, String.toList_ofList, body_braced, splitHead_eq] at empty
      have nothing := congrArg String.toList empty
      rw [String.toList_ofList, mark, List.takeWhile_cons] at nothing
      intro d first
      obtain rfl : c = d := Option.some.inj first
      refine Decidable.of_not_not fun filled => ?_
      -- The head has its first character, which trimming can not take off.
      have inHead : (!separates isBlank ⟨c, (Level.top.after c).isTop⟩) = true := by
        simpa [separates] using Or.inr (eq_false_of_ne_true filled)
      rw [if_pos inHead] at nothing
      exact filled (isBlank_of_trim_eq_nil nothing c List.mem_cons_self)
  · intro blank
    rw [parse_braced_of_blank blank, typeName_foldl_enter, typeName_ofTypeName]

/-! ## In front of the closing brace -/

theorem splitHead_append_blank {w : List Char} (h : ∀ c ∈ w, isBlank c = true) (s : List Char) :
    splitHead (s ++ w) = splitHead s := by
  rw [splitHead_eq, splitHead_eq, Mark.mark_append]
  have padding := Mark.blank_mark h (Level.top.afterText s)
  generalize mark (Level.top.afterText s) w = back at padding
  have trimmed (x : List Mark) {y : List Mark} (hy : Mark.Blank y) :
      trim (chars (x ++ y)) = trim (chars x) :=
    Mark.trim_chars_padded Mark.blank_nil hy x
  have whole := List.takeWhile_append_dropWhile (p := fun m => !m.separates isBlank)
    (l := mark .top s)
  cases rest : (mark .top s).dropWhile (fun m => !m.separates isBlank) with
  | nil =>
    -- Nothing ends the head, so the blanks belong to it, or the first one of them ends it.
    have front : Mark.Blank (back.takeWhile fun m => !m.separates isBlank) :=
      fun m hm => padding m (List.takeWhile_subset _ hm)
    have behind : Mark.Blank (back.dropWhile fun m => !m.separates isBlank) :=
      fun m hm => padding m ((List.dropWhile_suffix _).subset hm)
    have nothing := trimmed [] behind
    rw [rest, List.append_nil] at whole
    have inHead : ∀ m ∈ mark .top s, (!m.separates isBlank) = true := fun m hm =>
      List.all_eq_true.1 List.all_takeWhile m (whole.symm ▸ hm)
    rw [List.takeWhile_append_of_pos inHead, List.dropWhile_append_of_pos inHead, whole,
      trimmed _ front, ← nothing, List.nil_append]
  | cons m y =>
    rw [List.takeWhile_append, List.dropWhile_append, rest]
    have shorter : ((mark .top s).takeWhile fun m => !m.separates isBlank).length ≠
        (mark .top s).length := by
      have lengths := congrArg List.length whole
      rw [rest, List.length_append, List.length_cons] at lengths
      omega
    rw [if_neg shorter, List.isEmpty_cons, if_neg Bool.false_ne_true, trimmed _ padding]

/-! ## All of them -/

theorem parse_congr {s t : String} (h : body s.toList = body t.toList) : parse s = parse t := by
  rw [parse, parse, h]

/-- Blanks behind the opening brace make no difference exactly if the text within the braces is
empty or starts with a blank anyway. Otherwise they take its type name away, and all of it is
arguments. In front of the closing brace and around a text, they never make a difference. -/
theorem parse_padded_iff {w : List Char} (blank : ∀ c ∈ w, isBlank c = true) (s : List Char) :
    (parse (braced (w ++ s)) = parse (braced s) ↔ w = [] ∨ ∀ c ∈ s.head?, isBlank c = true) ∧
    (w ≠ [] → parse (braced (w ++ s)) =
      (writtenAll (pieces (separates (· == ',')) (mark .top s))).foldl enter (ofTypeName "")) ∧
    parse (braced (s ++ w)) = parse (braced s) ∧
    parse (String.ofList (w ++ s)) = parse (String.ofList s) ∧
    parse (String.ofList (s ++ w)) = parse (String.ofList s) := by
  have lost (filled : w ≠ []) : parse (braced (w ++ s)) =
      (writtenAll (pieces (separates (· == ',')) (mark .top s))).foldl enter (ofTypeName "") := by
    have first : ∀ c ∈ (w ++ s).head?, isBlank c = true := by
      obtain ⟨d, w, rfl⟩ := List.exists_cons_of_ne_nil filled
      intro c first
      obtain rfl : d = c := Option.some.inj first
      exact blank d List.mem_cons_self
    have marks : mark .top (w ++ s) = mark .top w ++ mark .top s :=
      mark_append_closed (Level.afterText_blank blank .top) s
    rw [parse_braced_of_blank first, marks,
      Mark.writtenAll_blank_append (Mark.blank_mark blank .top)]
  refine ⟨⟨fun same => ?_, ?_⟩, lost, ?_, ?_, ?_⟩
  · refine Decidable.or_iff_not_imp_left.2 fun filled => ?_
    rw [← typeName_parse_braced_eq_empty_iff, ← same, lost filled, typeName_foldl_enter,
      typeName_ofTypeName]
  · rintro (rfl | first)
    · rfl
    · by_cases filled : w = []
      · rw [filled, List.nil_append]
      · rw [lost filled, parse_braced_of_blank first]
  · rw [parse, parse, braced, braced, String.toList_ofList, String.toList_ofList, body_braced,
      body_braced, splitHead_append_blank blank]
  · refine parse_congr ?_
    rw [String.toList_ofList, String.toList_ofList, body, body, trim_blank_append blank]
  · refine parse_congr ?_
    rw [String.toList_ofList, String.toList_ofList, body, body, trim_append_blank blank]

/-- Where the text within the braces starts with a blank of its own, more blanks make no difference;
and nor do they behind it. -/
theorem parse_padded_iff_blank_body :
    (∀ c ∈ ['\t', '\u3000'], isBlank c = true) ∧
      parse (braced (['\t', '\u3000'] ++ " T A".toList)) = parse (braced " T A".toList) ∧
      parse (braced (" T A".toList ++ ['\t', '\u3000'])) = parse (braced " T A".toList) := by
  have blank : ∀ c ∈ ['\t', '\u3000'], isBlank c = true := List.all_eq_true.1 (by decide)
  obtain ⟨same_iff, -, behind, -, -⟩ := parse_padded_iff blank " T A".toList
  have first : ∀ c ∈ " T A".toList.head?, isBlank c = true := fun c hc => Option.some.inj hc ▸ rfl
  exact ⟨blank, same_iff.2 (Or.inr first), behind⟩

/-- One blank, and the type name is read as the start of an argument. -/
theorem parse_leading_blank_ne :
    parse "\x7b T A\x7d" = ⟨[⟨.typeName, some ""⟩, ⟨.positional 1, some "T A"⟩]⟩ ∧
    parse "\x7bT A\x7d" = ⟨[⟨.typeName, some "T"⟩, ⟨.positional 1, some "A"⟩]⟩ ∧
    ¬ ∀ w s : List Char, (∀ c ∈ w, isBlank c = true) →
      parse (braced (w ++ s)) = parse (braced s) := by
  have padded : parse "\x7b T A\x7d" = ⟨[⟨.typeName, some ""⟩, ⟨.positional 1, some "T A"⟩]⟩ := by
    decide +kernel
  have plain : parse "\x7bT A\x7d" = ⟨[⟨.typeName, some "T"⟩, ⟨.positional 1, some "A"⟩]⟩ := by
    decide +kernel
  refine ⟨padded, plain, fun same => ?_⟩
  have equal : parse "\x7b T A\x7d" = parse "\x7bT A\x7d" := same [' '] "T A".toList isBlank_space
  rw [padded, plain] at equal
  exact absurd equal (by decide)

end MarkupBinding.Expression
