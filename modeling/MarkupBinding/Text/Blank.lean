/-!
# Blank characters and trimming

Markup is padded freely: names, keys, values and separators may have blanks around them. A blank
is a character with the Unicode property `White_Space`, 25 characters in all. `trimStart`,
`trimEnd` and `trim` take blanks off the ends of a text.

Results:

* `trim_trim`: trimming twice is trimming once.
* `trim_eq_self_iff`: a text is left alone exactly if it neither starts nor ends with a blank.
* `trim_blank_append`, `trim_append_blank`: padding does not show after trimming.
* `exists_trim`, `exists_trimEnd`: a text is what trimming leaves of it, between blanks.
* `trim_append_eq`: what stands behind a trimmed text is trimmed at its end.
* `trim_eq_nil_iff`, `mem_trim_iff`: trimming takes off all of a blank text, and only blanks.
-/
namespace MarkupBinding.Text

/-- Blank characters: the Unicode property `White_Space`. -/
def isBlank (c : Char) : Bool :=
  ('\t' ≤ c && c ≤ '\r') || c == ' ' || c == '\u0085' || c == '\u00a0' || c == '\u1680' ||
    ('\u2000' ≤ c && c ≤ '\u200a') || c == '\u2028' || c == '\u2029' || c == '\u202f' ||
    c == '\u205f' || c == '\u3000'

/-- The text without the blanks it starts with. -/
def trimStart (s : List Char) : List Char := s.dropWhile isBlank

/-- The text without the blanks it ends with. -/
def trimEnd (s : List Char) : List Char := (s.reverse.dropWhile isBlank).reverse

/-- The text without blanks at either end. -/
def trim (s : List Char) : List Char := trimEnd (trimStart s)

/-- Trims a string. -/
def trimmed (s : String) : String := String.ofList (trim s.toList)

/-! ## Laws -/

@[simp] theorem trim_nil : trim [] = [] := rfl

theorem dropWhile_eq_self {p : Char → Bool} {s : List Char}
    (h : ∀ c, s.head? = some c → p c = false) : s.dropWhile p = s := by
  cases s with
  | nil => rfl
  | cons c s => rw [List.dropWhile_cons, if_neg]; simp [h c rfl]

theorem head?_dropWhile {p : Char → Bool} {s : List Char} {c : Char}
    (h : (s.dropWhile p).head? = some c) : p c = false := by
  induction s with
  | nil => simp at h
  | cons a s ih =>
    rw [List.dropWhile_cons] at h
    split at h
    · exact ih h
    · simp_all

theorem trimStart_eq_self {s : List Char} (h : ∀ c, s.head? = some c → isBlank c = false) :
    trimStart s = s :=
  dropWhile_eq_self h

theorem trimEnd_eq_self {s : List Char} (h : ∀ c, s.getLast? = some c → isBlank c = false) :
    trimEnd s = s := by
  unfold trimEnd
  rw [dropWhile_eq_self (by simpa [List.head?_reverse] using h), List.reverse_reverse]

theorem trim_eq_self {s : List Char} (first : ∀ c, s.head? = some c → isBlank c = false)
    (last : ∀ c, s.getLast? = some c → isBlank c = false) : trim s = s := by
  rw [trim, trimStart_eq_self first, trimEnd_eq_self last]

theorem trim_of_visible {s : List Char} (visible : ∀ c ∈ s, isBlank c = false) : trim s = s :=
  trim_eq_self (fun c hc => visible c (List.mem_of_head? hc))
    fun c hc => visible c (List.mem_of_getLast? hc)

theorem trimEnd_isPrefix (s : List Char) : trimEnd s <+: s := by
  have h : s.reverse.dropWhile isBlank <:+ s.reverse := List.dropWhile_suffix _
  simpa [trimEnd] using List.reverse_prefix.2 h

theorem getLast?_trimEnd {s : List Char} {c : Char} (h : (trimEnd s).getLast? = some c) :
    isBlank c = false := by
  rw [trimEnd, List.getLast?_reverse] at h
  exact head?_dropWhile h

theorem getLast?_trim {s : List Char} {c : Char} (h : (trim s).getLast? = some c) :
    isBlank c = false :=
  getLast?_trimEnd h

theorem head?_trim {s : List Char} {c : Char} (h : (trim s).head? = some c) :
    isBlank c = false := by
  obtain ⟨t, ht⟩ := trimEnd_isPrefix (trimStart s)
  refine head?_dropWhile (s := s) (p := isBlank) ?_
  change (trimStart s).head? = some c
  rw [← ht, List.head?_append]
  simp [show (trimEnd (trimStart s)).head? = some c from h]

@[simp] theorem trim_trim (s : List Char) : trim (trim s) = trim s :=
  trim_eq_self (fun _ => head?_trim) (fun _ => getLast?_trim)

theorem trim_eq_self_iff {s : List Char} : trim s = s ↔
    (∀ c, s.head? = some c → isBlank c = false) ∧
      (∀ c, s.getLast? = some c → isBlank c = false) :=
  ⟨fun h => ⟨fun _ hc => head?_trim (h.symm ▸ hc), fun _ hc => getLast?_trim (h.symm ▸ hc)⟩,
    fun h => trim_eq_self h.1 h.2⟩

/-- Trimmed texts put together are trimmed. -/
theorem trim_append {a b : List Char} (ha : trim a = a) (hb : trim b = b) :
    trim (a ++ b) = a ++ b := by
  refine trim_eq_self (fun c hc => ?_) (fun c hc => ?_)
  · cases a with
    | nil => exact (trim_eq_self_iff.1 hb).1 c hc
    | cons x a => exact (trim_eq_self_iff.1 ha).1 c hc
  · rw [List.getLast?_append] at hc
    cases h : b.getLast? with
    | none => exact (trim_eq_self_iff.1 ha).2 c (by rwa [h, Option.none_or] at hc)
    | some x => exact (trim_eq_self_iff.1 hb).2 c (by rw [h]; rwa [h, Option.some_or] at hc)

/-- So are two trimmed texts around a character that is not blank. -/
theorem trim_append_cons {a b : List Char} {c : Char} (ha : trim a = a) (hc : isBlank c = false)
    (hb : trim b = b) : trim (a ++ c :: b) = a ++ c :: b := by
  have single : trim [c] = [c] := by simp [trim, trimStart, trimEnd, hc]
  exact trim_append ha (trim_append single hb)

theorem mem_of_mem_trim {c : Char} {s : List Char} (h : c ∈ trim s) : c ∈ s :=
  (List.dropWhile_suffix isBlank).subset ((trimEnd_isPrefix (trimStart s)).subset h)

theorem length_trim_le (s : List Char) : (trim s).length ≤ s.length :=
  Nat.le_trans (trimEnd_isPrefix (trimStart s)).length_le (List.dropWhile_suffix isBlank).length_le

theorem trimStart_blank_append {w : List Char} (h : ∀ c ∈ w, isBlank c = true) (s : List Char) :
    trimStart (w ++ s) = trimStart s := by
  induction w with
  | nil => rfl
  | cons c w ih =>
    have hc : isBlank c = true := h c (by simp)
    change (c :: (w ++ s)).dropWhile isBlank = _
    rw [List.dropWhile_cons, if_pos hc]
    exact ih fun d hd => h d (by simp [hd])

theorem trim_blank_append {w : List Char} (h : ∀ c ∈ w, isBlank c = true) (s : List Char) :
    trim (w ++ s) = trim s := by
  rw [trim, trim, trimStart_blank_append h]

theorem trimEnd_append_blank {w : List Char} (h : ∀ c ∈ w, isBlank c = true) (s : List Char) :
    trimEnd (s ++ w) = trimEnd s := by
  have back := trimStart_blank_append (w := w.reverse) (by simpa using h) s.reverse
  unfold trimStart at back
  rw [trimEnd, trimEnd, List.reverse_append, back]

theorem trim_append_blank {w : List Char} (h : ∀ c ∈ w, isBlank c = true) (s : List Char) :
    trim (s ++ w) = trim s := by
  have nothing : trimStart w = [] := by
    have front := trimStart_blank_append h []
    rwa [List.append_nil] at front
  unfold trim
  cases e : trimStart s with
  | nil =>
    have blank : trimStart (s ++ w) = [] := by
      unfold trimStart at e nothing ⊢
      rw [List.dropWhile_append, e, List.isEmpty_nil, if_pos rfl, nothing]
    rw [blank]
  | cons c r =>
    have kept : trimStart (s ++ w) = (c :: r) ++ w := by
      unfold trimStart at e ⊢
      rw [List.dropWhile_append, e, List.isEmpty_cons, if_neg Bool.false_ne_true]
    rw [kept, trimEnd_append_blank h]

theorem isBlank_of_mem_takeWhile {s : List Char} : ∀ c ∈ s.takeWhile isBlank, isBlank c = true :=
  fun c hc => List.all_eq_true.1 List.all_takeWhile c hc

/-- A text is what trimming its end leaves of it, before blanks. -/
theorem exists_trimEnd (s : List Char) :
    ∃ back, (∀ c ∈ back, isBlank c = true) ∧ s = trimEnd s ++ back := by
  have whole := congrArg List.reverse
    (List.takeWhile_append_dropWhile (p := isBlank) (l := s.reverse))
  rw [List.reverse_append, List.reverse_reverse] at whole
  refine ⟨(s.reverse.takeWhile isBlank).reverse, fun c hc => ?_, whole.symm⟩
  exact isBlank_of_mem_takeWhile c (List.mem_reverse.1 hc)

/-- Behind a text that is trimmed, only the end of another one is trimmed. -/
theorem trim_append_eq {a : List Char} (ha : trim a = a) (ne : a ≠ []) (s : List Char) :
    trim (a ++ s) = a ++ trimEnd s := by
  obtain ⟨back, blank, e⟩ := exists_trimEnd s
  have ends := trim_eq_self_iff.1 ha
  have kept : trim (a ++ trimEnd s) = a ++ trimEnd s := by
    refine trim_eq_self (fun c hc => ?_) (fun c hc => ?_)
    · obtain ⟨d, rest, rfl⟩ := List.exists_cons_of_ne_nil ne
      exact ends.1 c hc
    · rw [List.getLast?_append] at hc
      cases last : (trimEnd s).getLast? with
      | none => exact ends.2 c (by rwa [last, Option.none_or] at hc)
      | some d =>
        rw [last, Option.some_or] at hc
        exact getLast?_trimEnd (last.trans hc)
  calc trim (a ++ s) = trim (a ++ trimEnd s ++ back) := by rw [List.append_assoc, ← e]
    _ = a ++ trimEnd s := by rw [trim_append_blank blank, kept]

/-- A text is what trimming leaves of it, between blanks. -/
theorem exists_trim (s : List Char) : ∃ front back, (∀ c ∈ front, isBlank c = true) ∧
    (∀ c ∈ back, isBlank c = true) ∧ s = front ++ trim s ++ back := by
  have start : s.takeWhile isBlank ++ trimStart s = s := List.takeWhile_append_dropWhile
  obtain ⟨back, blank, stop⟩ := exists_trimEnd (trimStart s)
  refine ⟨s.takeWhile isBlank, back, isBlank_of_mem_takeWhile, blank, ?_⟩
  rw [List.append_assoc, trim, ← stop, start]

theorem isBlank_space : ∀ c ∈ [' '], isBlank c = true := List.all_eq_true.1 (by decide)

theorem trim_blank_cons {c : Char} (h : isBlank c = true) (s : List Char) :
    trim (c :: s) = trim s :=
  trim_blank_append (w := [c]) (by simpa using h) s

/-- Trimming leaves nothing of blanks only. -/
theorem isBlank_of_trim_eq_nil {s : List Char} (h : trim s = []) : ∀ c ∈ s, isBlank c = true := by
  obtain ⟨front, back, hf, hb, e⟩ := exists_trim s
  rw [h, List.append_nil] at e
  intro c hc
  rw [e] at hc
  exact (List.mem_append.1 hc).elim (hf c) (hb c)

theorem trim_eq_nil_iff {s : List Char} : trim s = [] ↔ ∀ c ∈ s, isBlank c = true := by
  refine ⟨isBlank_of_trim_eq_nil, fun blank => ?_⟩
  have nothing := trim_append_blank blank []
  rwa [List.nil_append, trim_nil] at nothing

/-- Trimming takes off nothing but blanks. -/
theorem mem_trim_iff {c : Char} (visible : isBlank c = false) {s : List Char} :
    c ∈ trim s ↔ c ∈ s := by
  obtain ⟨front, back, hf, hb, e⟩ := exists_trim s
  have inside {w : List Char} (blank : ∀ d ∈ w, isBlank d = true) : c ∉ w := by
    intro mem
    rw [blank c mem] at visible
    exact Bool.false_ne_true visible.symm
  have whole : c ∈ front ++ trim s ++ back ↔ c ∈ trim s := by
    simp [inside hf, inside hb]
  rw [← whole, ← e]

/-- Whatever stands between braces is not trimmed. -/
theorem trim_braced (s : List Char) : trim ('{' :: s ++ ['}']) = '{' :: s ++ ['}'] := by
  refine trim_eq_self (fun c hc => ?_) (fun c hc => ?_)
  · rw [← Option.some.inj hc]
    decide
  · rw [List.getLast?_concat] at hc
    rw [← Option.some.inj hc]
    decide

end MarkupBinding.Text
