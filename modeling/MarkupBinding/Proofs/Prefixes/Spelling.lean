import MarkupBinding.Proofs.Prefixes.Invariant
import MarkupBinding.Resolution.Naming
/-!
# How prefixes are spelled

A prefix is read back from a qualified name if it holds no colon, is not padded and does not look
like the start of an expression (`NamePart`); it stays in one piece anywhere in an expression if it
holds nothing that markup gives a meaning to (`Plain`). The prefixes that a document makes up by
itself are plain: those derived from a namespace hold letters and digits in lower case, and a
numbered prefix is a front part of the old one with digits behind it.

Results:

* `NamePart.next`, `Plain.next`: numbering keeps a prefix readable.
* `plain_derivedPrefix`: a derived prefix is plain, in all scripts.
-/
namespace MarkupBinding

open Text

/-- A prefix or a local name that can be cut out of a qualified name again. -/
structure NamePart (s : String) : Prop where
  noColon : ':' ∉ s.toList
  trimmed : trim s.toList = s.toList
  noBrace : s.toList.head? ≠ some '{'

/-- The marks that separate and enclose the parts of an expression or of a qualified name. -/
def marks : List Char := [':', ',', '=', '"', '{', '}']

/-- A character that markup gives a meaning to: a blank or one of the marks. -/
def isSyntax (c : Char) : Bool := isBlank c || marks.contains c

/-- A text without such characters. -/
def Plain (s : String) : Prop := ∀ c ∈ s.toList, isSyntax c = false

instance : DecidablePred Plain := fun s => List.decidableBAll _ s.toList

theorem Plain.isBlank_eq_false {s : String} (h : Plain s) {c : Char} (hc : c ∈ s.toList) :
    isBlank c = false := by
  have := h c hc
  simp only [isSyntax, Bool.or_eq_false_iff] at this
  exact this.1

theorem Plain.not_mem {s : String} (h : Plain s) {c : Char} (hc : c ∈ marks) : c ∉ s.toList := by
  intro mem
  have := h c mem
  simp only [isSyntax, Bool.or_eq_false_iff] at this
  exact absurd (List.contains_iff_mem.2 hc) (by rw [this.2]; exact Bool.false_ne_true)

theorem Plain.trim_eq {s : String} (h : Plain s) : trim s.toList = s.toList :=
  trim_of_visible fun _ => h.isBlank_eq_false

theorem Plain.namePart {s : String} (h : Plain s) : NamePart s where
  noColon := h.not_mem (by decide)
  trimmed := h.trim_eq
  noBrace := fun hc => h.not_mem (c := '{') (by decide) (List.mem_of_head? hc)

/-! ## Characters without meaning -/

/-- The code points of the blanks and the marks. -/
def syntaxRanges : List CodeRange :=
  [⟨0x9, 0xd⟩, ⟨0x20, 0x20⟩, ⟨0x22, 0x22⟩, ⟨0x2c, 0x2c⟩, ⟨0x3a, 0x3a⟩, ⟨0x3d, 0x3d⟩, ⟨0x7b, 0x7b⟩,
    ⟨0x7d, 0x7d⟩, ⟨0x85, 0x85⟩, ⟨0xa0, 0xa0⟩, ⟨0x1680, 0x1680⟩, ⟨0x2000, 0x200a⟩,
    ⟨0x2028, 0x2029⟩, ⟨0x202f, 0x202f⟩, ⟨0x205f, 0x205f⟩, ⟨0x3000, 0x3000⟩]

theorem exists_range_of_isSyntax {c : Char} (h : isSyntax c = true) :
    ∃ q ∈ syntaxRanges, q.lo ≤ c.toNat ∧ c.toNat ≤ q.hi := by
  have single : ∀ d, (∃ q ∈ syntaxRanges, q.lo ≤ d.toNat ∧ d.toNat ≤ q.hi) → c = d →
      ∃ q ∈ syntaxRanges, q.lo ≤ c.toNat ∧ c.toNat ≤ q.hi := fun _ hd e => e ▸ hd
  have range : ∀ lo hi : Char, ⟨lo.toNat, hi.toNat⟩ ∈ syntaxRanges → lo ≤ c ∧ c ≤ hi →
      ∃ q ∈ syntaxRanges, q.lo ≤ c.toNat ∧ c.toNat ≤ q.hi := fun lo hi hq hc =>
    ⟨_, hq, UInt32.le_iff_toNat_le.1 hc.1, UInt32.le_iff_toNat_le.1 hc.2⟩
  rcases Bool.or_eq_true _ _ ▸ h with h | h
  · simp only [isBlank, Bool.or_eq_true, Bool.and_eq_true, decide_eq_true_eq, beq_iff_eq] at h
    rcases h with (((((((((h | h) | h) | h) | h) | h) | h) | h) | h) | h) | h
    · exact range '\t' '\r' (by decide) h
    · exact single ' ' (by decide) h
    · exact single '\u0085' (by decide) h
    · exact single '\u00a0' (by decide) h
    · exact single '\u1680' (by decide) h
    · exact range '\u2000' '\u200a' (by decide) h
    · exact single '\u2028' (by decide) h
    · exact single '\u2029' (by decide) h
    · exact single '\u202f' (by decide) h
    · exact single '\u205f' (by decide) h
    · exact single '\u3000' (by decide) h
  · have every : marks.all (fun d =>
        decide (∃ q ∈ syntaxRanges, q.lo ≤ d.toNat ∧ d.toNat ≤ q.hi)) = true := by decide
    exact of_decide_eq_true (List.all_eq_true.1 every c (List.contains_iff_mem.1 h))

/-- A character in a range of code points that meets none of them. -/
theorem isSyntax_eq_false {lo hi : Nat} (apart : ∀ q ∈ syntaxRanges, hi < q.lo ∨ q.hi < lo)
    {c : Char} (hlo : lo ≤ c.toNat) (hhi : c.toNat ≤ hi) : isSyntax c = false := by
  rw [← Bool.not_eq_true]
  intro h
  obtain ⟨q, hq, h1, h2⟩ := exists_range_of_isSyntax h
  have := apart q hq
  omega

theorem isSyntax_of_isDigit {c : Char} (h : c.isDigit = true) : isSyntax c = false := by
  simp only [Char.isDigit, Bool.and_eq_true, decide_eq_true_eq, ge_iff_le,
    UInt32.le_iff_toNat_le] at h
  have apart : ∀ q ∈ syntaxRanges, 0x39 < q.lo ∨ q.hi < 0x30 := by decide
  exact isSyntax_eq_false apart h.1 h.2

theorem isSyntax_of_isAlphanumeric {c : Char} (h : isAlphanumeric c = true) :
    isSyntax c = false := by
  have apart : ∀ r ∈ alphanumericRanges, ∀ q ∈ syntaxRanges, r.hi < q.lo ∨ q.hi < r.lo := by
    decide +kernel
  obtain ⟨r, hr, hlo, hhi⟩ := inRanges_eq_true_iff.1 h
  exact isSyntax_eq_false (apart r hr) hlo hhi

theorem toNat_ofNat (n : Nat) : (Char.ofNat n).toNat = n ∨ Char.ofNat n = '\x00' := by
  by_cases h : n.isValidChar
  · refine Or.inl ?_
    rw [Char.ofNat, dif_pos h]
    rfl
  · refine Or.inr ?_
    rw [Char.ofNat, dif_neg h]
    rfl

/-- Nor does a letter or a digit become one of them in lower case. -/
theorem isSyntax_of_mem_lowercase {c d : Char} (h : isAlphanumeric d = true)
    (hc : c ∈ lowercase d) : isSyntax c = false := by
  have apart : ∀ r ∈ lowercaseRuns, ∀ q ∈ syntaxRanges,
      (r.hi + r.shift < q.lo ∨ q.hi < r.lo + r.shift) := by decide +kernel
  have positive : ∀ r ∈ lowercaseRuns, 0 ≤ r.lo + r.shift := by decide +kernel
  unfold lowercase at hc
  split at hc
  · have dotted : Plain (String.ofList ['i', '\u0307']) := by decide
    exact dotted c (by rwa [String.toList_ofList])
  · split at hc
    · next r hr =>
      rw [List.mem_singleton.1 hc]
      have holds := List.find?_some hr
      simp only [CaseRun.holds, Bool.and_eq_true, decide_eq_true_eq] at holds
      rw [← Bool.not_eq_true]
      intro bad
      rcases toNat_ofNat (d.toNat + r.shift).toNat with e | e
      · obtain ⟨q, hq, h1, h2⟩ := exists_range_of_isSyntax bad
        have := apart r (List.mem_of_find?_eq_some hr) q hq
        have := positive r (List.mem_of_find?_eq_some hr)
        omega
      · rw [e] at bad
        exact absurd bad (by decide)
    · rw [List.mem_singleton.1 hc]
      exact isSyntax_of_isAlphanumeric h

/-! ## Numbered prefixes -/

/-- A numbered prefix is a front part of the old one with digits behind it. -/
theorem exists_nextNumbered (pfx : String) : ∃ front digits, front <+: pfx.toList ∧ digits ≠ [] ∧
    (∀ c ∈ digits, c.isDigit = true) ∧ (nextNumbered pfx).toList = front ++ digits := by
  unfold nextNumbered nextNumberedChars
  rw [String.toList_ofList]
  dsimp only
  split
  · refine ⟨numberStem pfx.toList, _, ⟨trailingDigits pfx.toList, ?_⟩, Nat.toDigits_ne_nil,
      fun c hc => isDigit_of_mem_write hc, rfl⟩
    exact numberStem_append_trailingDigits pfx.toList
  · exact ⟨pfx.toList, ['1'], List.prefix_refl _, by simp, List.all_eq_true.1 (by decide), rfl⟩

theorem nextNumbered_ne_empty (pfx : String) : nextNumbered pfx ≠ "" := by
  obtain ⟨front, digits, -, ne, -, e⟩ := exists_nextNumbered pfx
  intro h
  rw [h, String.toList_empty] at e
  exact ne (List.append_eq_nil_iff.1 e.symm).2

theorem Plain.next {pfx : String} (h : Plain pfx) : Plain (nextNumbered pfx) := by
  obtain ⟨front, digits, ⟨rest, hf⟩, -, hd, e⟩ := exists_nextNumbered pfx
  intro c hc
  rw [e] at hc
  rcases List.mem_append.1 hc with hc | hc
  · exact h c (hf ▸ List.mem_append_left rest hc)
  · exact isSyntax_of_isDigit (hd c hc)

theorem NamePart.next {pfx : String} (h : NamePart pfx) : NamePart (nextNumbered pfx) := by
  obtain ⟨front, digits, ⟨rest, hf⟩, ne, hd, e⟩ := exists_nextNumbered pfx
  have digit : ∀ c ∈ digits, isBlank c = false ∧ c ∉ marks := fun c hc => by
    have := isSyntax_of_isDigit (hd c hc)
    simp only [isSyntax, Bool.or_eq_false_iff] at this
    exact ⟨this.1, fun m => by simp [m] at this⟩
  have first : ∀ c, (front ++ digits).head? = some c → pfx.toList.head? = some c ∨ c ∈ digits := by
    intro c hc
    cases front with
    | nil => exact Or.inr (List.mem_of_head? hc)
    | cons a front =>
      rw [← hf]
      exact Or.inl hc
  refine ⟨?_, ?_, ?_⟩ <;> rw [e]
  · intro hc
    rcases List.mem_append.1 hc with hc | hc
    · exact h.noColon (hf ▸ List.mem_append_left rest hc)
    · exact (digit _ hc).2 (by decide)
  · refine trim_eq_self (fun c hc => ?_) fun c hc => ?_
    · rcases first c hc with hc | hc
      · exact (trim_eq_self_iff.1 h.trimmed).1 c hc
      · exact (digit c hc).1
    · rw [List.getLast?_append, List.getLast?_eq_some_getLast ne, Option.some_or] at hc
      exact (digit c (Option.some.inj hc ▸ List.getLast_mem ne)).1
  · intro hc
    rcases first _ hc with hc | hc
    · exact h.noBrace hc
    · exact (digit _ hc).2 (by decide)

/-! ## Derived prefixes -/

theorem plain_derivedPrefix (ns : String) : Plain (derivedPrefix ns) := by
  unfold derivedPrefix
  split
  · decide
  · intro c hc
    rw [String.toList_ofList] at hc
    obtain ⟨d, hd, hc⟩ := List.mem_flatMap.1 hc
    exact isSyntax_of_mem_lowercase (List.mem_filter.1 hd).2 hc

end MarkupBinding
