import MarkupBinding.Expression.Parser
/-!
# What the text of an expression says

`reading` says what a text means without following a reader through it. Each character of the text
within the braces is marked once: does it stand outside quotes and braces? The type name is what
comes before the first such blank. The rest is cut at all such commas, and each piece at its first
such equals sign. The pieces are entered in order, except for a last one that is blank.

A reader that goes through the text character by character has two rules in common with this: what
lies within the braces, and how an entry is entered. What these rules come to is said here as well,
without the steps by which they are carried out.

Results:

* `body_eq_iff`: within the braces is the trimmed text without one brace at each end that has one.
* `entries_enter`: an entry takes the place of the one with its key, or else goes behind all others.
  A key that is a numeral which 64 bits can hold is an index, and every other key is a name; without
  a key the entry gets the index behind the highest one in use.
* `chars_mark`: marking does not change the text.
* `mark_append`: the marks of a text depend only on the level at which it starts.
-/
namespace MarkupBinding

open Text

/-- A character, and whether it stands outside quotes and braces. -/
structure Mark where
  char : Char
  isTop : Bool
deriving DecidableEq

namespace Mark

/-- Marks the characters of a text that starts at a level. -/
def mark (level : Level) : List Char → List Mark
  | [] => []
  | c :: s => ⟨c, (level.after c).isTop⟩ :: mark (level.after c) s

/-- The characters of a marked text. -/
def chars (s : List Mark) : List Char := s.map Mark.char

/-- The character stands outside quotes and braces and is of a class. -/
def separates (p : Char → Bool) (m : Mark) : Bool := m.isTop && p m.char

/-- The marked text without blanks around it. -/
def trim (s : List Mark) : List Mark :=
  ((s.dropWhile fun m => isBlank m.char).reverse.dropWhile fun m => isBlank m.char).reverse

/-- What a piece says. In the last piece, nothing but blanks is nothing said. -/
def written? (isLast : Bool) (piece : List Mark) : Option Expression.Written :=
  let value (s : List Mark) : Option String :=
    let s := Text.trim (chars s)
    if isLast && s.isEmpty then none else some (String.ofList s)
  match cutFirst? (separates (· == '=')) piece with
  | some (key, rest) => some ⟨some (String.ofList (Text.trim (chars key))), value rest⟩
  | none => (value piece).map fun v => ⟨none, some v⟩

/-- What all pieces say. -/
def writtenAll : List (List Mark) → List Expression.Written
  | [] => []
  | [piece] => (written? true piece).toList
  | piece :: rest => (written? false piece).toList ++ writtenAll rest

@[simp] theorem chars_mark (level : Level) (s : List Char) : chars (mark level s) = s := by
  induction s generalizing level with
  | nil => rfl
  | cons c s ih => exact congrArg (c :: ·) (ih _)

theorem mark_append (level : Level) (s t : List Char) :
    mark level (s ++ t) = mark level s ++ mark (level.afterText s) t := by
  induction s generalizing level with
  | nil => rfl
  | cons c s ih => exact congrArg (⟨c, (level.after c).isTop⟩ :: ·) (ih _)

end Mark

namespace Expression

/-- What the text of an expression says. -/
def reading (text : String) : Expression :=
  let inner := Mark.mark .top (body text.toList)
  let inHead (m : Mark) : Bool := !m.separates isBlank
  let head := inner.takeWhile inHead
  let arguments := Mark.trim (inner.dropWhile inHead)
  (Mark.writtenAll (pieces (Mark.separates (· == ',')) arguments)).foldl enter
    (ofTypeName (String.ofList (Text.trim (Mark.chars head))))

/-! ## What lies within the braces -/

theorem body_eq_iff {s b : List Char} :
    body s = b ↔ ∃ front back, Text.trim s = front ++ b ++ back ∧
      (front = ['{'] ∨ front = [] ∧ (Text.trim s).head? ≠ some '{') ∧
      (back = ['}'] ∨ back = [] ∧ b.getLast? ≠ some '}') := by
  rw [body, getD_dropEnd?_eq_iff]
  constructor
  · rintro ⟨back, inner, ends⟩
    obtain ⟨front, whole, starts⟩ := getD_dropStart?_eq_iff.1 inner
    refine ⟨front, back, by rw [whole, List.append_assoc], starts, ends.imp_right ?_⟩
    rintro ⟨rfl, other⟩
    rw [inner, List.append_nil] at other
    exact ⟨rfl, other⟩
  · rintro ⟨front, back, whole, starts, ends⟩
    have inner := getD_dropStart?_eq_iff.2 ⟨front, by rw [whole, List.append_assoc], starts⟩
    refine ⟨back, inner, ends.imp_right ?_⟩
    rintro ⟨rfl, other⟩
    rw [inner, List.append_nil]
    exact ⟨rfl, other⟩

/-! ## How an entry is entered -/

theorem sourceKey_eq (name : String) :
    sourceKey name =
      if Decimal.isNumeral name.toList ∧ Decimal.value name.toList < UInt64.size then
        .positional (UInt64.ofNat (Decimal.value name.toList))
      else .named name := by
  by_cases marker : name = Key.typeMarker
  · subst marker
    rfl
  · rw [sourceKey, Key.read, if_neg marker]
    by_cases index : Decimal.isNumeral name.toList ∧ Decimal.value name.toList < UInt64.size
    · simp [index]
    · have noIndex : (Decimal.isNumeral name.toList &&
          decide (Decimal.value name.toList < UInt64.size)) = false := by
        simpa using index
      rw [noIndex, if_neg index]
      rfl

theorem entries_enter (e : Expression) (w : Written) :
    ∃ key : Key,
      (∀ name, w.key = some name → key =
        if Decimal.isNumeral name.toList ∧ Decimal.value name.toList < UInt64.size then
          .positional (UInt64.ofNat (Decimal.value name.toList))
        else .named name) ∧
      (w.key = none → ∃ index : UInt64, key = .positional index ∧
        index.toNat = min ((e.indexed.map fun p => p.1.toNat).foldl max 0 + 1) (UInt64.size - 1)) ∧
      (key ∉ e.entries.map Entry.key → (e.enter w).entries = e.entries ++ [⟨key, w.value⟩]) ∧
      ∀ before old after, e.entries = before ++ ⟨key, old⟩ :: after →
        key ∉ before.map Entry.key → (e.enter w).entries = before ++ ⟨key, w.value⟩ :: after := by
  obtain ⟨key, value⟩ := w
  cases key with
  | none =>
    exact ⟨.positional (nextIndex e.lastIndex), by simp,
      fun _ => ⟨_, rfl, toNat_nextIndex_lastIndex e⟩,
      fun new => entries_insert_of_new new value,
      fun _ _ _ used first => entries_insert_of_first used first value⟩
  | some name =>
    exact ⟨sourceKey name, by simp [sourceKey_eq], by simp,
      fun new => entries_insert_of_new new value,
      fun _ _ _ used first => entries_insert_of_first used first value⟩

end Expression

end MarkupBinding
