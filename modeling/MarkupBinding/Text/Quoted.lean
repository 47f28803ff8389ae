import MarkupBinding.Text.CharacterClass
import MarkupBinding.Text.Split
/-!
# Texts and values in messages

Messages show names and inputs between double quotes, so that a reader sees where they begin and
end and what is in them. A double quote and a backslash stand behind a backslash, four controls
have a letter, and a character that cannot be shown is written as its code point in hexadecimal
between braces. Structured values are shown by their parts: a list in brackets, a tuple in
parentheses, a tagged value with its tag before the parentheses, and a record as its name with the
fields in braces.

Results:

* `unescape?_escape_append`: what a character is written as tells the character and where it ends.
* `quoted_append_inj`: a quoted text, whatever stands behind it, is that of one text only.
-/
namespace MarkupBinding.Text

/-- A character as it is written between quotes. -/
def escape (c : Char) : List Char :=
  if c = '\x00' then ['\\', '0']
  else if c = '\t' then ['\\', 't']
  else if c = '\r' then ['\\', 'r']
  else if c = '\n' then ['\\', 'n']
  else if c = '"' then ['\\', '"']
  else if c = '\\' then ['\\', '\\']
  else if isHidden c then ['\\', 'u', '{'] ++ Nat.toDigits 16 c.toNat ++ ['}']
  else [c]

/-- A text between double quotes. -/
def quoted (s : String) : String :=
  String.ofList ('"' :: s.toList.flatMap escape ++ ['"'])

/-! ## Reading a quoted text back -/

/-- The value of a hexadecimal digit in lower case. -/
def hexDigit (c : Char) : Nat := if c.isDigit then c.toNat - '0'.toNat else c.toNat - 'a'.toNat + 10

/-- The value of hexadecimal digits, most significant first. -/
def hexValue (s : List Char) : Nat := s.foldl (fun n c => 16 * n + hexDigit c) 0

/-- The character behind a backslash, and what follows it. -/
def unescapeMark? : List Char → Option (Char × List Char)
  | [] => none
  | c :: s =>
    if c = '0' then some ('\x00', s)
    else if c = 't' then some ('\t', s)
    else if c = 'r' then some ('\r', s)
    else if c = 'n' then some ('\n', s)
    else if c = 'u' then
      (cutFirst? (· == '}') (s.drop 1)).map fun p => (Char.ofNat (hexValue p.1), p.2)
    else some (c, s)

/-- The first character of a text between quotes, and what follows it; none where the text ends. -/
def unescape? : List Char → Option (Char × List Char)
  | [] => none
  | c :: s => if c = '"' then none else if c = '\\' then unescapeMark? s else some (c, s)

theorem hexDigit_digitChar : ∀ n < 16, hexDigit (Nat.digitChar n) = n := by decide

/-- The digits of a number are a single one, or those of its sixteenth part with one behind. -/
theorem toDigits_induct {motive : Nat → List Char → Prop}
    (single : ∀ d < 16, motive d [Nat.digitChar d])
    (behind : ∀ n s, motive n s → ∀ d < 16, motive (16 * n + d) (s ++ [Nat.digitChar d])) (n : Nat) :
    motive n (Nat.toDigits 16 n) := by
  induction n using Nat.strongRecOn with
  | ind n ih =>
    rcases Nat.lt_or_ge n 16 with small | large
    · rw [Nat.toDigits_of_lt_base small]
      exact single n small
    · have grown := behind _ _ (ih (n / 16) (by omega)) (n % 16) (Nat.mod_lt n (by decide))
      rwa [Nat.div_add_mod, ← Nat.toDigits_of_base_le (by decide) large] at grown

theorem hexValue_toDigits (n : Nat) : hexValue (Nat.toDigits 16 n) = n := by
  refine toDigits_induct (motive := fun n s => hexValue s = n) ?single ?behind n
  case single =>
    intro d small
    simp [hexValue, hexDigit_digitChar d small]
  case behind =>
    intro n s value d small
    rw [hexValue] at value
    rw [hexValue, List.foldl_append, value, List.foldl_cons, List.foldl_nil,
      hexDigit_digitChar d small]

theorem brace_not_mem_toDigits (n : Nat) : '}' ∉ Nat.toDigits 16 n := by
  have digit : ∀ d < 16, '}' ≠ Nat.digitChar d := by decide
  refine toDigits_induct (motive := fun _ s => '}' ∉ s) ?single ?behind n
  case single =>
    intro d small
    exact mt List.mem_singleton.1 (digit d small)
  case behind =>
    intro n s free d small mem
    rcases List.mem_append.1 mem with mem | mem
    · exact free mem
    · exact digit d small (List.mem_singleton.1 mem)

theorem unescape?_escape_append (c : Char) (s : List Char) :
    unescape? (escape c ++ s) = some (c, s) := by
  -- One case for each of the ways to write a character, in the order of their definition.
  by_cases nul : c = '\x00'
  · subst nul; rfl
  by_cases tab : c = '\t'
  · subst tab; rfl
  by_cases ret : c = '\r'
  · subst ret; rfl
  by_cases line : c = '\n'
  · subst line; rfl
  by_cases quote : c = '"'
  · subst quote; rfl
  by_cases backslash : c = '\\'
  · subst backslash; rfl
  by_cases hidden : isHidden c
  · have cut : cutFirst? (· == '}') (Nat.toDigits 16 c.toNat ++ '}' :: s) =
        some (Nat.toDigits 16 c.toNat, s) :=
      cutFirst?_eq_some_iff.2 ⟨fun d hd =>
        beq_eq_false_iff_ne.2 fun e => brace_not_mem_toDigits _ (e ▸ hd), '}', rfl, rfl⟩
    simp [escape, nul, tab, ret, line, quote, backslash, hidden, unescape?, unescapeMark?, cut,
      hexValue_toDigits]
  · simp [escape, nul, tab, ret, line, quote, backslash, hidden, unescape?]

theorem flatMap_escape_append_inj {a b s t : List Char}
    (h : a.flatMap escape ++ '"' :: s = b.flatMap escape ++ '"' :: t) : a = b ∧ s = t := by
  induction a generalizing b with
  | nil =>
    cases b with
    | nil => simpa using h
    | cons d b =>
      have first := congrArg unescape? h
      rw [List.flatMap_cons, List.append_assoc, unescape?_escape_append] at first
      exact absurd first (by simp [unescape?])
  | cons c a ih =>
    have first := congrArg unescape? h
    rw [List.flatMap_cons, List.append_assoc, unescape?_escape_append] at first
    cases b with
    | nil => exact absurd first (by simp [unescape?])
    | cons d b =>
      rw [List.flatMap_cons, List.append_assoc, unescape?_escape_append, Option.some_inj,
        Prod.mk.injEq] at first
      obtain ⟨rfl, rest⟩ := first
      obtain ⟨rfl, rfl⟩ := ih rest
      exact ⟨rfl, rfl⟩

/-- A quoted text ends at its second quote that no backslash precedes, so it can be read off the
front of a message. -/
theorem quoted_append_inj {a b : String} {s t : List Char}
    (h : (quoted a).toList ++ s = (quoted b).toList ++ t) : a = b ∧ s = t := by
  simp only [quoted, String.toList_ofList, List.cons_append, List.append_assoc, List.nil_append,
    List.cons.injEq, true_and] at h
  obtain ⟨chars, rest⟩ := flatMap_escape_append_inj h
  exact ⟨String.toList_inj.1 chars, rest⟩

/-! ## Structured values -/

namespace Dump

/-- The items, separated by commas. -/
def commas (items : List String) : String := ", ".intercalate items

/-- A list in brackets. -/
def list (items : List String) : String := "[" ++ commas items ++ "]"

/-- A tuple in parentheses. -/
def tuple (items : List String) : String := "(" ++ commas items ++ ")"

/-- A tag with the one value that it carries. -/
def tagged (tag value : String) : String := tag ++ tuple [value]

/-- Fields with their names. -/
def fields (items : List (String × String)) : List String :=
  items.map fun (name, value) => name ++ ": " ++ value

/-- A record, all of whose fields are shown. -/
def record (name : String) (items : List (String × String)) : String :=
  name ++ " \x7b " ++ commas (fields items) ++ " \x7d"

/-- A record with further fields that are not shown, which end in two dots. -/
def openRecord (name : String) (items : List (String × String)) : String :=
  name ++ " \x7b " ++ commas (fields items ++ [".."]) ++ " \x7d"

end Dump

end MarkupBinding.Text
