import MarkupBinding.Expression.Basic
import MarkupBinding.Text.Blank
import MarkupBinding.Text.Slice
import MarkupBinding.Text.Split
/-!
# Reading expressions

`parse` reads the text of an expression. It never fails: braces around the expression may be
missing, quotes and braces inside it may stay open, and segments may be empty. The text up to the
first blank is the type name; the segments behind it are entered from left to right, unnamed ones
behind the highest index in use and named ones in place.

Results:

* `afterText_append`, `after_eq_self`: the level at the end of a text is found from left to right,
  and only quotes and braces change it.
* `typeName_parse`: the type name of what is read is the trimmed head of the text, whatever the
  segments say.
-/
namespace MarkupBinding

open Text

/-! ## Quotes and braces

What separates the parts of an expression does so only outside double quotes and nested braces. A
double quote opens or closes a quotation, but inside braces it is a character like any other; braces
do not count their depth, so the first closing brace closes them all. Nothing is ever required to be
closed. -/

/-- What a reader is inside of. -/
structure Level where
  inQuotes : Bool
  inBraces : Bool
deriving DecidableEq

namespace Level

/-- Outside of everything. -/
def top : Level := ⟨false, false⟩

/-- The level after a character. -/
def after (level : Level) (c : Char) : Level :=
  if c = '"' then
    if level.inBraces then level else { level with inQuotes := !level.inQuotes }
  else if c = '{' then { level with inBraces := true }
  else if c = '}' then { level with inBraces := false }
  else level

/-- The level after a text. -/
def afterText (level : Level) (s : List Char) : Level := s.foldl after level

/-- Outside of everything, where separators count. -/
def isTop (level : Level) : Bool := !level.inQuotes && !level.inBraces

@[simp] theorem isTop_top : top.isTop = true := rfl

theorem isTop_iff {level : Level} : level.isTop = true ↔ level = top := by
  cases level with
  | mk q b => cases q <;> cases b <;> decide

theorem after_eq_self {c : Char} (h : c ≠ '"' ∧ c ≠ '{' ∧ c ≠ '}') (level : Level) :
    level.after c = level := by
  simp [after, h]

@[simp] theorem afterText_cons (level : Level) (c : Char) (s : List Char) :
    level.afterText (c :: s) = (level.after c).afterText s := rfl

@[simp] theorem afterText_append (level : Level) (s t : List Char) :
    level.afterText (s ++ t) = (level.afterText s).afterText t :=
  List.foldl_append

end Level

/-! ## The parts of an expression, located

Two passes find the parts of an expression as stretches of the text, so that an editor can point at
them. `blankOffset?` finds the blank behind the type name; `Segment.ofText` cuts the rest at its
commas and each segment at its first equals sign. Only separators outside quotes and braces
count. -/

/-- A stretch of the argument list between commas, with the stretch before its equals sign. -/
structure Segment where
  key : Option Span
  value : Span
  /-- A comma follows. -/
  closed : Bool
deriving DecidableEq

/-- The offset of the first blank outside quotes and braces; the text starts at offset `pos`. -/
def blankOffset? (level : Level) (pos : Nat) : List Char → Option Nat
  | [] => none
  | c :: s =>
    let level := level.after c
    if level.isTop && isBlank c then some pos else blankOffset? level (pos + c.utf8Size) s

namespace Segment

/-- Reads segments from offset `pos` on. The current segment has the given key, if its equals sign
has been read, and what follows starts at offset `start`. -/
def scan (level : Level) (start pos : Nat) (key : Option Span) : List Char → List Segment
  | [] => [⟨key, ⟨start, pos⟩, false⟩]
  | c :: s =>
    let level := level.after c
    let next := pos + c.utf8Size
    if level.isTop && c == '=' && key.isNone then scan level next next (some ⟨start, pos⟩) s
    else if level.isTop && c == ',' then
      ⟨key, ⟨start, pos⟩, true⟩ :: scan level next next none s
    else scan level start next key s

/-- The segments of an argument list. -/
def ofText (s : List Char) : List Segment := scan .top 0 0 none s

/-- The stretches that a segment points at. -/
def spans (segment : Segment) : List Span := segment.key.toList ++ [segment.value]

end Segment

/-! ## Expressions -/

namespace Expression

/-- The text without blanks around it and without one layer of braces, either of which may be
missing. -/
def body (s : List Char) : List Char :=
  let inner := trim s
  let inner := (dropStart? ['{'] inner).getD inner
  (dropEnd? ['}'] inner).getD inner

/-- The stretch of a text that a span marks, without blanks around it. -/
def textAt (s : List Char) (span : Span) : List Char := trim ((slice? s span).getD [])

/-- The span of the type name and that of the arguments, if a blank separates them. -/
def headSpans (inner : List Char) : Span × Option Span :=
  match blankOffset? .top 0 inner with
  | some offset => (⟨0, offset⟩, some ⟨offset, byteLength inner⟩)
  | none => (⟨0, byteLength inner⟩, none)

/-- The type name and the text of the arguments. -/
def splitHead (inner : List Char) : List Char × List Char :=
  let (head, rest) := headSpans inner
  (textAt inner head, (rest.map (textAt inner)).getD [])

/-- An entry as it is written: with a key or without one, with a value or without one. -/
structure Written where
  key : Option String
  value : Option String
deriving DecidableEq

/-- Reads a segment. The last one counts only if something is written in it; with a key and nothing
behind it, it has no value. -/
def readSegment? (arguments : List Char) (segment : Segment) : Option Written :=
  let value := textAt arguments segment.value
  let key := segment.key.map fun span => String.ofList (textAt arguments span)
  if segment.closed || !value.isEmpty then some ⟨key, some (String.ofList value)⟩
  else key.map fun name => ⟨some name, none⟩

/-- The key of a written entry. The key of the type name cannot be written; it is a name here. -/
def sourceKey (name : String) : Key :=
  match Key.read name with
  | .typeName => .named name
  | key => key

/-- Enters a written entry. -/
def enter (e : Expression) (written : Written) : Expression :=
  match written.key with
  | none => e.push written.value
  | some name => e.insert (sourceKey name) written.value

/-- Reads an expression. -/
def parse (text : String) : Expression :=
  let (head, arguments) := splitHead (body text.toList)
  ((Segment.ofText arguments).filterMap (readSegment? arguments)).foldl enter
    (ofTypeName (String.ofList head))

/-- The text is written as an expression: it starts with a brace, and not with the pair of braces
that marks a literal text. -/
def isMarkup (text : String) : Bool :=
  match trimStart text.toList with
  | '{' :: '}' :: _ => false
  | '{' :: _ => true
  | _ => false

/-! ## Laws -/

theorem sourceKey_ne_typeName (name : String) : sourceKey name ≠ .typeName := by
  unfold sourceKey
  split
  · simp
  · assumption

@[simp] theorem typeName_enter (e : Expression) (written : Written) :
    (e.enter written).typeName = e.typeName := by
  unfold enter
  split
  · exact typeName_push ..
  · exact typeName_insert_of_ne (sourceKey_ne_typeName _) ..

theorem typeName_foldl_enter (entries : List Written) (e : Expression) :
    (entries.foldl enter e).typeName = e.typeName := by
  induction entries generalizing e with
  | nil => rfl
  | cons w ws ih => rw [List.foldl_cons, ih, typeName_enter]

theorem typeName_parse (text : String) :
    (parse text).typeName = String.ofList (splitHead (body text.toList)).1 := by
  rw [parse, typeName_foldl_enter, typeName_ofTypeName]

end Expression

end MarkupBinding
