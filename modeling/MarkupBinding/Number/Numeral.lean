/-!
# Numbers as text

Three notations are read: decimal numerals without a sign (`Decimal`), integers of a bounded range
(`Integer`), and decimals with a point and an exponent as the doubles nearest to them (`Double`).

Results:

* `isNumeral_write`, `value_write`: what is written is a numeral and has the value that was written.
-/
/-! ## Decimal numerals

A numeral is a non-empty run of the digits `0` to `9`, most significant first. Zeros in front are
read but never written. -/

namespace MarkupBinding.Decimal

/-- The text consists of digits and has at least one. -/
def isNumeral (s : List Char) : Bool := !s.isEmpty && s.all Char.isDigit

/-- The value of a numeral. -/
def value (s : List Char) : Nat := Nat.ofDigitChars 10 s 0

/-- The numeral of a number, without zeros in front. -/
def write (n : Nat) : List Char := Nat.toDigits 10 n

@[simp] theorem isNumeral_write (n : Nat) : isNumeral (write n) = true := by
  have digits : ∀ c ∈ write n, c.isDigit = true := fun c hc =>
    Nat.isDigit_of_mem_toDigits (by decide) (by decide) hc
  simp [isNumeral, write, Nat.toDigits_ne_nil] at digits ⊢
  exact digits

@[simp] theorem value_write (n : Nat) : value (write n) = n :=
  Nat.ofDigitChars_toDigits (by decide) (by decide)

end MarkupBinding.Decimal

/-! ## Integers of a bounded range

An optional sign and decimal digits. A minus sign is a sign only where negative values are possible.
The digits are taken from left to right, and the first thing that is wrong is reported: a character
that is no digit, or a digit with which the value leaves the range. -/

namespace MarkupBinding.Integer

open Decimal

/-- Why a text is no integer of the range. -/
inductive Error where
  | empty
  | invalidDigit
  | tooLarge
  | tooSmall
deriving DecidableEq

/-- The wording of an error. -/
def Error.message : Error → String
  | .empty => "cannot parse integer from empty string"
  | .invalidDigit => "invalid digit found in string"
  | .tooLarge => "number too large to fit in target type"
  | .tooSmall => "number too small to fit in target type"

/-- Reads digits behind a value that has been read already, up to a bound. -/
def readMagnitude (bound : Nat) (beyond : Error) : Nat → List Char → Except Error Nat
  | n, [] => .ok n
  | n, c :: s =>
    if c.isDigit then
      let n := 10 * n + (c.toNat - '0'.toNat)
      if n ≤ bound then readMagnitude bound beyond n s else .error beyond
    else .error .invalidDigit

/-- Reads an integer from `lo` up to `hi`. -/
def read (lo hi : Int) (s : List Char) : Except Error Int :=
  match s with
  | [] => .error .empty
  | ['+'] | ['-'] => .error .invalidDigit
  | '+' :: digits => Int.ofNat <$> readMagnitude hi.toNat .tooLarge 0 digits
  | c :: rest =>
    if c = '-' ∧ lo < 0 then
      (fun n => -Int.ofNat n) <$> readMagnitude (-lo).toNat .tooSmall 0 rest
    else Int.ofNat <$> readMagnitude hi.toNat .tooLarge 0 s

end MarkupBinding.Integer

/-! ## Doubles

A decimal half way between two doubles becomes the one whose last bit is zero. Written are an
optional sign, digits with at most one point among or around them, and an optional exponent;
infinity and not-a-number are written in letters of either case. The arithmetic is exact, so that
however many digits are written all of them count. -/

namespace MarkupBinding.Double

/-- Why a text is no number. -/
inductive Error where
  | empty
  | invalid
deriving DecidableEq

/-- The wording of an error. -/
def Error.message : Error → String
  | .empty => "cannot parse float from empty string"
  | .invalid => "invalid float literal"

/-- The integer nearest to a quotient, the even one of two that are equally near. -/
def roundHalfEven (num den : Nat) : Nat :=
  let q := num / den
  let r := num % den
  if 2 * r < den || (2 * r == den && q % 2 == 0) then q else q + 1

/-- `num / den` scaled by a power of two: the two sides of the quotient. -/
def scaled (num den : Nat) (exponent : Int) : Nat × Nat :=
  (num <<< (-exponent).toNat, den <<< exponent.toNat)

/-- The bits of the double nearest to the positive number `num / den`. The unit in the last place
is the power of two that leaves 53 bits before the point, but never below that of the smallest
doubles. -/
def nearestBits (num den : Nat) : Nat :=
  let guess : Int := (num.log2 : Int) - den.log2 - 52
  let (n, d) := scaled num den guess
  let unit : Int := max (if n < d <<< 52 then guess - 1 else guess) (-1074)
  let (n, d) := scaled num den unit
  min ((unit + 1074).toNat <<< 52 + roundHalfEven n d) 0x7ff0000000000000

/-- The bits of the double nearest to `digits · 10 ^ exponent`. Numbers of more than 310 digits
before the point, and those with more than 330 zeros behind it, are beyond the range of doubles. -/
def decimalBits (digits : Nat) (exponent : Int) : Nat :=
  let size : Int := (Decimal.write digits).length + exponent
  if digits = 0 then 0
  else if size > 310 then 0x7ff0000000000000
  else if size < -330 then 0
  else nearestBits (digits * Nat.pow 10 exponent.toNat) (Nat.pow 10 (-exponent).toNat)

/-- Where the exponent stands: none, or the digits behind `e` with their sign. The digits count only
until the exponent has passed 65535, which is far beyond the range. -/
def readExponent? : List Char → Option Int
  | [] => some 0
  | e :: s =>
    if e = 'e' ∨ e = 'E' then
      match s with
      | '-' :: digits => (magnitude? digits).map fun n => -Int.ofNat n
      | '+' :: digits => (magnitude? digits).map Int.ofNat
      | digits => (magnitude? digits).map Int.ofNat
    else none
where
  /-- The value of the digits of an exponent. -/
  magnitude? (s : List Char) : Option Nat :=
    if Decimal.isNumeral s then
      some (s.foldl (fun n c => if n < 0x10000 then 10 * n + (c.toNat - '0'.toNat) else n) 0)
    else none

/-- Reads digits, an optional point with further digits, and an exponent. -/
def readDecimal? (s : List Char) : Option Nat :=
  let whole := s.takeWhile Char.isDigit
  let (fraction, rest) :=
    match s.dropWhile Char.isDigit with
    | '.' :: t => (t.takeWhile Char.isDigit, t.dropWhile Char.isDigit)
    | t => ([], t)
  let digits := whole ++ fraction
  if digits.isEmpty then none
  else (readExponent? rest).map fun e => decimalBits (Decimal.value digits) (e - fraction.length)

/-- Reads a number without its sign: a decimal, or a name in letters of either case. -/
def readMagnitude? (s : List Char) : Option Nat :=
  let name := String.ofList (s.map Char.toLower)
  (readDecimal? s).or <|
    if name = "inf" ∨ name = "infinity" then some 0x7ff0000000000000
    else if name = "nan" then some 0x7ff8000000000000
    else none

/-- Reads a double. -/
def read (s : List Char) : Except Error Float :=
  match s with
  | [] => .error .empty
  | '-' :: rest => number 0x8000000000000000 rest
  | '+' :: rest => number 0 rest
  | _ => number 0 s
where
  /-- A number behind its sign, which is a bit. -/
  number (sign : Nat) (s : List Char) : Except Error Float :=
    match readMagnitude? s with
    | some bits => .ok (Float.ofBits (UInt64.ofNat (sign + bits)))
    | none => .error .invalid

end MarkupBinding.Double
