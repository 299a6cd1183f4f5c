import Formula.Number.Decimal

/-!
# Numerals

How numbers are read and written. A numeral is an optional sign, digits with an optional point, and
an optional exponent; `read?` accepts a whole text only. A `Format` fixes the decisions of a way of
writing: where positional notation ends, whether a whole number keeps a fraction, and how ties go.
-/

namespace Formula.Number

namespace Numeral

/-- Reads an optional sign; the first part tells whether it was a minus. -/
def sign : List Char → Bool × List Char
  | '-' :: s => (true, s)
  | '+' :: s => (false, s)
  | s => (false, s)

/-- The digits a text begins with. -/
def digits (s : List Char) : List Char := s.takeWhile Char.isDigit

/-- What follows the digits a text begins with. -/
def afterDigits (s : List Char) : List Char := s.dropWhile Char.isDigit

/-- The number a digit string stands for. -/
def value (s : List Char) : Nat := Nat.ofDigitChars 10 s 0

/-- The digits before and after the point, and what follows them. -/
def significand (s : List Char) : List Char × List Char × List Char :=
  match afterDigits s with
  | '.' :: r => (digits s, digits r, afterDigits r)
  | r => (digits s, [], r)

/-- Reads an exponent that ends the text; no exponent counts as zero. -/
def exponent? : List Char → Option Int
  | [] => some 0
  | mark :: s =>
    let (negative, r) := sign s
    if (mark = 'e' ∨ mark = 'E') ∧ r ≠ [] ∧ afterDigits r = [] then
      some (if negative then -(value r : Int) else value r)
    else
      none

/-- Reads a text that is a numeral from end to end. -/
def read? (s : List Char) : Option Decimal :=
  let (negative, s) := sign s
  let (whole, fraction, r) := significand s
  if whole = [] ∧ fraction = [] then none
  else
    (exponent? r).map fun e =>
      ⟨negative, value (whole ++ fraction), e - fraction.length⟩

end Numeral

/-- The number that a text stands for, if the whole of it is a numeral. -/
def parse? (text : String) : Option Float := (Numeral.read? text.toList).map Decimal.toFloat

/-- The float that a numeral stands for, unless it is too large for one. -/
def parseFinite? (s : List Char) : Option Float := (Numeral.read? s).bind Decimal.toFinite?

/-- A decimal in scientific form: its digits, the last of them not zero unless all are, and the
power of ten of the first. -/
structure Scientific where
  digits : List Char
  leading : Int

/-- Moves zeros at the end of the digits into the power of ten. -/
def Scientific.ofDecimal (digits : Nat) (exponent : Int) : Scientific :=
  let all := Nat.toDigits 10 digits
  let kept := (all.reverse.dropWhile (· == '0')).reverse
  if kept = [] then ⟨['0'], 0⟩ else ⟨kept, exponent + all.length - 1⟩

/-- A way of writing numbers. -/
structure Format where
  /-- Which of two equally near shortest digit strings is written. -/
  tie : Tie
  /-- Whether a number whose first digit has this power of ten is written without an exponent. -/
  positional : Int → Bool
  /-- Whether a whole number written without an exponent is followed by `.0`. -/
  wholeFraction : Bool
  /-- Whether an exponent that is not negative has a plus sign. -/
  exponentPlus : Bool
  notANumber : String
  /-- The text of an infinity, negative or not. -/
  infinite : Bool → String

namespace Scientific

/-- Writes the digits around a point. -/
def positional (wholeFraction : Bool) (s : Scientific) : List Char :=
  if s.leading < 0 then
    '0' :: '.' :: List.replicate (-s.leading - 1).toNat '0' ++ s.digits
  else
    let places := s.leading.toNat + 1
    let fraction := s.digits.drop places
    let whole := s.digits.take places ++ List.replicate (places - s.digits.length) '0'
    if fraction ≠ [] then whole ++ '.' :: fraction
    else if wholeFraction then whole ++ ['.', '0']
    else whole

/-- Writes the first digit, the others after a point, and the power of ten of the first. -/
def exponential (exponentPlus : Bool) (s : Scientific) : List Char :=
  let rest := s.digits.drop 1
  let mantissa := s.digits.take 1 ++ (if rest = [] then [] else '.' :: rest)
  let mark := if s.leading < 0 then ['e', '-'] else if exponentPlus then ['e', '+'] else ['e']
  mantissa ++ mark ++ Nat.toDigits 10 s.leading.natAbs

end Scientific

def Format.magnitude (f : Format) (bits : Nat) : List Char :=
  let (digits, exponent) := shortest f.tie bits
  let s := Scientific.ofDecimal digits exponent
  if f.positional s.leading then s.positional f.wholeFraction else s.exponential f.exponentPlus

def Format.write (f : Format) (x : Float) : String :=
  match view x with
  | .notANumber => f.notANumber
  | .infinite negative => f.infinite negative
  | .finite negative _ =>
    let text := f.magnitude (magnitudeBits x)
    String.ofList (if negative then '-' :: text else text)

/-- How results are shown: never an exponent, and whole numbers without a fraction. -/
def Format.plain : Format where
  tie := .up
  positional := fun _ => true
  wholeFraction := false
  exponentPlus := false
  notANumber := "NaN"
  infinite := fun negative => if negative then "-inf" else "inf"

/-- How numbers are shown inside a structure: an exponent from `1e16` on and below `1e-4`, and a
fraction on every number without one. -/
def Format.inspect : Format where
  tie := .up
  positional := fun leading => -4 ≤ leading ∧ leading ≤ 15
  wholeFraction := true
  exponentPlus := false
  notANumber := "NaN"
  infinite := fun negative => if negative then "-inf" else "inf"

/-- How numbers are written in JSON, which has no text for the numbers that are not finite. -/
def Format.json : Format where
  tie := .toEven
  positional := fun leading => -5 ≤ leading ∧ leading ≤ 15
  wholeFraction := true
  exponentPlus := true
  notANumber := "null"
  infinite := fun _ => "null"

end Formula.Number
