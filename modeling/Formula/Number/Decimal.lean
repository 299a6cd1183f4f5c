import Formula.Number.Binary

/-!
# Decimal numbers

A decimal is a signed whole number times a power of ten. `Decimal.toFloat` gives the nearest float.
`shortest` goes the other way: it gives the fewest digits that read back as the same float and, of
those, the nearest ones.
-/

namespace Formula.Number

/-- The number `digits * 10 ^ exponent`, negated if `negative`. -/
structure Decimal where
  negative : Bool
  digits : Nat
  exponent : Int
deriving DecidableEq

/-- The number of digits of a whole number. -/
def digitCount (n : Nat) : Nat := (Nat.toDigits 10 n).length

/-- The magnitude bits of the float nearest to `digits * 10 ^ exponent`. Numbers of `10 ^ 310` and
more are infinite and numbers below `10 ^ -330` are zero, so that no huge power is computed. -/
def decimalBits (digits : Nat) (exponent : Int) : Nat :=
  let top := (digitCount digits : Int) + exponent
  if digits = 0 ∨ top < -330 then 0
  else if 310 < top then infinityBits
  else if 0 ≤ exponent then nearestBits (digits * Nat.pow 10 exponent.toNat) 1
  else nearestBits digits (Nat.pow 10 (-exponent).toNat)

/-- The float nearest to a decimal. -/
def Decimal.toFloat (d : Decimal) : Float :=
  ofMagnitude d.negative (decimalBits d.digits d.exponent)

/-- The float nearest to a decimal, unless that is infinite. -/
def Decimal.toFinite? (d : Decimal) : Option Float :=
  match view d.toFloat with
  | .finite .. => some d.toFloat
  | _ => none

/-- Which of two equally near digit strings is taken. -/
inductive Tie where
  | up
  | toEven
deriving DecidableEq

/-- Every finite float is this many times `10 ^ -1074`. -/
def exactDigits (units : Nat) : Nat := units * Nat.pow 5 unitPower

/-- The nearer of the neighbours `low` and `low + 1` of `total / step`. -/
def nearer (tie : Tie) (total step : Nat) : Nat :=
  let low := total / step
  let twice := 2 * (total % step)
  if twice < step then low
  else if step < twice then low + 1
  else
    match tie with
    | .up => low + 1
    | .toEven => low + low % 2

/-- The best `count`-digit decimal that reads back as the magnitude `bits`, where the float is
`total * 10 ^ -1074`: of its two neighbours with that many digits, the nearer one that does. -/
def atPrecision? (tie : Tie) (bits total count : Nat) : Option (Nat × Int) :=
  let dropped := digitCount total - count
  let step := Nat.pow 10 dropped
  let exponent : Int := dropped - unitPower
  let low := total / step
  let readsBack (digits : Nat) : Bool := decimalBits digits exponent == bits
  match readsBack low, readsBack (low + 1) with
  | true, true => some (nearer tie total step, exponent)
  | true, false => some (low, exponent)
  | false, true => some (low + 1, exponent)
  | false, false => none

/-- The digits and the exponent of the shortest decimal that reads back as the magnitude `bits`. Any
float has one of at most seventeen digits; its exact value stands in as the last resort. -/
def shortest (tie : Tie) (bits : Nat) : Nat × Int :=
  let total := exactDigits (unitsOfBits bits)
  ((List.range 17).findSome? fun n => atPrecision? tie bits total (n + 1)).getD
    (total, -unitPower)

end Formula.Number
