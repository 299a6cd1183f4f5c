/-!
# Binary floating-point numbers as exact fractions

Every finite 64-bit float is a whole number of units of `2 ^ -1074`, with a sign. `view` takes a
float apart into that form, and `ofRatio` goes back: it rounds a fraction to the nearest float, a
half going to the even neighbour. Both work on the bit pattern, where the magnitudes of the finite
floats are the numbers below `infinityBits` in increasing order.
-/

namespace Formula.Number

/-- Finite floats are multiples of `2 ^ -unitPower`. -/
def unitPower : Nat := 1074

/-- The width of the stored part of a significand. -/
def fractionBits : Nat := 52

/-- The magnitude bits of infinity; those above it encode no number. -/
def infinityBits : Nat := 2047 * Nat.pow 2 fractionBits

/-- The weight of the sign bit. -/
def signWeight : Nat := Nat.pow 2 63

/-- What a float stands for. -/
inductive View where
  | notANumber
  | infinite (negative : Bool)
  /-- The number `units * 2 ^ -1074`, negated if `negative`; both zeros have no units. -/
  | finite (negative : Bool) (units : Nat)
deriving DecidableEq

/-- The units of the finite float whose magnitude bits are `bits`. -/
def unitsOfBits (bits : Nat) : Nat :=
  let implicit := Nat.pow 2 fractionBits
  let power := bits / implicit
  let fraction := bits % implicit
  if power = 0 then fraction else (implicit + fraction) * Nat.pow 2 (power - 1)

/-- The bits of a float without its sign. -/
def magnitudeBits (x : Float) : Nat := x.toBits.toNat % signWeight

/-- Tells whether the sign bit of a float is set, as it is for `-0`. -/
def isNegative (x : Float) : Bool := signWeight ≤ x.toBits.toNat

def view (x : Float) : View :=
  let bits := magnitudeBits x
  if bits < infinityBits then .finite (isNegative x) (unitsOfBits bits)
  else if bits = infinityBits then .infinite (isNegative x)
  else .notANumber

/-- The quotient rounded to the nearest whole number, a half going to the even neighbour. -/
def roundHalfEven (num den : Nat) : Nat :=
  let quotient := num / den
  let twice := 2 * (num % den)
  if twice < den then quotient
  else if den < twice then quotient + 1
  else quotient + quotient % 2

/-- The magnitude bits of the float nearest to `num / den`. A significand rounded up to the next
power of two carries into the exponent bits, which is the right neighbour. -/
def nearestBits (num den : Nat) : Nat :=
  let scaled := num * Nat.pow 2 unitPower
  let shift := (scaled / den).log2 + 1 - (fractionBits + 1)
  min infinityBits
    (shift * Nat.pow 2 fractionBits + roundHalfEven scaled (den * Nat.pow 2 shift))

/-- The float with these magnitude bits and this sign. -/
def ofMagnitude (negative : Bool) (bits : Nat) : Float :=
  Float.ofBits (UInt64.ofNat (if negative then signWeight + bits else bits))

/-- The float nearest to `num / den`, negated if `negative`; infinite beyond the largest float. -/
def ofRatio (negative : Bool) (num den : Nat) : Float :=
  ofMagnitude negative (nearestBits num den)

/-- The float nearest to a whole number. -/
def ofInt (n : Int) : Float := ofRatio (n < 0) n.natAbs 1

/-- Tells whether a float is a whole number, which no infinity is. -/
def isWhole (x : Float) : Bool :=
  match view x with
  | .finite _ units => units % Nat.pow 2 unitPower == 0
  | _ => false

end Formula.Number
