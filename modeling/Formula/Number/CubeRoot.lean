import Formula.Number.Binary

/-!
# Cube roots

The real cube root of a float, rounded to nearest. The whole cube root of a scaled significand gives
at least sixty bits, and half a step is added when the root is not exact: that decides the rounding,
because no float and no midpoint of two floats lies strictly between.
-/

namespace Formula.Number

/-- The largest `r` with `r ^ 3 ≤ n` among `r₀` and the numbers that exceed it by less than
`2 ^ bits`, where `r₀` itself is such a number; one bit is settled at a time, the highest first. -/
def cubeRootBelow (n : Nat) : Nat → Nat → Nat
  | 0, r₀ => r₀
  | bits + 1, r₀ =>
    let r := r₀ + Nat.pow 2 bits
    cubeRootBelow n bits (if r * r * r ≤ n then r else r₀)

/-- The whole part of the cube root. -/
def wholeCubeRoot (n : Nat) : Nat := cubeRootBelow n (n.log2 / 3 + 1) 0

/-- The extra bits kept below the unit of the root. -/
def cubeRootGuard : Nat := 60

/-- The cube root of a float, which keeps the sign and every number that is not finite. -/
def cubeRoot (x : Float) : Float :=
  match view x with
  | .finite negative units =>
    let scaled := units * Nat.pow 2 (3 * cubeRootGuard)
    let root := wholeCubeRoot scaled
    let doubled := 2 * root + (if root * root * root = scaled then 0 else 1)
    ofRatio negative doubled (Nat.pow 2 (unitPower / 3 + cubeRootGuard + 1))
  | _ => x

end Formula.Number
