import Formula.Number.Numeral
import Mathlib.Algebra.Order.Ring.Nat
import Mathlib.Tactic.Lemma
import Mathlib.Tactic.Ring

/-!
# Rounding to the nearest float

The nearest float to a fraction depends on the fraction alone (`nearestBits_congr`), and a fraction that is a
float is rounded to that float (`nearestBits_of_exact`). So zeros may be moved between the digits of a
decimal and its power of ten (`decimalBits_mul_pow`), and the shortest digits of a float read back as it
(`decimalBits_shortest`).
-/

namespace Formula.Number

variable {num num' den den' : Nat}

/-- Powers of two are positive. -/
lemma two_pow_pos (n : Nat) : 0 < Nat.pow 2 n := Nat.two_pow_pos n

/-- A fraction may be expanded without a change of the nearest whole number. -/
lemma roundHalfEven_mul (num den : Nat) {c : Nat} (pos : 0 < c) :
    roundHalfEven (num * c) (den * c) = roundHalfEven num den := by
  have twice : 2 * (num % den * c) = 2 * (num % den) * c := (Nat.mul_assoc ..).symm
  simp only [roundHalfEven, Nat.mul_div_mul_right _ _ pos, Nat.mul_mod_mul_right, twice,
    Nat.mul_lt_mul_right pos]

/-- A whole number is rounded to itself. -/
lemma roundHalfEven_of_exact (n : Nat) (pos : 0 < den) : roundHalfEven (n * den) den = n := by
  simp [roundHalfEven, Nat.mul_div_cancel _ pos, pos]

/-- A fraction may be expanded without a change of the nearest float. -/
lemma nearestBits_mul (num den : Nat) {c : Nat} (pos : 0 < c) :
    nearestBits (num * c) (den * c) = nearestBits num den := by
  have scaled : num * c * Nat.pow 2 unitPower = num * Nat.pow 2 unitPower * c := Nat.mul_right_comm ..
  have shifted (n : Nat) : den * c * n = den * n * c := Nat.mul_right_comm ..
  simp only [nearestBits, scaled, shifted, Nat.mul_div_mul_right _ _ pos, roundHalfEven_mul _ _ pos]

/-- Equal fractions have the same nearest float. -/
lemma nearestBits_congr (same : num * den' = num' * den) (pos : 0 < den) (pos' : 0 < den') :
    nearestBits num den = nearestBits num' den' := by
  rw [← nearestBits_mul num den pos', ← nearestBits_mul num' den' pos, same, Nat.mul_comm den den']

/-- A whole number of units of which no bit is rounded away. -/
lemma nearestBits_of_shift {n shift : Nat}
    (shifted : (n * Nat.pow 2 shift).log2 + 1 - (fractionBits + 1) = shift) :
    nearestBits (n * Nat.pow 2 shift) (Nat.pow 2 unitPower) =
      min infinityBits (shift * Nat.pow 2 fractionBits + n) := by
  have whole : n * Nat.pow 2 shift * Nat.pow 2 unitPower / Nat.pow 2 unitPower = n * Nat.pow 2 shift :=
    Nat.mul_div_cancel _ (two_pow_pos _)
  have product : n * Nat.pow 2 shift * Nat.pow 2 unitPower =
      n * (Nat.pow 2 unitPower * Nat.pow 2 shift) := by
    rw [Nat.mul_assoc, Nat.mul_comm (Nat.pow 2 shift)]
  simp only [nearestBits, whole, shifted]
  rw [product, roundHalfEven_of_exact n (Nat.mul_pos (two_pow_pos _) (two_pow_pos _))]

/-- The logarithm of a number below a power of two is no more than the exponent. -/
lemma log2_le {n k : Nat} (h : n < Nat.pow 2 k) : n.log2 ≤ k := by
  by_cases zero : n = 0
  · rw [zero]
    exact Nat.zero_le k
  · exact ((Nat.log2_lt zero).mpr h).le

/-- A power of two adds to the logarithm. -/
lemma log2_mul_pow {n k power : Nat} (least : Nat.pow 2 k ≤ n) (most : n < 2 * Nat.pow 2 k) :
    (n * Nat.pow 2 power).log2 = k + power := by
  have low : 2 ^ (k + power) = Nat.pow 2 k * Nat.pow 2 power := Nat.pow_add ..
  have high : 2 ^ (k + power + 1) = 2 * Nat.pow 2 k * Nat.pow 2 power := by
    rw [Nat.pow_succ, low, Nat.mul_comm, Nat.mul_assoc]
  have nonzero : n * Nat.pow 2 power ≠ 0 :=
    (Nat.mul_pos ((two_pow_pos k).trans_le least) (two_pow_pos power)).ne'
  rw [Nat.log2_eq_iff nonzero, low, high]
  exact ⟨Nat.mul_le_mul_right _ least, Nat.mul_lt_mul_of_pos_right most (two_pow_pos power)⟩

/-- The units of a finite float are rounded to its own bits. -/
lemma nearestBits_unitsOfBits {bits : Nat} (finite : bits < infinityBits) :
    nearestBits (unitsOfBits bits) (Nat.pow 2 unitPower) = bits := by
  have parts := Nat.div_add_mod bits (Nat.pow 2 fractionBits)
  have fraction_lt : bits % Nat.pow 2 fractionBits < Nat.pow 2 fractionBits :=
    Nat.mod_lt _ (two_pow_pos _)
  unfold unitsOfBits
  dsimp only
  split
  · next subnormal =>
    -- the exponent bits are zero, and so is the shift
    rw [subnormal, Nat.mul_zero, Nat.zero_add] at parts
    have unshifted : nearestBits (bits % Nat.pow 2 fractionBits * Nat.pow 2 0) (Nat.pow 2 unitPower) =
        min infinityBits (0 * Nat.pow 2 fractionBits + bits % Nat.pow 2 fractionBits) :=
      nearestBits_of_shift
        (Nat.sub_eq_zero_of_le (Nat.succ_le_succ (log2_le (by simpa using fraction_lt))))
    have one : Nat.pow 2 0 = 1 := rfl
    rw [one, Nat.mul_one, Nat.zero_mul, Nat.zero_add, parts] at unshifted
    rw [parts, unshifted, Nat.min_eq_right finite.le]
  · next normal =>
    -- the significand carries its highest bit into the exponent bits
    obtain ⟨power, exponent⟩ := Nat.exists_eq_succ_of_ne_zero normal
    have log : ((Nat.pow 2 fractionBits + bits % Nat.pow 2 fractionBits) * Nat.pow 2 power).log2 =
        fractionBits + power := log2_mul_pow (Nat.le_add_right _ _) (by omega)
    have carried : power * Nat.pow 2 fractionBits +
        (Nat.pow 2 fractionBits + bits % Nat.pow 2 fractionBits) = bits := by
      rw [← Nat.add_assoc, ← Nat.succ_mul, Nat.mul_comm, ← exponent, parts]
    rw [exponent, Nat.succ_sub_one, nearestBits_of_shift (by rw [log]; omega), carried,
      Nat.min_eq_right finite.le]

/-- A fraction that is a float is rounded to it. -/
lemma nearestBits_of_exact {bits : Nat} (finite : bits < infinityBits) (pos : 0 < den)
    (exact : num * Nat.pow 2 unitPower = unitsOfBits bits * den) : nearestBits num den = bits :=
  (nearestBits_congr exact pos (two_pow_pos _)).trans (nearestBits_unitsOfBits finite)

/-- The nearest float is infinity at most. -/
lemma nearestBits_le (num den : Nat) : nearestBits num den ≤ infinityBits := Nat.min_le_left _ _

/-- The float nearest to zero is zero. -/
lemma nearestBits_zero (pos : 0 < den) : nearestBits 0 den = 0 := by
  have rounded (n : Nat) : roundHalfEven 0 (den * Nat.pow 2 n) = 0 := by
    have exact := roundHalfEven_of_exact 0 (Nat.mul_pos pos (two_pow_pos n))
    rwa [Nat.zero_mul] at exact
  simp only [nearestBits, Nat.zero_mul, Nat.zero_div, rounded]
  rfl

section Decimals

variable {n bits : Nat}

/-- The numbers with a number of digits at most are those below a power of ten. -/
lemma digitCount_le_iff {k : Nat} (pos : 0 < k) : digitCount n ≤ k ↔ n < 10 ^ k :=
  Nat.length_toDigits_le_iff (by decide) pos

/-- Multiplied by a power of ten, a number has as many more digits as the exponent says. -/
lemma digitCount_mul_pow (pos : 0 < n) (k : Nat) : digitCount (n * 10 ^ k) = digitCount n + k := by
  induction k with
  | zero => rw [Nat.pow_zero, Nat.mul_one, Nat.add_zero]
  | succ k ih =>
    have longer := Nat.toDigits_append_toDigits (b := 10) (d := 0) (by decide)
      (Nat.mul_pos pos (Nat.pow_pos (n := k) (by decide : 0 < 10))) (by decide)
    have power : n * 10 ^ (k + 1) = 10 * (n * 10 ^ k) := by ring
    rw [power, ← Nat.add_assoc, ← ih]
    exact (congrArg List.length longer.symm).trans List.length_append

/-- A decimal of ordinary size is rounded as the fraction that it is. -/
lemma decimalBits_eq (n : Nat) (exponent : Int) :
    decimalBits n exponent =
      if n = 0 ∨ (digitCount n : Int) + exponent < -330 then 0
      else if 310 < (digitCount n : Int) + exponent then infinityBits
      else nearestBits (n * 10 ^ exponent.toNat) (10 ^ (-exponent).toNat) := by
  simp only [decimalBits]
  congr 2
  split
  · next whole =>
    have no_den : (-exponent).toNat = 0 := by omega
    rw [no_den]
    rfl
  · next fractional =>
    have no_num : exponent.toNat = 0 := by omega
    rw [no_num, Nat.pow_zero, Nat.mul_one]
    rfl

/-- Zero is rounded to zero, whatever its power of ten is. -/
lemma decimalBits_zero (exponent : Int) : decimalBits 0 exponent = 0 := by
  rw [decimalBits_eq, if_pos (.inl rfl)]

/-- A decimal is rounded to infinity at most. -/
lemma decimalBits_le (exponent : Int) : decimalBits n exponent ≤ infinityBits := by
  rw [decimalBits_eq]
  split
  · exact Nat.zero_le _
  · split
    · exact le_rfl
    · exact nearestBits_le _ _

/-- Zeros at the end of the digits count as well in the power of ten. -/
lemma decimalBits_mul_pow (n k : Nat) (exponent : Int) :
    decimalBits (n * 10 ^ k) exponent = decimalBits n (exponent + k) := by
  rw [decimalBits_eq, decimalBits_eq]
  rcases Nat.eq_zero_or_pos n with rfl | pos
  · simp
  · have ten (k : Nat) : 0 < 10 ^ k := Nat.pow_pos (by decide)
    have top : ((digitCount (n * 10 ^ k) : Nat) : Int) + exponent = digitCount n + (exponent + k) := by
      rw [digitCount_mul_pow pos]
      push_cast
      ring
    have powers : k + exponent.toNat + (-(exponent + k)).toNat =
        (exponent + k).toNat + (-exponent).toNat := by omega
    have ratio : n * 10 ^ k * 10 ^ exponent.toNat * 10 ^ (-(exponent + k)).toNat =
        n * 10 ^ (exponent + k).toNat * 10 ^ (-exponent).toNat := by
      rw [Nat.mul_assoc n, ← Nat.pow_add, Nat.mul_assoc n, ← Nat.pow_add, Nat.mul_assoc n, ← Nat.pow_add,
        powers]
    have zero_iff : n * 10 ^ k = 0 ↔ n = 0 :=
      iff_of_false (Nat.mul_pos pos (ten k)).ne' pos.ne'
    rw [top, nearestBits_congr ratio (ten _) (ten _)]
    simp only [zero_iff]

/-- A decimal of ordinary size that is a float is rounded to it. -/
lemma decimalBits_of_exact {exponent : Int} (finite : bits < infinityBits)
    (ordinary : 0 < n → -330 ≤ digitCount n + exponent ∧ digitCount n + exponent ≤ 310)
    (exact : n * 10 ^ exponent.toNat * Nat.pow 2 unitPower =
      unitsOfBits bits * 10 ^ (-exponent).toNat) :
    decimalBits n exponent = bits := by
  have ten : 0 < 10 ^ (-exponent).toNat := Nat.pow_pos (by decide)
  have rounded := nearestBits_of_exact finite ten exact
  rw [decimalBits_eq]
  rcases Nat.eq_zero_or_pos n with rfl | pos
  · rw [Nat.zero_mul, nearestBits_zero ten] at rounded
    rw [if_pos (.inl rfl), rounded]
  · obtain ⟨low, high⟩ := ordinary pos
    rw [if_neg (by omega), if_neg (by omega), rounded]

/-- The first power of two that is no float any more, in units. -/
def unitsLimit : Nat := Nat.pow 2 (fractionBits + 2046)

/-- A finite float stays below the first power of two that is none. -/
lemma unitsOfBits_lt (finite : bits < infinityBits) : unitsOfBits bits < unitsLimit := by
  have exponent_lt : bits / Nat.pow 2 fractionBits < 2047 := by
    rw [Nat.div_lt_iff_lt_mul (two_pow_pos _)]
    exact finite
  have fraction_lt : bits % Nat.pow 2 fractionBits < Nat.pow 2 fractionBits :=
    Nat.mod_lt _ (two_pow_pos _)
  have limit (power top : Nat) (below : power < top) :
      2 * Nat.pow 2 fractionBits * Nat.pow 2 power ≤ Nat.pow 2 (fractionBits + top) := by
    have sum : 2 * Nat.pow 2 fractionBits * Nat.pow 2 power = 2 ^ (fractionBits + (power + 1)) := by
      simp only [Nat.pow_eq]
      ring
    rw [sum]
    exact Nat.pow_le_pow_right (by decide) (Nat.add_le_add_left below _)
  unfold unitsOfBits unitsLimit
  dsimp only
  split
  · refine (fraction_lt.trans_le ?_).trans_le (limit 0 2046 (by decide))
    have one : Nat.pow 2 0 = 1 := rfl
    rw [one]
    omega
  · refine lt_of_lt_of_le ?_ (limit (bits / Nat.pow 2 fractionBits - 1) 2046 (by omega))
    exact Nat.mul_lt_mul_of_pos_right (by omega) (two_pow_pos _)

/-- The exact digits of the smallest float are more than 743. -/
lemma pow_le_pow_five : 10 ^ 743 ≤ Nat.pow 5 unitPower := by decide +kernel

/-- The exact digits of a finite float are 1384 at most. -/
lemma unitsLimit_mul_le : unitsLimit * Nat.pow 5 unitPower ≤ 10 ^ 1384 := by decide +kernel

/-- A power of ten has more digits than its exponent says, and so has any greater number. -/
lemma lt_digitCount {k : Nat} (pos : 0 < k) (most : 10 ^ k ≤ n) : k < digitCount n :=
  not_le.mp fun few => absurd ((digitCount_le_iff pos).mp few) most.not_gt

/-- The exact digits of a float that is not zero are many, but not too many to be rounded. -/
lemma digitCount_exactDigits {units : Nat} (pos : 0 < units) (small : units < unitsLimit) :
    743 < digitCount (exactDigits units) ∧ digitCount (exactDigits units) ≤ 1384 := by
  have five (k : Nat) : 0 < Nat.pow 5 k := Nat.pow_pos (by decide)
  refine ⟨lt_digitCount (by decide) ?_, (digitCount_le_iff (by decide)).mpr ?_⟩
  · exact pow_le_pow_five.trans (Nat.le_mul_of_pos_left _ pos)
  · exact (Nat.mul_lt_mul_of_pos_right small (five _)).trans_le unitsLimit_mul_le

/-- The exact digits of a float read back as it. -/
lemma decimalBits_exactDigits (finite : bits < infinityBits) :
    decimalBits (exactDigits (unitsOfBits bits)) (-unitPower) = bits := by
  have ordinary {count : Nat} (least : 743 < count) (most : count ≤ 1384) :
      -330 ≤ (count : Int) + -unitPower ∧ (count : Int) + -unitPower ≤ 310 := by
    have power : (unitPower : Int) = 1074 := rfl
    omega
  refine decimalBits_of_exact finite (fun pos => ?_) ?_
  · obtain ⟨least, most⟩ :=
      digitCount_exactDigits (Nat.pos_of_mul_pos_right pos) (unitsOfBits_lt finite)
    exact ordinary least most
  · have whole : (-(unitPower : Int)).toNat = 0 := by omega
    have fractional : (-(-(unitPower : Int))).toNat = unitPower := by omega
    have ten (k : Nat) : 10 ^ k = Nat.pow 5 k * Nat.pow 2 k := Nat.mul_pow 5 2 k
    rw [whole, fractional, Nat.pow_zero, Nat.mul_one, exactDigits, ten, Nat.mul_assoc]

/-- The nearer neighbour is the one below or the one above. -/
lemma nearer_eq (tie : Tie) (total step : Nat) :
    nearer tie total step = total / step ∨ nearer tie total step = total / step + 1 := by
  unfold nearer
  dsimp only
  split
  · exact .inl rfl
  · split
    · exact .inr rfl
    · cases tie with
      | up => exact .inr rfl
      | toEven =>
        rcases Nat.mod_two_eq_zero_or_one (total / step) with even | odd
        · exact .inl (congrArg (total / step + ·) even)
        · exact .inr (congrArg (total / step + ·) odd)

/-- A decimal of some precision is taken only if it reads back. -/
lemma atPrecision?_readsBack {tie : Tie} {total count : Nat} {d : Nat × Int}
    (found : atPrecision? tie bits total count = some d) : decimalBits d.1 d.2 = bits := by
  unfold atPrecision? at found
  dsimp only at found
  split at found
  · next low high =>
    -- the nearer neighbour is one of the two
    cases found
    have neighbour := nearer_eq tie total (Nat.pow 10 (digitCount total - count))
    rcases neighbour with same | same <;> rw [same]
    · exact eq_of_beq low
    · exact eq_of_beq high
  · next low _ =>
    cases found
    exact eq_of_beq low
  · next _ high =>
    cases found
    exact eq_of_beq high
  · cases found

/-- The shortest digits of a float read back as it. -/
lemma decimalBits_shortest (tie : Tie) (finite : bits < infinityBits) :
    decimalBits (shortest tie bits).1 (shortest tie bits).2 = bits := by
  rw [shortest]
  have exact := decimalBits_exactDigits finite
  generalize exactDigits (unitsOfBits bits) = total at exact ⊢
  cases found : (List.range 17).findSome? fun n => atPrecision? tie bits total (n + 1) with
  | none => exact exact
  | some d =>
    obtain ⟨_, _, found⟩ := List.exists_of_findSome?_eq_some found
    exact atPrecision?_readsBack found

end Decimals

end Formula.Number
