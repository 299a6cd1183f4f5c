import Formula.Proofs.Number.Difference
import Formula.Proofs.Number.Rounding

/-!
# Fractions

The fraction of a float is what is left of it without its whole part. Just the whole numbers have none
(`fraction_beq_zero`), which neither an infinity nor a float that is no number is.
-/

open Float.Model Float.Model.UnpackedFloat

namespace Formula.Number

/-- A float without its fraction: the whole number that is nearest to it on the side of zero. -/
def truncated (x : Float) : Float :=
  match view x with
  | .finite negative units => ofRatio negative (units / Nat.pow 2 unitPower) 1
  | _ => x

/-- What is left of a float without its whole part. -/
def fraction (x : Float) : Float := x - truncated x

section Whole

variable {x : Float}

/-- The highest bit of a significand is carried into the exponent. -/
lemma unitsOfBits_significand {power significand : Nat} (least : 2 ^ 52 ≤ significand)
    (most : significand < 2 ^ 53) : unitsOfBits (power * 2 ^ 52 + significand) = significand * 2 ^ power := by
  have implicit : Nat.pow 2 fractionBits = 2 ^ 52 := rfl
  have exponent : (power * 2 ^ 52 + significand) / 2 ^ 52 = power + 1 := by omega
  have fraction : 2 ^ 52 + (power * 2 ^ 52 + significand) % 2 ^ 52 = significand := by omega
  rw [unitsOfBits, implicit, exponent, fraction, if_neg (Nat.succ_ne_zero power)]
  rfl

/-- Whole numbers that are narrow enough are floats. -/
lemma exists_unitsOfBits {n : Nat} (narrow : n < 2 ^ 53) :
    ∃ bits < infinityBits, unitsOfBits bits = n * Nat.pow 2 unitPower := by
  rcases Nat.eq_zero_or_pos n with rfl | pos
  · exact ⟨0, by decide, by rw [Nat.zero_mul]; rfl⟩
  · have low : 2 ^ n.log2 ≤ n := Nat.log2_self_le pos.ne'
    have high : n < 2 ^ (n.log2 + 1) := Nat.lt_log2_self
    have short : n.log2 < 53 := (Nat.log2_lt pos.ne').mpr narrow
    generalize n.log2 = k at low high short
    have least : 2 ^ 52 ≤ n * 2 ^ (52 - k) :=
      calc 2 ^ 52 = 2 ^ (k + (52 - k)) := by rw [Nat.add_sub_cancel' (Nat.le_of_lt_succ short)]
        _ = 2 ^ k * 2 ^ (52 - k) := Nat.pow_add ..
        _ ≤ n * 2 ^ (52 - k) := Nat.mul_le_mul_right _ low
    have most : n * 2 ^ (52 - k) < 2 ^ 53 :=
      calc n * 2 ^ (52 - k) < 2 ^ (k + 1) * 2 ^ (52 - k) :=
            Nat.mul_lt_mul_of_pos_right high (Nat.two_pow_pos _)
        _ = 2 ^ (k + 1 + (52 - k)) := (Nat.pow_add ..).symm
        _ = 2 ^ 53 := by rw [Nat.add_right_comm, Nat.add_sub_cancel' (Nat.le_of_lt_succ short)]
    have powers : 52 - k + (k + 1022) = unitPower := by
      unfold unitPower
      omega
    have infinity : infinityBits = 2047 * 2 ^ 52 := rfl
    refine ⟨(k + 1022) * 2 ^ 52 + n * 2 ^ (52 - k), by omega, ?_⟩
    rw [unitsOfBits_significand least most, Nat.pow_eq, Nat.mul_assoc, ← Nat.pow_add, powers]

/-- The units of the whole part of a float are those of a float. -/
lemma IsFinite.exists_whole (finite : IsFinite x) :
    ∃ bits < infinityBits, unitsOfBits bits =
      unitsOfBits (magnitudeBits x) / Nat.pow 2 unitPower * Nat.pow 2 unitPower := by
  by_cases whole : Nat.pow 2 unitPower ∣ unitsOfBits (magnitudeBits x)
  · exact ⟨magnitudeBits x, isFinite_iff.mp finite, (Nat.div_mul_cancel whole).symm⟩
  · -- the units of large floats are divisible
    refine exists_unitsOfBits ?_
    rcases finite.unpack_cases with ⟨none, -⟩ | ⟨m, e, -, -, narrow, units⟩
    · exact absurd (none ▸ Nat.dvd_zero _) whole
    · rw [Nat.pow_eq, units] at whole ⊢
      generalize unitPower = power at whole ⊢
      have small : e ≤ power := by
        by_contra large
        exact whole (Nat.dvd_mul_left_of_dvd (Nat.pow_dvd_pow 2 (Nat.le_of_not_le large)) m)
      have shrunk : m * 2 ^ e ≤ 2 ^ power * m := by
        rw [Nat.mul_comm]
        exact Nat.mul_le_mul_right m (Nat.pow_le_pow_right Nat.two_pos small)
      exact (Nat.div_le_of_le_mul shrunk).trans_lt narrow

/-- What is not finite is no whole number. -/
lemma isWhole_eq_false (other : ¬ IsFinite x) : isWhole x = false := by
  unfold isWhole
  split
  · next found => exact absurd ⟨_, _, found⟩ other
  · rfl

/-- What is not finite has no fraction to lose. -/
lemma truncated_of_not_finite (other : ¬ IsFinite x) : truncated x = x := by
  unfold truncated
  split
  · next found => exact absurd ⟨_, _, found⟩ other
  · rfl

/-- A float has no fraction just if it is a whole number. -/
lemma fraction_beq_zero (x : Float) : (fraction x == 0) = isWhole x := by
  by_cases finite : IsFinite x
  · obtain ⟨bits, below, units⟩ := finite.exists_whole
    have nearest : nearestBits (unitsOfBits (magnitudeBits x) / Nat.pow 2 unitPower) 1 = bits :=
      nearestBits_of_exact below Nat.one_pos (by rw [units, Nat.mul_one])
    have whole : truncated x = ofMagnitude (isNegative x) bits := by
      rw [← nearest, truncated, finite.view_eq]
      rfl
    have magnitude : magnitudeBits (ofMagnitude (isNegative x) bits) = bits :=
      magnitudeBits_ofMagnitude below.le
    have difference := finite.sub_beq_zero (isFinite_iff.mpr (magnitude.trans_lt below))
      (isNegative_ofMagnitude below.le).symm
    rw [Bool.eq_iff_iff, fraction, whole, difference, magnitude, units, isWhole, finite.view_eq]
    change _ ↔ (_ == _) = true
    rw [beq_iff_eq, eq_comm, ← Nat.dvd_iff_div_mul_eq, Nat.dvd_iff_mod_eq_zero]
  · rw [isWhole_eq_false finite, ← Bool.not_eq_true, beq_zero_iff, fraction, truncated_of_not_finite finite,
      unpack_sub]
    have none : UnpackedFloat.sub .binary64 x.toModel.unpack x.toModel.unpack = .notANumber := by
      rcases unpack_of_not_finite finite with infinite | other
      · rw [infinite]
        cases isNegative x <;> rfl
      · rw [other]
        rfl
    rw [none]
    rintro ⟨s, zero⟩
    exact absurd (unpack_packedNaN.symm.trans zero) nofun

end Whole

end Formula.Number
