import Formula.Proofs.Number.Unpacked

/-!
# Differences of floats

A difference is rounded, but not to zero (`exists_normalize`, `IsRounded.unpack_pack`). So it is zero only if
there is no difference (`IsFinite.sub_beq_zero`).
-/

open Float.Model Float.Model.UnpackedFloat

namespace Formula.Number

/-- A significand that a float may have, at a power of two that a float may have or beyond. -/
structure IsRounded (m : Nat) (e : Int) : Prop where
  pos : 0 < m
  narrow : m < 2 ^ 53
  least : -1074 ≤ e

section Rounding

/-- A shift to the right divides the significand by a power of two. -/
lemma mantissa_shiftRight (em : ExtendedMantissa) (amount : Nat) :
    (em >>> amount).mantissa = em.mantissa / 2 ^ amount := by
  change (amount.repeat ExtendedMantissa.shiftRightOne em).mantissa = _
  induction amount with
  | zero => exact (Nat.div_one _).symm
  | succ amount ih =>
    rw [Nat.repeat, ExtendedMantissa.shiftRightOne, ih, Nat.div_div_eq_div_mul, Nat.pow_succ]

/-- Rounding takes nothing away from a significand that has been shifted. -/
lemma le_roundedMantissa (em : ExtendedMantissa) : em.mantissa ≤ em.roundedMantissa := by
  obtain ⟨m, round, sticky⟩ := em
  cases round <;> cases sticky <;>
    simp [ExtendedMantissa.roundedMantissa, ExtendedMantissa.accuracy, Accuracy.roundToNearestEven]

/-- The exponent of a rounded number leaves 53 bits, and is not below that of the units. -/
lemma targetExponent_eq (total : Int) : Format.binary64.targetExponent total = max (total - 53) (-1074) := rfl

/-- A significand is shifted until it is narrow enough, and no further. -/
lemma isRounded_shiftToTargetExponent {m : Nat} {e : Int} (pos : 0 < m) (least : -1074 ≤ e) :
    let shifted := shiftToTargetExponent .binary64 m e .exact
    IsRounded shifted.1.mantissa shifted.2 := by
  have low := Nat.log2_self_le pos.ne'
  have high := Nat.lt_log2_self (n := m)
  have amount : (max ((m.log2 : Int) + 1 + e - 53) (-1074) - e).toNat = m.log2 - 52 := by omega
  simp only [shiftToTargetExponent, shiftToExponent, targetExponent_eq, totalExponent, amount]
  rw [mantissa_shiftRight]
  change IsRounded (m / 2 ^ (m.log2 - 52)) _
  refine ⟨?_, ?_, by omega⟩
  · exact Nat.div_pos ((Nat.pow_le_pow_right Nat.two_pos (Nat.sub_le _ _)).trans low) (Nat.two_pow_pos _)
  · rw [Nat.div_lt_iff_lt_mul (Nat.two_pow_pos _), ← Nat.pow_add]
    exact high.trans_le (Nat.pow_le_pow_right Nat.two_pos (by omega))

/-- A positive significand that has lost no bit is rounded to one that can be packed. -/
lemma exists_roundWithAccuracy (s : Sign) {m : Nat} {e : Int} (pos : 0 < m) (least : -1074 ≤ e) :
    ∃ m' e' pos', roundWithAccuracy .binary64 s m e .exact = .finite s m' e' pos' ∧ IsRounded m' e' := by
  have first := isRounded_shiftToTargetExponent pos least
  have second := isRounded_shiftToTargetExponent (first.pos.trans_le (le_roundedMantissa _)) first.least
  exact ⟨_, _, second.pos, dif_neg second.pos.ne', second⟩

/-- A positive significand is rounded to one that can be packed. -/
lemma exists_round (s : Sign) {m : Nat} {e : Int} (pos : 0 < m) (least : -1074 ≤ e) :
    ∃ m' e' pos', round .binary64 s m e = .finite s m' e' pos' ∧ IsRounded m' e' := by
  have target := targetExponent_eq (totalExponent m e)
  refine exists_roundWithAccuracy s ?_ ?_
  · rw [Nat.shiftLeft_eq]
    exact Nat.mul_pos pos (Nat.two_pow_pos _)
  · omega

/-- A number that is not zero is not rounded to zero. -/
lemma exists_normalize {n : Int} (nonzero : n ≠ 0) {e : Int} (least : -1074 ≤ e) (zero : Sign) :
    ∃ s m e' pos, UnpackedFloat.normalize .binary64 n e zero = .finite s m e' pos ∧ IsRounded m e' := by
  unfold UnpackedFloat.normalize
  split
  · next negative =>
    exact ⟨_, exists_round _ (by rw [Int.compare_eq_lt] at negative; omega) least⟩
  · next same => exact absurd (Int.compare_eq_eq.mp same) nonzero
  · next positive =>
    exact ⟨_, exists_round _ (by rw [Int.compare_eq_gt] at positive; omega) least⟩

/-- What is packed is no zero, even if it is too large for a float. -/
lemma IsRounded.unpack_pack {m : Nat} {e : Int} (h : IsRounded m e) (s : Sign) :
    ¬∃ zero, (Float.Model.pack (.finite s m e h.pos)).unpack = .zero zero := by
  rintro ⟨zero, same⟩
  have packed : UnpackedFloat.pack .binary64 (.finite s m e h.pos) = packedZero .binary64 zero :=
    (unpack_eq_zero_iff_of_valid valid_pack).mp same
  have exponent := congrArg (fun b => (unpackExponent b).toNat) packed
  have fraction := congrArg (fun b => (unpackMantissa b).toNat) packed
  obtain ⟨pos, narrow, least⟩ := h
  have bias : (Format.binary64.exponentBias : Int) = 1023 := rfl
  simp only [UnpackedFloat.pack, packedZero, packedInfinity] at exponent fraction
  split at exponent
  · rw [unpackExponent_packComponents, unpackExponent_packComponents] at exponent
    exact absurd exponent (by decide)
  · next finite =>
    split at exponent
    · rw [unpackExponent_packComponents, unpackExponent_packComponents, BitVec.toNat_ofNat] at exponent
      change _ = 0 at exponent
      omega
    · next subnormal =>
      rw [if_neg finite, if_neg subnormal, unpackMantissa_packComponents, unpackMantissa_packComponents,
        BitVec.toNat_ofNat] at fraction
      change m % 2 ^ 52 = 0 at fraction
      change m.log2 + 1 ≠ 53 at subnormal
      have log : m.log2 < 53 := (Nat.log2_lt pos.ne').mpr narrow
      have short : m < 2 ^ 52 := (Nat.log2_lt pos.ne').mp (by omega)
      omega

end Rounding

section Difference

variable {x y : Float}

/-- The floats that equal zero are the two zeros. -/
lemma beq_zero_iff : (x == 0) = true ↔ ∃ s, x.toModel.unpack = .zero s := by
  change x.toModel.unpack.beq (.zero .positive) = true ↔ _
  rw [beq_iff_ne_notANumber_and_eq]
  constructor
  · rintro ⟨-, -, same | ⟨same, -⟩ | ⟨same, -⟩⟩ <;> exact ⟨_, same⟩
  · rintro ⟨_ | _, same⟩ <;> simp [same]

/-- A difference is that of the floats taken apart, packed again. -/
lemma unpack_sub : (x - y).toModel.unpack =
    (Float.Model.pack (UnpackedFloat.sub .binary64 x.toModel.unpack y.toModel.unpack)).unpack := rfl

/-- A zero is packed and taken apart again. -/
lemma unpack_pack_zero (s : Sign) : (Float.Model.pack (.zero s)).unpack = .zero s := unpack_packedZero

/-- A whole number of units is packed as a zero only if it is zero. -/
lemma unpack_normalize (n : Int) {e : Int} (least : -1074 ≤ e) (zero : Sign) :
    (∃ s, (Float.Model.pack (UnpackedFloat.normalize .binary64 n e zero)).unpack = .zero s) ↔ n = 0 := by
  by_cases none : n = 0
  · refine iff_of_true ?_ none
    rw [none]
    exact ⟨zero, unpack_pack_zero zero⟩
  · refine iff_of_false ?_ none
    obtain ⟨s, m, e, pos, normalized, rounded⟩ := exists_normalize none least zero
    rw [normalized]
    exact rounded.unpack_pack s

/-- Two significands of one sign cancel out if they are equal. -/
lemma apply_sub_eq_zero (s : Sign) (m m' : Nat) : s.apply m - s.apply m' = 0 ↔ m = m' := by
  cases s <;> simp only [Sign.apply] <;> omega

/-- Finite floats are subtracted at the smaller of their powers of two. -/
lemma sub_finite (s : Sign) {m m' e e' : Nat} (pos : 0 < m) (pos' : 0 < m') :
    UnpackedFloat.sub .binary64 (.finite s m (e - 1074) pos) (.finite s m' (e' - 1074) pos') =
      UnpackedFloat.normalize .binary64
        (s.apply (m * 2 ^ (e - min e e') : Nat) - s.apply (m' * 2 ^ (e' - min e e') : Nat))
        ((min e e' : Nat) - 1074) .positive := by
  have least : min ((e : Int) - 1074) ((e' : Int) - 1074) = (min e e' : Nat) - 1074 := by omega
  have amount : ((e : Int) - 1074 - ((min e e' : Nat) - 1074)).toNat = e - min e e' := by omega
  have amount' : ((e' : Int) - 1074 - ((min e e' : Nat) - 1074)).toNat = e' - min e e' := by omega
  simp only [UnpackedFloat.sub, decreaseExponent, least, amount, amount', Nat.shiftLeft_eq]

/-- The difference of two floats with one sign is zero only if they have the same units. -/
lemma IsFinite.sub_beq_zero (hx : IsFinite x) (hy : IsFinite y) (sign : isNegative x = isNegative y) :
    (x - y == 0) = true ↔ unitsOfBits (magnitudeBits x) = unitsOfBits (magnitudeBits y) := by
  rw [beq_zero_iff, unpack_sub]
  rcases hx.unpack_cases with ⟨none, unpack⟩ | ⟨m, e, pos, unpack, narrow, units⟩ <;>
  rcases hy.unpack_cases with ⟨none', unpack'⟩ | ⟨m', e', pos', unpack', narrow', units'⟩ <;>
  rw [unpack, unpack']
  · rw [none, none', UnpackedFloat.sub]
    refine iff_of_true ?_ rfl
    split <;> exact ⟨_, unpack_pack_zero _⟩
  · have rounded : IsRounded m' (e' - 1074) := ⟨pos', narrow', by omega⟩
    rw [none, units']
    exact iff_of_false (rounded.unpack_pack _) (Nat.mul_pos pos' (Nat.two_pow_pos e')).ne
  · have rounded : IsRounded m (e - 1074) := ⟨pos, narrow, by omega⟩
    rw [none', units]
    exact iff_of_false (rounded.unpack_pack _) (Nat.mul_pos pos (Nat.two_pow_pos e)).ne'
  · have scaled (m e k : Nat) (le : k ≤ e) : m * 2 ^ e = m * 2 ^ (e - k) * 2 ^ k := by
      rw [Nat.mul_assoc, ← Nat.pow_add, Nat.sub_add_cancel le]
    rw [sign, sub_finite, unpack_normalize _ (by omega), apply_sub_eq_zero, units, units',
      scaled m e _ (Nat.min_le_left e e'), scaled m' e' _ (Nat.min_le_right e e')]
    exact (Nat.mul_right_cancel_iff (Nat.two_pow_pos _)).symm

end Difference

end Formula.Number
