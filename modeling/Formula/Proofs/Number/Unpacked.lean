import Formula.Proofs.Number.Finite
import Mathlib.Tactic.Lemma

/-!
# Floats taken apart

Arithmetic takes floats apart into a sign, a significand and an exponent. They are those of the bits
(`unpack_eq`), and of the units that a finite float is counted in (`IsFinite.unpack_cases`).
-/

open Float.Model Float.Model.UnpackedFloat

namespace Formula.Number

def signOf (negative : Bool) : Sign := if negative then .negative else .positive

/-- The other sign is that of the other flag. -/
lemma neg_signOf (negative : Bool) : -signOf negative = signOf (!negative) := by
  cases negative <;> rfl

/-- What arithmetic takes the float with some magnitude bits for. -/
def unpacked (negative : Bool) (bits : Nat) : UnpackedFloat :=
  let exponent : Nat := bits / 2 ^ 52
  let fraction : Nat := bits % 2 ^ 52
  if exponent = 2047 then
    if fraction = 0 then .infinity (signOf negative) else .notANumber
  else if exponent = 0 then
    if some_fraction : fraction = 0 then .zero (signOf negative)
    else .finite (signOf negative) fraction (-1074) (Nat.pos_of_ne_zero some_fraction)
  else
    .finite (signOf negative) (2 ^ 52 + fraction) ((exponent : Int) - 1075)
      (Nat.add_pos_left (Nat.two_pow_pos 52) _)

section Fields

/-- The fraction is the lowest 52 bits. -/
lemma toNat_unpackMantissa (b : BitVec 64) : (@unpackMantissa .binary64 b).toNat = b.toNat % 2 ^ 52 := by
  rw [unpackMantissa_def, BitVec.extractLsb'_toNat, Nat.shiftRight_zero]

/-- The exponent is the eleven bits above the fraction. -/
lemma toNat_unpackExponent (b : BitVec 64) :
    (@unpackExponent .binary64 b).toNat = b.toNat / 2 ^ 52 % 2 ^ 11 := by
  rw [unpackExponent_def, BitVec.extractLsb'_toNat, Nat.shiftRight_eq_div_pow]

/-- The sign is the highest bit. -/
lemma toNat_unpackSign (b : BitVec 64) : (@unpackSign .binary64 b).toNat = b.toNat / 2 ^ 63 % 2 := by
  rw [unpackSign_def, BitVec.extractLsb'_toNat, Nat.shiftRight_eq_div_pow]
  rfl

/-- The sign of a float taken apart is the one of its bits. -/
lemma ofBitVec_unpackSign (x : Float) :
    Sign.ofBitVec (@unpackSign .binary64 x.toBits.toBitVec) = signOf (isNegative x) := by
  have field : (@unpackSign .binary64 x.toBits.toBitVec).toNat = x.toBits.toNat / 2 ^ 63 % 2 :=
    toNat_unpackSign _
  have below : x.toBits.toNat < 2 ^ 64 := x.toBits.toNat_lt
  have weight : signWeight = 2 ^ 63 := rfl
  unfold isNegative signOf Sign.ofBitVec
  simp only [← BitVec.toNat_inj, field, weight, decide_eq_true_eq]
  by_cases negative : 2 ^ 63 ≤ x.toBits.toNat
  · rw [if_pos negative, if_neg]
    change x.toBits.toNat / 2 ^ 63 % 2 ≠ 0
    omega
  · rw [if_neg negative, if_pos]
    change x.toBits.toNat / 2 ^ 63 % 2 = 0
    omega

end Fields

/-- Arithmetic takes a float for what its sign and its magnitude bits say. -/
lemma unpack_eq (x : Float) : x.toModel.unpack = unpacked (isNegative x) (magnitudeBits x) := by
  have magnitude : magnitudeBits x = x.toBits.toBitVec.toNat % 2 ^ 63 := rfl
  have fraction : (@unpackMantissa .binary64 x.toBits.toBitVec).toNat = magnitudeBits x % 2 ^ 52 := by
    rw [toNat_unpackMantissa]
    omega
  have exponent : (@unpackExponent .binary64 x.toBits.toBitVec).toNat = magnitudeBits x / 2 ^ 52 := by
    rw [toNat_unpackExponent]
    omega
  have no_fraction : @unpackMantissa .binary64 x.toBits.toBitVec = 0#_ ↔ magnitudeBits x % 2 ^ 52 = 0 := by
    rw [← fraction]
    exact BitVec.toNat_inj.symm
  have greatest : @unpackExponent .binary64 x.toBits.toBitVec = -1#_ ↔ magnitudeBits x / 2 ^ 52 = 2047 := by
    rw [← exponent]
    exact BitVec.toNat_inj.symm
  have least : @unpackExponent .binary64 x.toBits.toBitVec = 0#_ ↔ magnitudeBits x / 2 ^ 52 = 0 := by
    rw [← exponent]
    exact BitVec.toNat_inj.symm
  have implicit : (1#1 ++ @unpackMantissa .binary64 x.toBits.toBitVec).toNat =
      2 ^ 52 + magnitudeBits x % 2 ^ 52 := by
    rw [← fraction, BitVec.toNat_append, ← Nat.shiftLeft_add_eq_or_of_lt (BitVec.isLt _)]
    rfl
  change UnpackedFloat.unpack .binary64 x.toBits.toBitVec = _
  unfold UnpackedFloat.unpack unpacked
  dsimp only
  simp only [ofBitVec_unpackSign, fraction, exponent, no_fraction, greatest, least, implicit]
  split
  · rfl
  · split
    · next zero => rw [zero]; rfl
    · rfl

/-- A float with the other sign is taken for the negative. -/
lemma unpacked_not (negative : Bool) (bits : Nat) :
    unpacked (!negative) bits = (unpacked negative bits).neg := by
  unfold unpacked
  dsimp only
  split
  · split
    · exact congrArg _ (neg_signOf negative).symm
    · rfl
  · split
    · split
      · exact congrArg _ (neg_signOf negative).symm
      · simp only [UnpackedFloat.neg, neg_signOf]
    · simp only [UnpackedFloat.neg, neg_signOf]

/-- The bits from which a float is made up are its bits, up to those of infinity. -/
lemma toBits_ofMagnitude {negative : Bool} {bits : Nat} (below : bits ≤ infinityBits) :
    (ofMagnitude negative bits).toBits.toNat = if negative then signWeight + bits else bits := by
  have weight : signWeight = 2 ^ 63 := rfl
  have infinity : infinityBits = 2047 * 2 ^ 52 := rfl
  rw [weight]
  generalize whole : (if negative then 2 ^ 63 + bits else bits) = w
  have small : w < 2 ^ 64 ∧ ¬(w / 2 ^ 52 % 2 ^ 11 = 2047 ∧ w % 2 ^ 52 ≠ 0) := by
    split at whole <;> omega
  have word : (UInt64.ofNat w).toBitVec.toNat = w := Nat.mod_eq_of_lt small.1
  have no_nan : @isNaNBits .binary64 (UInt64.ofNat w).toBitVec = false := by
    refine decide_eq_false fun ⟨greatest, some_fraction⟩ => small.2 ⟨?_, fun none => some_fraction ?_⟩
    · rw [← word, ← toNat_unpackExponent, greatest]
      rfl
    · rw [← BitVec.toNat_inj, toNat_unpackMantissa, word]
      exact none
  have packed := @pack_unpack .binary64 (UInt64.ofNat w).toBitVec (by decide)
  rw [no_nan, if_neg Bool.false_ne_true] at packed
  rw [ofMagnitude, weight, whole]
  exact (congrArg BitVec.toNat packed).trans word

/-- A float has the magnitude bits that it is made with. -/
lemma magnitudeBits_ofMagnitude {negative : Bool} {bits : Nat} (below : bits ≤ infinityBits) :
    magnitudeBits (ofMagnitude negative bits) = bits := by
  have weight : signWeight = 2 ^ 63 := rfl
  have infinity : infinityBits = 2047 * 2 ^ 52 := rfl
  rw [magnitudeBits, toBits_ofMagnitude below, weight]
  split <;> omega

/-- A float has the sign that it is made with. -/
lemma isNegative_ofMagnitude {negative : Bool} {bits : Nat} (below : bits ≤ infinityBits) :
    isNegative (ofMagnitude negative bits) = negative := by
  have weight : signWeight = 2 ^ 63 := rfl
  have infinity : infinityBits = 2047 * 2 ^ 52 := rfl
  rw [isNegative, toBits_ofMagnitude below]
  cases negative with
  | false => exact decide_eq_false (by rw [if_neg Bool.false_ne_true]; omega)
  | true => exact decide_eq_true (by rw [if_pos rfl]; omega)

/-- The negative of a float has its magnitude and the other sign. -/
lemma neg_ofMagnitude {negative : Bool} {bits : Nat} (below : bits ≤ infinityBits) :
    -ofMagnitude negative bits = ofMagnitude (!negative) bits := by
  have unpack_neg : (ofMagnitude negative bits).toModel.unpack.neg =
      (ofMagnitude (!negative) bits).toModel.unpack := by
    rw [unpack_eq, unpack_eq, magnitudeBits_ofMagnitude below, magnitudeBits_ofMagnitude below,
      isNegative_ofMagnitude below, isNegative_ofMagnitude below, unpacked_not]
  change Float.ofModel (Float.Model.pack (ofMagnitude negative bits).toModel.unpack.neg) = _
  rw [unpack_neg]
  exact Float.ofBits_toBits _

/-- A finite float is a significand times a power of two, which counts its units. -/
lemma IsFinite.unpack_cases {x : Float} (finite : IsFinite x) :
    unitsOfBits (magnitudeBits x) = 0 ∧ x.toModel.unpack = .zero (signOf (isNegative x)) ∨
      ∃ (m e : Nat) (pos : 0 < m),
        x.toModel.unpack = .finite (signOf (isNegative x)) m (e - 1074) pos ∧ m < 2 ^ 53 ∧
          unitsOfBits (magnitudeBits x) = m * 2 ^ e := by
  have below : magnitudeBits x < 2047 * 2 ^ 52 := isFinite_iff.mp finite
  have implicit : Nat.pow 2 fractionBits = 2 ^ 52 := rfl
  have no_infinity : magnitudeBits x / 2 ^ 52 ≠ 2047 := by omega
  have fraction_lt : magnitudeBits x % 2 ^ 52 < 2 ^ 52 := Nat.mod_lt _ (Nat.two_pow_pos 52)
  rw [unpack_eq, unpacked, unitsOfBits, implicit, if_neg no_infinity]
  by_cases least : magnitudeBits x / 2 ^ 52 = 0
  · rw [if_pos least, if_pos least]
    by_cases none : magnitudeBits x % 2 ^ 52 = 0
    · exact .inl ⟨none, dif_pos none⟩
    · exact .inr ⟨_, 0, Nat.pos_of_ne_zero none, dif_neg none, by omega, (Nat.mul_one _).symm⟩
  · rw [if_neg least, if_neg least]
    refine .inr ⟨_, magnitudeBits x / 2 ^ 52 - 1, Nat.add_pos_left (Nat.two_pow_pos 52) _, ?_, by omega, rfl⟩
    congr 1
    omega

/-- Arithmetic sees what is not finite as infinite or as no number. -/
lemma unpack_of_not_finite {x : Float} (other : ¬ IsFinite x) :
    x.toModel.unpack = .infinity (signOf (isNegative x)) ∨ x.toModel.unpack = .notANumber := by
  have above : ¬ magnitudeBits x < 2047 * 2 ^ 52 := fun below => other (isFinite_iff.mpr below)
  have bounded : magnitudeBits x < 2 ^ 63 := Nat.mod_lt _ (Nat.two_pow_pos 63)
  have greatest : magnitudeBits x / 2 ^ 52 = 2047 := by omega
  rw [unpack_eq, unpacked, if_pos greatest]
  exact (ite_eq_or_eq ..).imp id id

/-- An infinity is not finite. -/
lemma isFinite_of_view {x : Float} {negative : Bool} (infinite : view x = .infinite negative) :
    x.isFinite = false := by
  have other : ¬ IsFinite x := by
    rintro ⟨_, _, found⟩
    cases infinite.symm.trans found
  change x.toModel.unpack.isFinite = false
  rcases unpack_of_not_finite other with found | found <;> rw [found] <;> rfl

end Formula.Number
