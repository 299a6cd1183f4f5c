import Formula.Number.Numeral
import Mathlib

/-!
# Finite floats

A float is given by its sign and its magnitude bits (`ofMagnitude_magnitudeBits`), and it is finite where
these stay below the bits of infinity (`isFinite_iff`).
-/

namespace Formula.Number

/-- A float that is a number: not infinite, and not without a value. -/
def IsFinite (x : Float) : Prop := ∃ negative units, view x = .finite negative units

variable {x : Float}

/-- The finite floats are those with magnitude bits below the ones of infinity. -/
lemma isFinite_iff : IsFinite x ↔ magnitudeBits x < infinityBits := by
  unfold IsFinite view
  dsimp only
  split
  · next below => exact iff_of_true ⟨_, _, rfl⟩ below
  · next above =>
    refine iff_of_false ?_ above
    split <;> rintro ⟨_, _, other⟩ <;> cases other

/-- A finite float is its sign and the units of its magnitude bits. -/
lemma IsFinite.view_eq (finite : IsFinite x) :
    view x = .finite (isNegative x) (unitsOfBits (magnitudeBits x)) :=
  if_pos (isFinite_iff.mp finite)

/-- The sign and the magnitude bits of a float make it up. -/
lemma ofMagnitude_magnitudeBits (x : Float) : ofMagnitude (isNegative x) (magnitudeBits x) = x := by
  have below : x.toBits.toNat < 2 * signWeight := x.toBits.toNat_lt
  have bits : (if isNegative x then signWeight + magnitudeBits x else magnitudeBits x) = x.toBits.toNat := by
    unfold magnitudeBits isNegative
    split
    · next negative =>
      have least := of_decide_eq_true negative
      rw [Nat.mod_eq_sub_mod least, Nat.mod_eq_of_lt (by omega), Nat.add_sub_cancel' least]
    · next positive =>
      have most := of_decide_eq_false (Bool.eq_false_iff.mpr positive)
      rw [Nat.mod_eq_of_lt (not_le.mp most)]
  rw [ofMagnitude, bits, UInt64.ofNat_toNat, Float.ofBits_toBits]

end Formula.Number
