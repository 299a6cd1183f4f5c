import Formula.Proofs.Number.Finite
import Mathlib.Data.Prod.Lex
import Mathlib.Tactic.Lemma

/-!
# The order of floats

Floats that are numbers are compared by a rank, so that the comparison is transitive (`float_le_trans`).
-/

open Float.Model Float.Model.UnpackedFloat

namespace Formula.Number

/-- Where a float stands among the others: between the infinities, and zero between the signs, where the power
of two counts before the significand. -/
def rank : UnpackedFloat → Int ×ₗ Int ×ₗ Int
  | .infinity .negative => toLex (-2, toLex (0, 0))
  | .finite .negative m e _ => toLex (-1, toLex (-e, -m))
  | .notANumber | .zero _ => toLex (0, toLex (0, 0))
  | .finite .positive m e _ => toLex (1, toLex (e, m))
  | .infinity .positive => toLex (2, toLex (0, 0))

/-- The smaller power of two decides, or else a significand that is no greater. -/
lemma isLE_then_compare (e e' : Int) (m m' : Nat) :
    ((compare e e').then (compare m m')).isLE = true ↔ e < e' ∨ e = e' ∧ m ≤ m' := by
  rw [Ordering.isLE_then_iff_or, Int.compare_eq_lt, Int.compare_eq_eq, Nat.isLE_compare]

/-- The greater power of two decides, or else a significand that is no less. -/
lemma isGE_then_compare (e e' : Int) (m m' : Nat) :
    ((compare e e').then (compare m m')).isGE = true ↔ e' < e ∨ e = e' ∧ m' ≤ m := by
  rw [← Ordering.isLE_swap, Ordering.swap_then, Ordering.isLE_then_iff_or, Ordering.swap_eq_lt,
    Ordering.swap_eq_eq, Ordering.isLE_swap, Int.compare_eq_gt, Int.compare_eq_eq, Nat.isGE_compare]

/-- A negative sign comes before a positive one. -/
lemma compare_sign (s s' : Sign) : compare s s' =
    match s, s' with
    | .negative, .positive => .lt
    | .positive, .negative => .gt
    | _, _ => .eq := by
  cases s <;> cases s' <;> rfl

/-- Numbers are ordered by their ranks. -/
lemma le_iff_rank {a b : UnpackedFloat} :
    a.le b = true ↔ a ≠ .notANumber ∧ b ≠ .notANumber ∧ rank a ≤ rank b := by
  obtain (_ | _) | _ | _ | ⟨_ | _, m, e, pos⟩ := a <;>
  obtain (_ | _) | _ | _ | ⟨_ | _, m', e', pos'⟩ := b <;>
  simp [UnpackedFloat.le, UnpackedFloat.compare, rank, Prod.Lex.le_iff, compare_sign, isLE_then_compare,
    isGE_then_compare]

/-- Floats are compared as they are taken apart. -/
lemma float_le_iff {x y : Float} : x ≤ y ↔ x.toModel.unpack.le y.toModel.unpack = true := by
  change decide (_ = true) = true ↔ _
  rw [decide_eq_true_iff]
  rfl

/-- The comparison of floats is transitive. -/
lemma float_le_trans {x y z : Float} (xy : x ≤ y) (yz : y ≤ z) : x ≤ z := by
  rw [float_le_iff, le_iff_rank] at *
  exact ⟨xy.1, yz.2.1, xy.2.2.trans yz.2.2⟩

end Formula.Number
