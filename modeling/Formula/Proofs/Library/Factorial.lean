import Formula.Library.Elementary
import Formula.Proofs.Number.Fraction
import Formula.Proofs.Number.Order

/-!
# Factorials

The loop of the factorial counts with floats up to a float, so its counter alone need not reach the bound:
from `2 ^ 53` on it stands still. The product ends it, which is infinite after 170 factors whatever the bound
is (`factorial_ends`).
-/

namespace Formula.Library

namespace Product

variable {x y : Float} {p q q' : Product} {n n' : Nat}

/-- From a product, factors up to `x` are taken until there is none left or the product cannot change any
more, and so many are taken. Nothing limits their number. -/
inductive Ends (x : Float) : Product → Nat → Product → Prop where
  | stop {p : Product} : p.continues x = false → Ends x p 0 p
  | step {p q : Product} {n : Nat} : p.continues x = true → Ends x p.step n q → Ends x p (n + 1) q

/-- The loop has one end. -/
lemma Ends.unique (h : Ends x p n q) (h' : Ends x p n' q') : n = n' ∧ q = q' := by
  induction h generalizing n' with
  | stop stops =>
    cases h' with
    | stop => exact ⟨rfl, rfl⟩
    | step goes => exact absurd (stops.symm.trans goes) Bool.false_ne_true
  | step goes _ ih =>
    cases h' with
    | stop stops => exact absurd (stops.symm.trans goes) Bool.false_ne_true
    | step _ rest =>
      obtain ⟨rfl, rfl⟩ := ih rest
      exact ⟨rfl, rfl⟩

/-- The loop goes on no longer with a product that is infinite. -/
lemma continues_of_infinite (infinite : p.value.isFinite = false) : p.continues x = false := by
  rw [continues, infinite, Bool.and_false]

/-- An infinite product ends the loop at a greater bound too, after as many factors. -/
lemma Ends.mono (above : x ≤ y) (h : Ends x p n q) (infinite : q.value.isFinite = false) : Ends y p n q := by
  induction h with
  | stop => exact .stop (continues_of_infinite infinite)
  | @step p q n goes _ ih =>
    rw [continues, Bool.and_eq_true, decide_eq_true_eq] at goes
    refine .step ?_ (ih infinite)
    rw [continues, Bool.and_eq_true, decide_eq_true_eq]
    exact ⟨Number.float_le_trans goes.1 above, goes.2⟩

/-- Where the product is infinite after so many factors, no bound lets the loop take more, and a run with that
limit comes to the end of the loop. -/
lemma exists_ends {steps : Nat} (infinite : (step^[steps] p).value.isFinite = false) :
    ∃ n ≤ steps, Ends x p n (p.run x steps) := by
  induction steps generalizing p with
  | zero => exact ⟨0, le_rfl, .stop (continues_of_infinite infinite)⟩
  | succ steps ih =>
    rw [run]
    by_cases goes : p.continues x = true
    · rw [if_pos goes]
      obtain ⟨n, few, ends⟩ := ih infinite
      exact ⟨n + 1, Nat.succ_le_succ few, .step goes ends⟩
    · rw [if_neg goes]
      exact ⟨0, Nat.zero_le _, .stop (Bool.eq_false_iff.mpr goes)⟩

/-- After 170 factors the product is infinite, whatever the bound is. -/
lemma exists_ends_start (x : Float) : ∃ n ≤ 170, Ends x start n (start.run x 170) :=
  exists_ends (by decide +kernel)

/-- A bound of 171 is enough for the product to become infinite. -/
lemma view_run_of_le (above : 171 ≤ x) : Number.view (start.run x 170).value = .infinite false := by
  have infinite : Number.view (start.run 171 170).value = .infinite false := by decide +kernel
  obtain ⟨n, -, ends⟩ := exists_ends_start 171
  obtain ⟨n', -, ends'⟩ := exists_ends_start x
  obtain ⟨-, same⟩ := (ends.mono above (Number.isFinite_of_view infinite)).unique ends'
  rw [← same, infinite]

end Product

/-- The factorial of a number is an error, or what its loop has come to. -/
lemma factorial_apply (x : Float) : factorial.apply [.number x] =
    if x < 0 then .error (.domain "!" "Factorial is not defined for negative numbers")
    else if (Number.fraction x != 0) = true then
      .error (.domain "!" "Factorial operator is only defined for integers")
    else .ok (.number (Product.start.run x 170).value) := by
  rw [bne, Number.fraction_beq_zero]
  simp only [factorial, Operator.apply, Operator.unary, Operator.unaryBody, productUpTo]
  split_ifs <;> rfl

/-- For every float, the factorial is an error just for negative numbers and for what has a fraction, as what
is not finite has too; else its loop ends after at most 170 factors with the result, and from 171 on that is
infinite. -/
theorem factorial_ends (x : Float) :
    ((∃ reason, factorial.apply [.number x] = .error (.domain "!" reason)) ↔
        x < 0 ∨ (Number.fraction x != 0) = true) ∧
      (¬ Number.IsFinite x → ∃ reason, factorial.apply [.number x] = .error (.domain "!" reason)) ∧
      (x < 0 ∨ (Number.fraction x != 0) = true ∨ ∃ n ≤ 170, ∃ p, Product.Ends x .start n p ∧
        factorial.apply [.number x] = .ok (.number p.value) ∧
        (171 ≤ x → Number.view p.value = .infinite false)) := by
  have other (infinite : ¬ Number.IsFinite x) : (Number.fraction x != 0) = true := by
    rw [bne, Number.fraction_beq_zero, Number.isWhole_eq_false infinite]
    rfl
  rw [factorial_apply]
  by_cases negative : x < 0
  · rw [if_pos negative]
    exact ⟨iff_of_true ⟨_, rfl⟩ (.inl negative), fun _ => ⟨_, rfl⟩, .inl negative⟩
  · rw [if_neg negative]
    by_cases fractional : (Number.fraction x != 0) = true
    · rw [if_pos fractional]
      exact ⟨iff_of_true ⟨_, rfl⟩ (.inr fractional), fun _ => ⟨_, rfl⟩, .inr (.inl fractional)⟩
    · rw [if_neg fractional]
      obtain ⟨n, few, ends⟩ := Product.exists_ends_start x
      refine ⟨iff_of_false nofun (not_or.mpr ⟨negative, fractional⟩), fun infinite =>
        absurd (other infinite) fractional, .inr (.inr ⟨n, few, _, ends, rfl, ?_⟩)⟩
      exact Product.view_run_of_le

/-- At a bound that the counter would never reach, the loop ends too. -/
theorem factorial_ends_huge :
    ∃ n ≤ 170, ∃ p, Product.Ends 1e300 .start n p ∧
      factorial.apply [.number 1e300] = .ok (.number p.value) ∧ Number.view p.value = .infinite false := by
  have no_negative : ¬(1e300 : Float) < 0 := by decide +kernel
  have no_fraction : ¬(Number.fraction 1e300 != 0) = true := by decide +kernel
  have above : (171 : Float) ≤ 1e300 := by decide +kernel
  obtain ⟨-, -, negative | fractional | ⟨n, few, p, ends, value, infinite⟩⟩ := factorial_ends 1e300
  · exact absurd negative no_negative
  · exact absurd fractional no_fraction
  · exact ⟨n, few, p, ends, value, infinite above⟩

end Formula.Library
