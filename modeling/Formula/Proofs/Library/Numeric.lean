import Formula.Proofs.Infix.PostOrder
import Formula.Proofs.Library.Alias

/-!
# Numeric operators

All operators of the library are over numbers: given as many numbers as they take, they result in a number
or find a number outside their domain. So does a term of numbers and such operators.
-/

namespace Formula

/-- Operators that are made from functions over numbers, with one operand or between two. -/
inductive Operator.Numeric : Operator → Prop where
  | unary {name fixity associativity precedence f} :
    fixity ≠ .binary →
    Numeric (.unary name fixity associativity precedence f)
  | binary {name associativity precedence f} :
    Numeric (.binary name associativity precedence f)

def Operand.IsNumber (o : Operand) : Prop := ∃ x, o = .number x

/-- Numbers and operators over numbers. -/
inductive Part.Numeric : Part → Prop where
  | number (x : Float) : Numeric (.operand (.number x))
  | operator {op} : op.Numeric → Numeric (.operator op)

/-- A number, or the error of an operator that does not have a result for the numbers it was given. -/
inductive Calculated : Except EvalError Operand → Prop where
  | number (x : Float) : Calculated (.ok (.number x))
  | domain (name reason : String) : Calculated (.error (.invalidOperatorArgument (.domain name reason)))

/-- All operators of the library are over numbers. -/
lemma Library.numeric_of_mem_math : ∀ entry ∈ math, entry.2.Numeric := by
  refine List.forall_iff_forall_mem.mp ?_
  refine ⟨?_, ?_, ?_, ?_, ?_, ?_, ?_, ?_, ?_, ?_, ?_, ?_, ?_, ?_, ?_⟩ <;>
    first
    | exact .binary
    | exact .unary nofun

/-- An operator that the library lists is over numbers. -/
lemma Library.numeric_of_mem {a : String × Operator} (h : a ∈ aliases) : a.2.Numeric := by
  obtain ⟨entry, listed, member⟩ := List.mem_flatMap.mp h
  obtain ⟨symbol, -, rfl⟩ := List.mem_map.mp member
  exact numeric_of_mem_math entry listed

namespace Operator.Numeric

variable {op : Operator}

/-- An operator over numbers that is given as many operands as it takes is calculated if they are numbers,
and otherwise finds that they are not. -/
lemma applied_cases (h : op.Numeric) {operands : List Operand} (arity : op.arity = operands.length) :
    Calculated (Term.applied op operands) ∨
      (∃ o ∈ operands, ¬ o.IsNumber) ∧
        Term.applied op operands = .error (.invalidOperatorArgument (.notANumber op.name)) := by
  cases h with
  | @unary name fixity associativity precedence f other =>
    have one : operands.length = 1 := by
      rw [← arity]
      cases fixity with
      | binary => exact absurd rfl other
      | unaryPrefix | unaryPostfix | function => rfl
    obtain ⟨o, rfl⟩ := List.length_eq_one_iff.mp one
    change Calculated ((Operator.unaryBody name f [o]).mapError _) ∨ _
    obtain x | v := o
    · refine .inl ?_
      rw [Operator.unaryBody]
      cases f x with
      | ok y => exact .number y
      | error reason => exact .domain name reason
    · exact .inr ⟨⟨_, List.mem_cons_self, nofun⟩, rfl⟩
  | @binary name associativity precedence f =>
    obtain ⟨o, o', rfl⟩ := List.length_eq_two.mp arity.symm
    change Calculated ((Operator.binaryBody name f [o, o']).mapError _) ∨ _
    obtain x | v := o
    · obtain y | v := o'
      · refine .inl ?_
        rw [Operator.binaryBody]
        cases f x y with
        | ok z => exact .number z
        | error reason => exact .domain name reason
      · exact .inr ⟨⟨_, List.mem_cons_of_mem _ List.mem_cons_self, nofun⟩, rfl⟩
    · exact .inr ⟨⟨_, List.mem_cons_self, nofun⟩, rfl⟩

/-- An operator over numbers calculates with numbers. -/
lemma calculated (h : op.Numeric) {operands : List Operand} (arity : op.arity = operands.length)
    (numbers : ∀ o ∈ operands, o.IsNumber) : Calculated (Term.applied op operands) := by
  rcases h.applied_cases arity with calculated | ⟨⟨o, member, other⟩, -⟩
  · exact calculated
  · exact absurd (numbers o member) other

end Operator.Numeric

namespace Term

variable {lookup : Lookup} {bindings : Bindings}

/-- The parts of a term with one operand are its operator and those of the operand. -/
lemma mem_inOrder_unary {op : Operator} {arity : op.arity = 1} {inner : Term} {part : Part} :
    part ∈ (unary op arity inner).inOrder ↔ part = .operator op ∨ part ∈ inner.inOrder := by
  rw [inOrder]
  split
  · exact List.mem_cons
  · rw [List.mem_append, List.mem_singleton]
    exact or_comm

/-- A term of numbers and operators over numbers is calculated. -/
lemma calculated_eval (t : Term) (numeric : ∀ part ∈ t.inOrder, part.Numeric) :
    Calculated (t.eval lookup bindings) := by
  induction t with
  | operand o =>
    cases numeric _ List.mem_cons_self with
    | number x => exact .number x
  | unary op arity inner ih =>
    have within := ih fun part member => numeric part (mem_inOrder_unary.mpr (.inr member))
    cases numeric _ (mem_inOrder_unary.mpr (.inl rfl)) with
    | operator op_numeric =>
      rw [eval]
      generalize inner.eval lookup bindings = outcome at within
      cases within with
      | number x => exact op_numeric.calculated arity (by simp [Operand.IsNumber])
      | domain name reason => exact .domain name reason
  | binary op arity left right ihl ihr =>
    have on_left := ihl fun part member => numeric part (List.mem_append_left _ member)
    have on_right := ihr fun part member =>
      numeric part (List.mem_append_right _ (List.mem_cons_of_mem _ member))
    cases numeric _ (List.mem_append_right _ List.mem_cons_self) with
    | operator op_numeric =>
      rw [eval]
      generalize left.eval lookup bindings = outcome at on_left
      generalize right.eval lookup bindings = outcome' at on_right
      cases on_left with
      | domain name reason => exact .domain name reason
      | number x =>
        cases on_right with
        | domain name reason => exact .domain name reason
        | number y => exact op_numeric.calculated arity (by simp [Operand.IsNumber])

end Term

end Formula
