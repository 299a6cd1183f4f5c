import Formula.Evaluator
import Mathlib.Tactic.Lemma

/-!
# Terms

A term is operators applied to operands. Its post-order is the reverse Polish expression for it, and its
value is found by recursion, the operands of an operator from left to right and the operator last.
`run_postOrder` says that running the post-order on a stack pushes the value.
-/

namespace Formula

/-- Operators applied to as many operands as they take. -/
inductive Term where
  | operand (o : Operand)
  | unary (op : Operator) (arity : op.arity = 1) (inner : Term)
  | binary (op : Operator) (arity : op.arity = 2) (left right : Term)

/-- An error of a variable or of an operator, not one of the stack or of the result. -/
def EvalError.IsOfTerm : EvalError → Prop
  | .undefinedVariable _ | .invalidVariableType _ | .invalidOperatorArgument _ => True
  | _ => False

namespace Term

/-- The parts of a term, each operator after its operands. -/
def postOrder : Term → List Part
  | .operand o => [.operand o]
  | .unary op _ inner => inner.postOrder ++ [.operator op]
  | .binary op _ left right => left.postOrder ++ right.postOrder ++ [.operator op]

/-- The value of an operand: a variable is looked up, a number stands for itself. -/
def leaf (lookup : Lookup) (bindings : Bindings) : Operand → Except EvalError Operand
  | .number x => .ok (.number x)
  | .variable name =>
    match bindings.get? name with
    | none => .error (.undefinedVariable name)
    | some binding => lookup name binding

/-- The result of an operator. -/
def applied (op : Operator) (operands : List Operand) : Except EvalError Operand :=
  (op.apply operands).mapError .invalidOperatorArgument

/-- The value of a term, or the first error on the way to it. -/
def eval (lookup : Lookup) (bindings : Bindings) : Term → Except EvalError Operand
  | .operand o => leaf lookup bindings o
  | .unary op _ inner => do
    let x ← inner.eval lookup bindings
    applied op [x]
  | .binary op _ left right => do
    let x ← left.eval lookup bindings
    let y ← right.eval lookup bindings
    applied op [x, y]

/-- Where one computation after another fails, the first fails, or the second does with what the first
has found. -/
lemma error_of_bind {ε α β : Type} {x : Except ε α} {f : α → Except ε β} {e : ε}
    (h : x >>= f = .error e) : x = .error e ∨ ∃ a, x = .ok a ∧ f a = .error e := by
  cases x with
  | error e' =>
    cases h
    exact .inl rfl
  | ok a => exact .inr ⟨a, rfl, h⟩

/-- An operator with its operands fails only as terms do. -/
lemma isOfTerm_applied {op : Operator} {operands : List Operand} {e : EvalError}
    (h : applied op operands = .error e) : e.IsOfTerm := by
  unfold applied at h
  cases result : op.apply operands with
  | ok value =>
    rw [result] at h
    cases h
  | error error =>
    rw [result] at h
    cases h
    trivial

/-- A term fails at a variable or at an operator. -/
lemma isOfTerm_eval {bindings : Bindings} {t : Term} {e : EvalError}
    (h : t.eval standardLookup bindings = .error e) : e.IsOfTerm := by
  induction t generalizing e with
  | operand o =>
    obtain x | name := o
    · cases h
    · rw [eval, leaf] at h
      split at h
      · cases h
        trivial
      · unfold standardLookup at h
        split at h
        · cases h
        · cases h
          trivial
  | unary op arity inner ih =>
    rw [eval] at h
    rcases error_of_bind h with failed | ⟨x, -, result⟩
    · exact ih failed
    · exact isOfTerm_applied result
  | binary op arity left right ihl ihr =>
    rw [eval] at h
    rcases error_of_bind h with failed | ⟨x, -, others⟩
    · exact ihl failed
    · rcases error_of_bind others with failed | ⟨y, -, result⟩
      · exact ihr failed
      · exact isOfTerm_applied result

section Run

variable {lookup : Lookup} {bindings : Bindings}

/-- An operand is pushed as the leaf that it is. -/
lemma step_operand (o : Operand) (stack : Stack Operand) :
    Evaluator.step lookup bindings stack (.operand o) =
      (leaf lookup bindings o).map stack.push := by
  obtain x | name := o
  · rfl
  · change Evaluator.load lookup bindings name stack = _
    simp only [Evaluator.load, leaf]
    cases bindings.get? name <;> rfl

/-- What was pushed last comes off the stack in the order in which it was pushed. -/
lemma popSeveral_reverse {α : Type} (values : List α) (below : Stack α) :
    Stack.popSeveral ⟨values.reverse ++ below.fromTop⟩ values.length = .ok (values, below) := by
  have enough : ¬ values.length + below.fromTop.length < values.length := by omega
  simp [Stack.popSeveral, Stack.check, Stack.size, enough, Except.map]

/-- An operator takes its operands off the stack and pushes its result. -/
lemma step_operator {op : Operator} (operands : List Operand) (arity : op.arity = operands.length)
    (below : Stack Operand) :
    Evaluator.step lookup bindings ⟨operands.reverse ++ below.fromTop⟩ (.operator op) =
      (applied op operands).map below.push := by
  change Evaluator.apply op _ = _
  rw [Evaluator.apply, arity, popSeveral_reverse]
  simp only [applied]
  cases op.apply operands <;> rfl

/-- Runs items after a value has been found, unless that failed. -/
def resume (lookup : Lookup) (bindings : Bindings) (rest : List Item) (stack : Stack Operand) :
    Except EvalError Operand → Except Failure (Stack Operand)
  | .ok value => Evaluator.run lookup bindings rest (stack.push value)
  | .error e => .error (.eval e)

/-- A part that pushes a value or fails is followed by the others if it does not fail. -/
lemma run_cons {part : Part} {stack below : Stack Operand} {outcome : Except EvalError Operand}
    (h : Evaluator.step lookup bindings stack part = outcome.map below.push) (rest : List Item) :
    Evaluator.run lookup bindings (.ok part :: rest) stack =
      resume lookup bindings rest below outcome := by
  rw [Evaluator.run, Evaluator.stepItem, h]
  cases outcome <;> rfl

/-- The post-order of a term pushes its value. -/
lemma run_postOrder (t : Term) (rest : List Item) (stack : Stack Operand) :
    Evaluator.run lookup bindings (t.postOrder.map .ok ++ rest) stack =
      resume lookup bindings rest stack (t.eval lookup bindings) := by
  -- the items after the post-order are generalized, since an operand of an operator is followed by the
  -- post-orders of the operands that come later
  induction t generalizing rest stack with
  | operand o => exact run_cons (step_operand o stack) rest
  | unary op arity inner ih =>
    rw [postOrder, List.map_append, List.append_assoc, ih, eval]
    cases inner.eval lookup bindings with
    | error e => rfl
    | ok x => exact run_cons (step_operator [x] arity stack) rest
  | binary op arity left right ihl ihr =>
    rw [postOrder, List.map_append, List.map_append, List.append_assoc, List.append_assoc, ihl, eval]
    cases left.eval lookup bindings with
    | error e => rfl
    | ok x =>
      rw [resume, ihr]
      cases right.eval lookup bindings with
      | error e => rfl
      | ok y => exact run_cons (step_operator [x, y] arity stack) rest

/-- A term has the value that its post-order evaluates to. -/
lemma evaluateItems_postOrder (t : Term) :
    Evaluator.evaluateItems lookup bindings (t.postOrder.map .ok) =
      (t.eval lookup bindings).mapError .eval := by
  have run : Evaluator.run lookup bindings (t.postOrder.map .ok ++ []) .empty = _ :=
    run_postOrder t [] .empty
  rw [List.append_nil] at run
  rw [Evaluator.evaluateItems, run]
  cases t.eval lookup bindings <;> rfl

/-- Where the post-order of a term has no value, the fault is a variable's or an operator's; it is never
one of reading, nor the want or excess of operands. -/
lemma failure_of_evaluateItems {t : Term} {failure : Failure}
    (h : Evaluator.evaluateItems standardLookup bindings (t.postOrder.map .ok) = .error failure) :
    (∀ error, failure ≠ .parse error) ∧
      (∀ context expected actual, failure ≠ .eval (.notEnoughOperands context expected actual)) ∧
      ∀ count, failure ≠ .eval (.tooManyOperands count) := by
  rw [evaluateItems_postOrder] at h
  cases outcome : t.eval standardLookup bindings with
  | ok value =>
    rw [outcome] at h
    cases h
  | error e =>
    rw [outcome] at h
    cases h
    have kind := isOfTerm_eval outcome
    refine ⟨nofun, ?_, ?_⟩
    · rintro context expected actual ⟨⟩
      exact kind
    · rintro count ⟨⟩
      exact kind

end Run

end Term

namespace Evaluator

variable {lookup : Lookup} {bindings : Bindings}

/-- An operator wants more operands than there are, or is applied to the topmost ones. -/
lemma apply_cases (op : Operator) (stack : Stack Operand) :
    (stack.size < op.arity ∧
      apply op stack = .error (.notEnoughOperands op.name op.arity stack.size)) ∨
    ∃ (operands : List Operand) (below : Stack Operand),
      stack = ⟨operands.reverse ++ below.fromTop⟩ ∧ op.arity = operands.length ∧
        apply op stack = (Term.applied op operands).map below.push := by
  by_cases starved : stack.size < op.arity
  · refine .inl ⟨starved, ?_⟩
    rw [apply, Stack.popSeveral, Stack.check, if_pos starved]
    rfl
  · have enough : op.arity ≤ stack.fromTop.length := Nat.le_of_not_lt starved
    refine .inr ⟨(stack.fromTop.take op.arity).reverse, ⟨stack.fromTop.drop op.arity⟩, ?_, ?_, ?_⟩
    · rw [List.reverse_reverse, List.take_append_drop]
    · rw [List.length_reverse, List.length_take_of_le enough]
    · rw [apply, Stack.popSeveral, Stack.check, if_neg starved]
      simp only [Except.map, Term.applied]
      cases op.apply _ <;> rfl

/-- Items are taken where those before them have left the stack. -/
lemma run_append (items rest : List Item) (stack : Stack Operand) :
    run lookup bindings (items ++ rest) stack =
      (run lookup bindings items stack).bind (run lookup bindings rest) := by
  induction items generalizing stack with
  | nil => rfl
  | cons item items ih =>
    rw [List.cons_append, run, run]
    cases stepItem lookup bindings stack item with
    | error e => rfl
    | ok stack' => exact ih stack'

/-- Items after others are run on the stack that these have left. -/
lemma run_append_of_ok {items : List Item} {stack stack' : Stack Operand}
    (ran : run lookup bindings items stack = .ok stack') (rest : List Item) :
    run lookup bindings (items ++ rest) stack = run lookup bindings rest stack' := by
  rw [run_append, ran]
  rfl

/-- A single item is run in one step. -/
lemma run_singleton (item : Item) (stack : Stack Operand) :
    run lookup bindings [item] stack = stepItem lookup bindings stack item := by
  rw [run]
  cases stepItem lookup bindings stack item <;> rfl

/-- Parts that run to their end do so one after another. -/
lemma exists_of_run_cons {part : Part} {rest : List Part} {stack stack' : Stack Operand}
    (h : run lookup bindings ((part :: rest).map .ok) stack = .ok stack') :
    ∃ middle, step lookup bindings stack part = .ok middle ∧
      run lookup bindings (rest.map .ok) middle = .ok stack' := by
  rw [List.map_cons, run, stepItem] at h
  cases stepped : step lookup bindings stack part with
  | error e =>
    rw [stepped] at h
    cases h
  | ok middle =>
    rw [stepped] at h
    exact ⟨middle, rfl, h⟩

end Evaluator

end Formula
