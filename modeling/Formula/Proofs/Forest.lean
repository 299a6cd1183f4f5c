import Formula.Library.Elementary
import Formula.Proofs.Replay.Fold
import Formula.Proofs.Replay.Script
import Formula.Proofs.Term

/-!
# Forests

Terms one after another make a forest, and its post-orders one after another are a list of parts. These are
just the lists in which every operator finds its operands, and each of them comes from one forest
(`OperandsSuffice.postOrder_build`, `Term.build_flatMap_postOrder`). `Term.evaluates_forests` says that an
evaluation finds the values of all terms from left to right, and insists that there is one term.
-/

namespace Formula

/-- Every operator finds as many values as it takes, where there are `depth` values at the beginning. -/
def OperandsSuffice : Nat → List Part → Prop
  | _, [] => True
  | depth, .operand _ :: rest => OperandsSuffice (depth + 1) rest
  | depth, .operator op :: rest => op.arity ≤ depth ∧ OperandsSuffice (depth - op.arity + 1) rest

/-- An operator takes one operand or two. -/
lemma Operator.arity_cases (op : Operator) : op.arity = 1 ∨ op.arity = 2 := by
  unfold arity
  cases op.fixity with
  | binary => exact .inr rfl
  | unaryPrefix => exact .inl rfl
  | unaryPostfix => exact .inl rfl
  | function => exact .inl rfl

namespace Term

/-- Puts a part on the terms before it, the last one first. An operator becomes a term with those that it
takes, and is left out where there are too few. -/
def build (terms : List Term) : Part → List Term
  | .operand o => .operand o :: terms
  | .operator op =>
    if one : op.arity = 1 then
      match terms with
      | inner :: before => .unary op one inner :: before
      | [] => []
    else if two : op.arity = 2 then
      match terms with
      | right :: left :: before => .binary op two left right :: before
      | few => few
    else terms

section Build

variable {op : Operator}

/-- An operator with one operand takes the term that was built last. -/
lemma build_unary (arity : op.arity = 1) (inner : Term) (before : List Term) :
    build (inner :: before) (.operator op) = .unary op arity inner :: before := by
  simp [build, arity]

/-- An operator with two operands takes the two terms that were built last. -/
lemma build_binary (arity : op.arity = 2) (left right : Term) (before : List Term) :
    build (right :: left :: before) (.operator op) = .binary op arity left right :: before := by
  simp [build, arity]

/-- The post-order of a term builds it. -/
lemma build_postOrder (t : Term) (before : List Term) :
    t.postOrder.foldl build before = t :: before := by
  induction t generalizing before with
  | operand o => rfl
  | unary op arity inner ih =>
    rw [postOrder, List.foldl_concat, ih, build_unary arity]
  | binary op arity left right ihl ihr =>
    rw [postOrder, List.foldl_concat, List.foldl_append, ihl, ihr, build_binary arity]

/-- The post-orders of a forest build it. -/
lemma build_flatMap_postOrder (ts before : List Term) :
    (ts.flatMap postOrder).foldl build before = ts.reverse ++ before := by
  induction ts generalizing before with
  | nil => rfl
  | cons t rest ih =>
    rw [List.flatMap_cons, List.foldl_append, build_postOrder, ih, List.reverse_cons,
      List.append_assoc]
    rfl

/-- An operator that finds its operands becomes a term with them. -/
lemma exists_build_operator {terms : List Term} (enough : op.arity ≤ terms.length) :
    ∃ t, build terms (.operator op) = t :: terms.drop op.arity ∧
      t.postOrder = (terms.take op.arity).reverse.flatMap postOrder ++ [.operator op] := by
  rcases op.arity_cases with arity | arity
  · obtain ⟨inner, before, rfl⟩ := List.exists_cons_of_length_pos (arity ▸ enough)
    refine ⟨.unary op arity inner, ?_, ?_⟩
    · rw [build_unary arity, arity]
      rfl
    · simp [postOrder, arity]
  · rw [arity] at enough
    obtain ⟨right, others, rfl⟩ := List.exists_cons_of_length_pos (Nat.zero_lt_of_lt enough)
    obtain ⟨left, before, rfl⟩ := List.exists_cons_of_length_pos (Nat.lt_of_succ_lt_succ enough)
    refine ⟨.binary op arity left right, ?_, ?_⟩
    · rw [build_binary arity, arity]
      rfl
    · simp [postOrder, arity]

end Build

/-- In the post-order of a term every operator finds its operands, and one value is left. -/
lemma operandsSuffice_postOrder (t : Term) (depth : Nat) (rest : List Part) :
    OperandsSuffice depth (t.postOrder ++ rest) ↔ OperandsSuffice (depth + 1) rest := by
  induction t generalizing depth rest with
  | operand o => exact Iff.rfl
  | unary op arity inner ih =>
    rw [postOrder, List.append_assoc, ih]
    simp [OperandsSuffice, arity]
  | binary op arity left right ihl ihr =>
    rw [postOrder, List.append_assoc, List.append_assoc, ihl, ihr]
    simp [OperandsSuffice, arity]

/-- In the post-orders of several terms no operator lacks operands, whatever stands below them. -/
lemma operandsSuffice_flatMap_postOrder (ts : List Term) (depth : Nat) :
    OperandsSuffice depth (ts.flatMap postOrder) := by
  induction ts generalizing depth with
  | nil => trivial
  | cons t rest ih =>
    rw [List.flatMap_cons, operandsSuffice_postOrder]
    exact ih _

end Term

/-- Parts in which every operator finds its operands are the post-orders of the forest that they build. -/
lemma OperandsSuffice.postOrder_build {parts : List Part} {terms : List Term}
    (h : OperandsSuffice terms.length parts) :
    (parts.foldl Term.build terms).reverse.flatMap Term.postOrder =
      terms.reverse.flatMap Term.postOrder ++ parts := by
  induction parts generalizing terms with
  | nil => simp
  | cons part rest ih =>
    cases part with
    | operand o =>
      rw [List.foldl_cons, ih h, Term.build, List.reverse_cons, List.flatMap_append, List.append_assoc]
      rfl
    | operator op =>
      obtain ⟨enough, others⟩ := h
      obtain ⟨t, built, order⟩ := Term.exists_build_operator enough
      have length : (t :: terms.drop op.arity).length = terms.length - op.arity + 1 := by simp
      -- the operands are the last terms, and the post-order of the new term begins with theirs
      have split : terms.reverse = (terms.drop op.arity).reverse ++ (terms.take op.arity).reverse := by
        rw [← List.reverse_append, List.take_append_drop]
      rw [List.foldl_cons, built, ih (length ▸ others), List.reverse_cons, List.flatMap_append,
        List.flatMap_singleton, order, split, List.flatMap_append]
      simp only [List.append_assoc, List.cons_append, List.nil_append]

/-- Just the lists in which every operator finds its operands are the post-orders of forests. -/
lemma operandsSuffice_iff (parts : List Part) :
    OperandsSuffice 0 parts ↔ ∃ ts : List Term, parts = ts.flatMap Term.postOrder := by
  constructor
  · intro suffice
    have whole : OperandsSuffice ([] : List Term).length parts := suffice
    exact ⟨_, whole.postOrder_build.symm⟩
  · rintro ⟨ts, rfl⟩
    exact Term.operandsSuffice_flatMap_postOrder ts 0

/-- No two forests have the same post-orders. -/
lemma Term.flatMap_postOrder_injective :
    Function.Injective fun ts : List Term => ts.flatMap postOrder := by
  intro ts us same
  have built := congrArg (List.foldl build []) same
  simpa only [build_flatMap_postOrder, List.append_nil, List.reverse_inj] using built

section Evaluation

variable {lookup : Lookup} {bindings : Bindings}

/-- A part that does not fail finds its operands. -/
lemma OperandsSuffice.of_step {part : Part} {rest : List Part} {stack stack' : Stack Operand}
    (stepped : Evaluator.step lookup bindings stack part = .ok stack')
    (others : OperandsSuffice stack'.size rest) : OperandsSuffice stack.size (part :: rest) := by
  cases part with
  | operand o =>
    rw [Term.step_operand] at stepped
    cases found : Term.leaf lookup bindings o <;> rw [found] at stepped <;> cases stepped
    exact others
  | operator op =>
    change Evaluator.apply op stack = _ at stepped
    rcases Evaluator.apply_cases op stack with ⟨-, starved⟩ | ⟨operands, below, rfl, arity, applied⟩
    · rw [starved] at stepped
      cases stepped
    · rw [applied] at stepped
      cases result : Term.applied op operands <;> rw [result] at stepped <;> cases stepped
      have size : Stack.size ⟨operands.reverse ++ below.fromTop⟩ = op.arity + below.size := by
        simp [Stack.size, arity]
      refine ⟨by omega, ?_⟩
      rw [size, Nat.add_sub_cancel_left]
      exact others

/-- Where a list of parts runs to its end, every operator has found its operands. -/
lemma OperandsSuffice.of_run {parts : List Part} {stack stack' : Stack Operand}
    (h : Evaluator.run lookup bindings (parts.map .ok) stack = .ok stack') :
    OperandsSuffice stack.size parts := by
  induction parts generalizing stack with
  | nil => trivial
  | cons part rest ih =>
    obtain ⟨middle, stepped, ran⟩ := Evaluator.exists_of_run_cons h
    exact .of_step stepped (ih ran)

namespace Term

/-- The value of a forest, which has to be one term. -/
def evalForest (lookup : Lookup) (bindings : Bindings) (ts : List Term) : Except EvalError Operand := do
  let values ← ts.mapM (eval lookup bindings)
  match values with
  | [] => .error (.notEnoughOperands "expression" 1 0)
  | [value] => .ok value
  | _ => .error (.tooManyOperands ts.length)

/-- The values that are left are one, none or too many. -/
lemma result_reverse (values : List Operand) :
    Evaluator.result ⟨values.reverse⟩ =
      match values with
      | [] => .error (.notEnoughOperands "expression" 1 0)
      | [value] => .ok value
      | _ => .error (.tooManyOperands values.length) := by
  rcases values with _ | ⟨first, _ | ⟨second, rest⟩⟩
  · rfl
  · rfl
  · -- two values or more are two or more in the other order
    generalize same : (first :: second :: rest).reverse = top
    have length := congrArg List.length same
    rw [List.length_reverse] at length
    rcases top with _ | ⟨_, _ | ⟨_, _⟩⟩
    · cases length
    · cases length
    · rw [length]
      rfl

/-- A forest has as many values as terms. -/
lemma length_of_mapM {ts : List Term} {values : List Operand}
    (h : ts.mapM (eval lookup bindings) = .ok values) : values.length = ts.length := by
  induction ts generalizing values with
  | nil =>
    cases h
    rfl
  | cons t rest ih =>
    rw [List.mapM_cons] at h
    cases first : t.eval lookup bindings with
    | error e =>
      rw [first] at h
      cases h
    | ok value =>
      rw [first] at h
      cases others : rest.mapM (eval lookup bindings) with
      | error e =>
        rw [others] at h
        cases h
      | ok values =>
        rw [others] at h
        cases h
        exact congrArg Nat.succ (ih others)

/-- The post-orders of a forest push the values of its terms. -/
lemma run_flatMap_postOrder (ts : List Term) (stack : Stack Operand) :
    Evaluator.run lookup bindings ((ts.flatMap postOrder).map .ok) stack =
      ((ts.mapM (eval lookup bindings)).map fun values =>
        ⟨values.reverse ++ stack.fromTop⟩).mapError .eval := by
  induction ts generalizing stack with
  | nil => rfl
  | cons t rest ih =>
    rw [List.flatMap_cons, List.map_append, run_postOrder, List.mapM_cons]
    cases t.eval lookup bindings with
    | error e => rfl
    | ok value =>
      rw [resume, ih]
      cases rest.mapM (eval lookup bindings) with
      | error e => rfl
      | ok values => simp [Except.map, Except.mapError, Stack.push, bind, Except.bind, pure, Except.pure]

/-- An evaluation of the post-orders of a forest gives its value. -/
lemma evaluateItems_flatMap_postOrder (ts : List Term) :
    Evaluator.evaluateItems lookup bindings ((ts.flatMap postOrder).map .ok) =
      (evalForest lookup bindings ts).mapError .eval := by
  have run : Evaluator.run lookup bindings ((ts.flatMap postOrder).map .ok) .empty = _ :=
    run_flatMap_postOrder ts .empty
  rw [Evaluator.evaluateItems, run, evalForest]
  cases evaluated : ts.mapM (eval lookup bindings) with
  | error e => rfl
  | ok values =>
    have last : Evaluator.result ⟨values.reverse ++ Stack.empty.fromTop⟩ = _ :=
      (congrArg (fun top => Evaluator.result ⟨top⟩) (List.append_nil _)).trans (result_reverse values)
    rw [length_of_mapM evaluated] at last
    change (Evaluator.result ⟨values.reverse ++ Stack.empty.fromTop⟩).mapError Failure.eval = _
    rw [last]
    rfl

end Term

end Evaluation

namespace Term

/-- Every operator of a list of parts finds its operands if the list is the post-orders of some forest, and
only then; the forest is the only one, and a list that runs to its end is of this kind. An evaluation of the
post-orders gives the value of the forest, be it with all parts at hand or with parts that are pulled: the
first error met in the terms from left to right, each from its operands to its operator, or the value of
the only term, or an error that counts the values. -/
theorem evaluates_forests :
    (∀ parts, OperandsSuffice 0 parts ↔ ∃ ts : List Term, parts = ts.flatMap postOrder) ∧
    Function.Injective (fun ts : List Term => ts.flatMap postOrder) ∧
    (∀ lookup bindings parts stack,
      Evaluator.run lookup bindings (parts.map .ok) .empty = .ok stack → OperandsSuffice 0 parts) ∧
    ∀ lookup bindings (ts : List Term),
      Evaluator.evaluateItems lookup bindings ((ts.flatMap postOrder).map .ok) =
        (evalForest lookup bindings ts).mapError .eval ∧
      (Evaluator.evaluate lookup bindings (.ofParts (ts.flatMap postOrder))).1 =
        (evalForest lookup bindings ts).mapError .eval := by
  refine ⟨operandsSuffice_iff, flatMap_postOrder_injective, fun lookup bindings parts stack run => ?_,
    fun lookup bindings ts => ⟨evaluateItems_flatMap_postOrder ts, ?_⟩⟩
  · exact .of_run run
  · rw [(Replay.Keeps.ofParts _).evaluate_eq, Listed.items_eq]
    exact evaluateItems_flatMap_postOrder ts

/-- The term `10 - 4`. -/
def difference : Term :=
  .binary Library.subtraction rfl (.operand (.number 10)) (.operand (.number 4))

/-- One difference has a value and two have too many; an unbound variable comes before that. -/
theorem evaluates_differences :
    Evaluator.run standardLookup .empty ([.operand (.number 10), .operand (.number 4),
        .operator Library.subtraction].map .ok) .empty = .ok ⟨[.number (10 - 4)]⟩ ∧
      OperandsSuffice 0 [.operand (.number 10), .operand (.number 4), .operator Library.subtraction] ∧
      Evaluator.evaluateItems standardLookup .empty (([difference].flatMap postOrder).map .ok) =
        .ok (.number (10 - 4)) ∧
      Evaluator.evaluateItems standardLookup .empty (([difference, difference].flatMap postOrder).map .ok) =
        .error (.eval (.tooManyOperands 2)) ∧
      (Evaluator.evaluate standardLookup .empty
          (.ofParts ([difference, .operand (.variable ":x")].flatMap postOrder))).1 =
        .error (.eval (.undefinedVariable ":x")) := by
  obtain ⟨-, -, runs, values⟩ := evaluates_forests
  have run : Evaluator.run standardLookup .empty ([.operand (.number 10), .operand (.number 4),
      .operator Library.subtraction].map .ok) .empty = .ok ⟨[.number (10 - 4)]⟩ := rfl
  refine ⟨run, runs _ _ _ _ run, (values _ _ _).1, (values _ _ _).1, (values _ _ _).2⟩

end Term

end Formula
