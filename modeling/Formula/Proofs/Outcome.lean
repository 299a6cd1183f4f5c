import Formula.Proofs.Forest
import Formula.Proofs.Replay.Interleaving

/-!
# The outcome of an evaluation

The depth of parts is the number of operands less that of operators between two operands. Where no part
fails, the stack holds that many values (`Evaluator.depth_eq`), which are those of the terms that the parts
are the post-orders of (`Evaluator.exists_forest`). So how an item fails can be told from the parts before it
alone: `Evaluator.Fails`. The first item that fails decides the outcome, and where none fails, the depth of
all parts does (`Evaluator.evaluate_outcome`).
-/

namespace Formula

namespace Part

def isOperand : Part → Bool
  | .operand _ => true
  | .operator _ => false

/-- Tells whether a part is an operator between two operands. -/
def isBinary : Part → Bool
  | .operand _ => false
  | .operator op => op.fixity = .binary

end Part

namespace Evaluator

/-- The number of operands less that of operators between two operands. -/
def depth (parts : List Part) : Int := parts.countP Part.isOperand - parts.countP Part.isBinary

/-- How an item fails after these parts. The operands of an operator are the values of the terms before it. -/
inductive Fails (lookup : Lookup) (bindings : Bindings) (before : List Part) : Item → Failure → Prop where
  | parse {e : ParseError} : Fails lookup bindings before (.error e) (.parse e)
  | unbound {name : String} :
    bindings.get? name = none →
    Fails lookup bindings before (.ok (.operand (.variable name))) (.eval (.undefinedVariable name))
  | rejected {name : String} {binding : Binding} {e : EvalError} :
    bindings.get? name = some binding →
    lookup name binding = .error e →
    Fails lookup bindings before (.ok (.operand (.variable name))) (.eval e)
  | starved {op : Operator} :
    depth before < op.arity →
    Fails lookup bindings before (.ok (.operator op))
      (.eval (.notEnoughOperands op.name op.arity (depth before).toNat))
  | body {op : Operator} {earlier taken : List Term} {operands : List Operand} {e : OperatorError} :
    before = (earlier ++ taken).flatMap Term.postOrder →
    taken.length = op.arity →
    taken.mapM (Term.eval lookup bindings) = .ok operands →
    op.apply operands = .error e →
    Fails lookup bindings before (.ok (.operator op)) (.eval (.invalidOperatorArgument e))

/-- No part fails after those before it. -/
def Succeeds (lookup : Lookup) (bindings : Bindings) (parts : List Part) : Prop :=
  ∀ earlier part later failure, parts = earlier ++ part :: later →
    ¬ Fails lookup bindings earlier (.ok part) failure

section

variable {lookup : Lookup} {bindings : Bindings}

/-- Depths add up. -/
lemma depth_append (parts others : List Part) : depth (parts ++ others) = depth parts + depth others := by
  simp only [depth, List.countP_append]
  omega

/-- An operator takes its operands off and puts its result there. -/
lemma depth_operator (op : Operator) : depth [.operator op] = 1 - op.arity := by
  rcases op with ⟨name, fixity, associativity, precedence, body⟩
  cases fixity <;> rfl

/-- A part raises the number of values on the stack by its own depth. -/
lemma size_of_step {stack stack' : Stack Operand} {part : Part}
    (h : step lookup bindings stack part = .ok stack') : (stack'.size : Int) = stack.size + depth [part] := by
  cases part with
  | operand o =>
    rw [Term.step_operand] at h
    cases found : Term.leaf lookup bindings o <;> rw [found] at h <;> cases h
    rfl
  | operator op =>
    change apply op stack = _ at h
    rcases apply_cases op stack with ⟨-, starved⟩ | ⟨operands, below, rfl, arity, applied⟩
    · rw [starved] at h
      cases h
    · rw [applied] at h
      cases result : Term.applied op operands <;> rw [result] at h <;> cases h
      rw [depth_operator, arity]
      simp only [Stack.size, Stack.push, List.length_cons, List.length_append, List.length_reverse]
      omega

/-- Parts that do not fail raise it by their depth. -/
lemma size_of_run {parts : List Part} {stack stack' : Stack Operand}
    (h : run lookup bindings (parts.map .ok) stack = .ok stack') :
    (stack'.size : Int) = stack.size + depth parts := by
  induction parts generalizing stack with
  | nil =>
    cases h
    exact (Int.add_zero _).symm
  | cons part rest ih =>
    obtain ⟨middle, stepped, ran⟩ := exists_of_run_cons h
    rw [ih ran, size_of_step stepped, Int.add_assoc, ← depth_append]
    rfl

/-- Where parts do not fail, the stack holds as many values as their depth says. -/
lemma depth_eq {parts : List Part} {stack : Stack Operand}
    (h : run lookup bindings (parts.map .ok) .empty = .ok stack) : depth parts = stack.size := by
  have size := size_of_run h
  rw [size]
  exact (Int.zero_add _).symm

/-- Parts that do not fail are a forest, whose values are on the stack. -/
lemma exists_forest {parts : List Part} {stack : Stack Operand}
    (h : run lookup bindings (parts.map .ok) .empty = .ok stack) :
    ∃ (ts : List Term) (values : List Operand), parts = ts.flatMap Term.postOrder ∧
      ts.mapM (Term.eval lookup bindings) = .ok values ∧ stack = ⟨values.reverse⟩ := by
  obtain ⟨ts, rfl⟩ := (operandsSuffice_iff parts).mp (.of_run h)
  have run : run lookup bindings ((ts.flatMap Term.postOrder).map .ok) .empty = _ :=
    Term.run_flatMap_postOrder ts .empty
  rw [run] at h
  cases evaluated : ts.mapM (Term.eval lookup bindings) with
  | error e =>
    rw [evaluated] at h
    cases h
  | ok values =>
    rw [evaluated] at h
    cases h
    exact ⟨ts, values, rfl, evaluated, congrArg Stack.mk (List.append_nil _)⟩

/-- Two forests have their values one after another. -/
lemma exists_of_mapM_append {ts us : List Term} {values : List Operand}
    (h : (ts ++ us).mapM (Term.eval lookup bindings) = .ok values) :
    ∃ first last, ts.mapM (Term.eval lookup bindings) = .ok first ∧
      us.mapM (Term.eval lookup bindings) = .ok last ∧ values = first ++ last := by
  rw [List.mapM_append] at h
  cases before : ts.mapM (Term.eval lookup bindings) with
  | error e =>
    rw [before] at h
    cases h
  | ok first =>
    cases behind : us.mapM (Term.eval lookup bindings) with
    | error e =>
      rw [before, behind] at h
      cases h
    | ok last =>
      rw [before, behind] at h
      exact ⟨first, last, rfl, rfl, (Except.ok.inj h).symm⟩

/-- The last values on the stack are those of the last terms. -/
lemma exists_taken {parts : List Part} {operands : List Operand} {below : Stack Operand}
    (h : run lookup bindings (parts.map .ok) .empty = .ok ⟨operands.reverse ++ below.fromTop⟩) :
    ∃ earlier taken : List Term, parts = (earlier ++ taken).flatMap Term.postOrder ∧
      taken.length = operands.length ∧ taken.mapM (Term.eval lookup bindings) = .ok operands := by
  obtain ⟨ts, values, rfl, evaluated, stack⟩ := exists_forest h
  have values_eq : values = below.fromTop.reverse ++ operands := by
    have top := congrArg (List.reverse ∘ Stack.fromTop) stack
    simpa using top.symm
  have length := Term.length_of_mapM evaluated
  rw [values_eq, List.length_append, List.length_reverse] at length
  -- the terms are split where the values are
  have split := ts.take_append_drop below.fromTop.length
  have taken_length : (ts.drop below.fromTop.length).length = operands.length := by
    rw [List.length_drop]
    omega
  rw [← split] at evaluated
  obtain ⟨first, last, -, taken, same⟩ := exists_of_mapM_append evaluated
  have last_length := (Term.length_of_mapM taken).trans taken_length
  obtain ⟨-, rfl⟩ := List.append_inj' (same.symm.trans values_eq) last_length
  exact ⟨_, _, by rw [split], taken_length, taken⟩

/-- An operator fails for want of operands, or where its body fails for the values of the terms before it. -/
lemma fails_of_apply {parts : List Part} {stack : Stack Operand} {op : Operator} {e : EvalError}
    (ran : run lookup bindings (parts.map .ok) .empty = .ok stack) (h : apply op stack = .error e) :
    Fails lookup bindings parts (.ok (.operator op)) (.eval e) := by
  rcases apply_cases op stack with ⟨few, starved⟩ | ⟨operands, below, rfl, arity, applied⟩
  · rw [starved] at h
    cases h
    have depth := depth_eq ran
    have same : stack.size = (Evaluator.depth parts).toNat := by omega
    rw [same]
    exact .starved (by omega)
  · rw [applied, Term.applied] at h
    obtain ⟨earlier, taken, before, length, evaluated⟩ := exists_taken ran
    cases result : op.apply operands with
    | ok value =>
      rw [result] at h
      cases h
    | error error =>
      rw [result] at h
      cases h
      exact .body before (length.trans arity.symm) evaluated result

/-- An item fails just where taking it after the parts before it does. -/
lemma stepItem_eq_error_iff {parts : List Part} {stack : Stack Operand} {item : Item} {failure : Failure}
    (ran : run lookup bindings (parts.map .ok) .empty = .ok stack) :
    stepItem lookup bindings stack item = .error failure ↔
      Fails lookup bindings parts item failure := by
  constructor
  · intro failed
    obtain e | (o | op) := item
    · cases failed
      exact .parse
    · rw [stepItem, Term.step_operand] at failed
      obtain x | name := o
      · cases failed
      · rw [Term.leaf] at failed
        split at failed
        · next unbound =>
          cases failed
          exact .unbound unbound
        · next binding bound =>
          cases rejected : lookup name binding with
          | ok value =>
            rw [rejected] at failed
            cases failed
          | error e =>
            rw [rejected] at failed
            cases failed
            exact .rejected bound rejected
    · change (apply op stack).mapError Failure.eval = _ at failed
      cases applied : apply op stack with
      | ok stack' =>
        rw [applied] at failed
        cases failed
      | error e =>
        rw [applied] at failed
        cases failed
        exact fails_of_apply ran applied
  · intro fails
    cases fails with
    | parse => rfl
    | unbound unbound => rw [stepItem, step, load, unbound]; rfl
    | rejected bound rejected => rw [stepItem, step, load, bound]; dsimp only; rw [rejected]; rfl
    | @starved op few =>
      have depth := depth_eq ran
      rcases apply_cases op stack with ⟨-, starved⟩ | ⟨operands, below, rfl, arity, -⟩
      · have same : (Evaluator.depth parts).toNat = stack.size := by omega
        rw [stepItem, step, starved, same]
        rfl
      · simp only [Stack.size, List.length_append, List.length_reverse] at depth
        omega
    | @body op earlier taken operands e before length evaluated failed =>
      obtain ⟨ts, values, forest, values_eq, rfl⟩ := exists_forest ran
      obtain rfl := Term.flatMap_postOrder_injective (forest.symm.trans before)
      obtain ⟨others, last, -, taken_values, rfl⟩ := exists_of_mapM_append values_eq
      obtain rfl := Except.ok.inj (evaluated.symm.trans taken_values)
      have arity := length.symm.trans (Term.length_of_mapM evaluated).symm
      have stepped : step lookup bindings ⟨operands.reverse ++ others.reverse⟩ (.operator op) = _ :=
        Term.step_operator operands arity ⟨others.reverse⟩
      rw [stepItem, List.reverse_append, stepped, Term.applied, failed]
      rfl

/-- Parts none of which fails are just those that run to their end. -/
lemma succeeds_iff {parts : List Part} :
    Succeeds lookup bindings parts ↔
      ∃ stack, run lookup bindings (parts.map .ok) .empty = .ok stack := by
  constructor
  · intro succeeds
    induction parts using List.reverseRecOn with
    | nil => exact ⟨.empty, rfl⟩
    | append_singleton parts part ih =>
      have shorter : Succeeds lookup bindings parts := by
        rintro earlier other later failure rfl
        exact succeeds earlier other (later ++ [part]) failure (by simp)
      obtain ⟨stack, ran⟩ := ih shorter
      rw [List.map_append, run_append_of_ok ran]
      cases stepped : stepItem lookup bindings stack (.ok part) with
      | ok stack' => exact ⟨stack', (run_singleton _ _).trans stepped⟩
      | error failure =>
        exact absurd ((stepItem_eq_error_iff ran).mp stepped) (succeeds parts part [] failure rfl)
  · rintro ⟨stack, ran⟩ earlier part later failure rfl fails
    rw [List.map_append] at ran
    cases start : run lookup bindings (earlier.map .ok) .empty with
    | error e =>
      rw [run_append, start] at ran
      cases ran
    | ok middle =>
      rw [run_append_of_ok start, List.map_cons, run, (stepItem_eq_error_iff start).mpr fails] at ran
      cases ran

/-- Of any items the first that fails decides, or none fails. -/
lemma exists_first (lookup : Lookup) (bindings : Bindings) (items : List Item) :
    (∃ before item after failure, items = before.map .ok ++ item :: after ∧
      Succeeds lookup bindings before ∧ Fails lookup bindings before item failure) ∨
    ∃ parts, items = parts.map .ok ∧ Succeeds lookup bindings parts := by
  induction items using List.reverseRecOn with
  | nil => exact .inr ⟨[], rfl, succeeds_iff.mpr ⟨.empty, rfl⟩⟩
  | append_singleton items item ih =>
    rcases ih with ⟨before, first, after, failure, rfl, succeeds, fails⟩ | ⟨parts, rfl, succeeds⟩
    · exact .inl ⟨before, first, after ++ [item], failure, by simp, succeeds, fails⟩
    · obtain ⟨stack, ran⟩ := succeeds_iff.mp succeeds
      cases stepped : stepItem lookup bindings stack item with
      | error failure =>
        exact .inl ⟨parts, item, [], failure, rfl, succeeds, (stepItem_eq_error_iff ran).mp stepped⟩
      | ok stack' =>
        obtain e | part := item
        · cases stepped
        · refine .inr ⟨parts ++ [part], by simp, succeeds_iff.mpr ⟨stack', ?_⟩⟩
          rw [List.map_append, run_append_of_ok ran]
          exact (run_singleton _ _).trans stepped

/-- How often an evaluation asks its source, and where it leaves it. -/
lemma evaluate_source {σ : Type} [FiniteSource σ] (s : σ) (lookup : Lookup) (bindings : Bindings) :
    let after := (evaluate lookup bindings (.ofSource s)).2
    after.pulls = asked (fun stack part => (step lookup bindings stack part).mapError Failure.eval) .empty
      (FiniteSource.items s) ∧ after.source = Source.after s after.pulls := by
  have pulls := Replay.pulls_fold (fun stack part => (step lookup bindings stack part).mapError
    Failure.eval) (fun _ e => .parse e) .empty (.ofSource s) (.start s _) rfl le_rfl rfl
  have faithful := (Session.Faithful.ofSource s).useAll [.whole (.evaluate lookup bindings)]
  refine ⟨?_, faithful.source⟩
  rw [Replay.ofSource, Nat.zero_add] at pulls
  refine Eq.trans ?_ pulls
  rw [evaluate]
  dsimp only
  split <;> rfl

/-- The first item that fails gives its failure, and is the last that is asked for. -/
lemma evaluateItems_of_first {before : List Part} {item : Item} {failure : Failure}
    (succeeds : Succeeds lookup bindings before) (fails : Fails lookup bindings before item failure)
    (after : List Item) :
    evaluateItems lookup bindings (before.map .ok ++ item :: after) = .error failure ∧
      asked (fun stack part => (step lookup bindings stack part).mapError Failure.eval) .empty
        (before.map .ok ++ item :: after) = before.length + 1 := by
  obtain ⟨stack, ran⟩ := succeeds_iff.mp succeeds
  have failed := (stepItem_eq_error_iff ran).mpr fails
  constructor
  · rw [evaluateItems, run_append_of_ok ran, run, failed]
  · rw [← foldItems_step] at ran
    rw [asked_append ran]
    obtain e | part := item
    · rfl
    · rw [asked]
      change (step lookup bindings stack part).mapError Failure.eval = _ at failed
      rw [failed]

/-- Where no item fails, the depth of all of them tells the outcome. -/
lemma evaluateItems_of_succeeds {parts : List Part} (succeeds : Succeeds lookup bindings parts) :
    0 ≤ depth parts ∧
    (depth parts = 0 → evaluateItems lookup bindings (parts.map .ok) =
      .error (.eval (.notEnoughOperands "expression" 1 0))) ∧
    (depth parts = 1 → ∃ value, evaluateItems lookup bindings (parts.map .ok) = .ok value) ∧
    ∀ count : Nat, 1 < count → depth parts = count →
      evaluateItems lookup bindings (parts.map .ok) = .error (.eval (.tooManyOperands count)) := by
  obtain ⟨⟨values⟩, ran⟩ := succeeds_iff.mp succeeds
  have size : depth parts = values.length := depth_eq ran
  rw [evaluateItems, ran]
  rcases values with _ | ⟨value, _ | ⟨second, others⟩⟩
  · simp only [List.length_nil] at size
    exact ⟨by omega, fun _ => rfl, fun one => by omega, fun count many same => by omega⟩
  · simp only [List.length_singleton] at size
    exact ⟨by omega, fun none => by omega, fun _ => ⟨value, rfl⟩, fun count many same => by omega⟩
  · simp only [List.length_cons] at size
    refine ⟨by omega, fun none => by omega, fun one => by omega, fun count many same => ?_⟩
    have count_eq : count = others.length + 1 + 1 := by omega
    rw [count_eq]
    rfl

end

/-- Of the items of a source the first that fails decides the outcome of an evaluation, and the source is
not asked for another. Where no item fails, the depth of all of them does. -/
theorem evaluate_outcome {σ : Type} [FiniteSource σ] (s : σ) (lookup : Lookup) (bindings : Bindings) :
    let items := FiniteSource.items s
    let evaluated := evaluate lookup bindings (.ofSource s)
    evaluated.1 = evaluateItems lookup bindings items ∧
    ((∃ before item after failure, items = before.map .ok ++ item :: after ∧
        Succeeds lookup bindings before ∧ Fails lookup bindings before item failure) ∨
      ∃ parts, items = parts.map .ok ∧ Succeeds lookup bindings parts) ∧
    (∀ before item after failure, items = before.map .ok ++ item :: after →
      Succeeds lookup bindings before → Fails lookup bindings before item failure →
      0 ≤ depth before ∧ evaluated.1 = .error failure ∧
        evaluated.2.pulls = before.length + 1 ∧
        evaluated.2.source = Source.after s (before.length + 1)) ∧
    ∀ parts, items = parts.map .ok → Succeeds lookup bindings parts →
      0 ≤ depth parts ∧
      (depth parts = 0 → evaluated.1 = .error (.eval (.notEnoughOperands "expression" 1 0))) ∧
      (depth parts = 1 → ∃ value, evaluated.1 = .ok value) ∧
      ∀ count : Nat, 1 < count → depth parts = count →
        evaluated.1 = .error (.eval (.tooManyOperands count)) := by
  intro items evaluated
  have value : evaluated.1 = evaluateItems lookup bindings items :=
    (Replay.Keeps.ofSource s).evaluate_eq lookup bindings
  obtain ⟨pulls, source⟩ := evaluate_source s lookup bindings
  refine ⟨value, exists_first lookup bindings items, ?_, ?_⟩
  · intro before item after failure split succeeds fails
    obtain ⟨failed, asks⟩ := evaluateItems_of_first succeeds fails after
    rw [← split] at failed asks
    have pulled : evaluated.2.pulls = before.length + 1 := pulls.trans asks
    refine ⟨(evaluateItems_of_succeeds succeeds).1, value.trans failed, pulled, ?_⟩
    rw [← pulled]
    exact source
  · intro parts split succeeds
    rw [value, split]
    exact evaluateItems_of_succeeds succeeds

/-- A difference of two numbers succeeds. -/
lemma succeeds_difference : Succeeds standardLookup .empty Term.difference.postOrder :=
  succeeds_iff.mpr ⟨⟨[.number (10 - 4)]⟩, rfl⟩

/-- After a difference a quotient lacks an operand, and what comes later is not read; two differences are
one value too many. -/
theorem evaluate_outcome_differences :
    let difference := Term.difference.postOrder
    let parse : ParseError := .mismatchedParentheses ⟨0, 1⟩
    let starved : Listed :=
      ⟨difference.map (some <| .ok ·) ++ [some (.ok (.operator Library.division)), some (.error parse)]⟩
    let twice : Listed := ⟨(difference ++ difference).map (some <| .ok ·)⟩
    let evaluated := evaluate standardLookup .empty (.ofSource starved)
    evaluated.1 = .error (.eval (.notEnoughOperands "/" 2 1)) ∧ evaluated.2.pulls = 4 ∧
      evaluated.2.source = ⟨[some (.error parse)]⟩ ∧
      (evaluate standardLookup .empty (.ofSource twice)).1 = .error (.eval (.tooManyOperands 2)) := by
  intro difference parse starved twice evaluated
  have few : depth difference < Library.division.arity := by decide
  have items : FiniteSource.items starved =
      difference.map .ok ++ .ok (.operator Library.division) :: [.error parse] :=
    Listed.items_eq_heard _
  obtain ⟨-, -, first, -⟩ := evaluate_outcome starved standardLookup .empty
  obtain ⟨-, failure, pulls, source⟩ := first _ _ _ _ items succeeds_difference (.starved few)
  have succeeds : Succeeds standardLookup .empty (difference ++ difference) :=
    succeeds_iff.mpr ⟨⟨[.number (10 - 4), .number (10 - 4)]⟩, rfl⟩
  obtain ⟨-, -, -, last⟩ := evaluate_outcome twice standardLookup .empty
  obtain ⟨-, -, -, many⟩ := last _ (Listed.items_eq _) succeeds
  exact ⟨failure, pulls, source.trans (Listed.after_eq _ _), many 2 (by decide) (by decide)⟩

end Evaluator

end Formula
