import Formula.Proofs.Library.Numeric
import Formula.Proofs.Replay.Fold

/-!
# Safety of the library

An evaluation takes operands that fulfil a condition to such operands, or fails in an allowed way, if looking
up variables and applying operators do: `Evaluator.Preserves`. For operators of the library the fixity agrees
with the number of operands that the body takes, so no operator is given too few or too many; and where no
variable is bound to a variable, there are only numbers on the stack.
-/

namespace Formula

/-- A failure that tells of an operator given another number of operands than its body takes. -/
inductive Failure.OfArity : Failure → Prop where
  | argument (operator : String) (expected actual : Nat) :
    OfArity (.eval (.invalidOperatorArgument (.wrongArity operator expected actual)))

/-- A failure that tells of an operand that is no number. -/
inductive Failure.OfType : Failure → Prop where
  | argument (operator : String) : OfType (.eval (.invalidOperatorArgument (.notANumber operator)))
  | result (operand : Operand) : OfType (.eval (.unresolvedResult operand))

/-- What is not a variable itself does not stand for one. -/
lemma Binding.eq_of_operand? (binding : Binding) {name : String}
    (h : binding.operand? = some (.variable name)) : binding = .operand (.variable name) := by
  cases binding with
  | operand o => exact congrArg Binding.operand (Option.some.inj h)
  | raw value =>
    cases value with
    | string text =>
      rw [operand?] at h
      obtain ⟨x, -, same⟩ := Option.map_eq_some_iff.mp h
      cases same
    | _ => cases h

namespace Evaluator

/-- A result fulfils one condition, or a failure another. -/
def Meets {α : Type} (holds : α → Prop) (allowed : Failure → Prop) : Except Failure α → Prop
  | .ok a => holds a
  | .error failure => allowed failure

/-- A failure that is not allowed is not the outcome. -/
lemma Meets.ne_error {α : Type} {holds : α → Prop} {allowed : Failure → Prop} {outcome : Except Failure α}
    {failure : Failure} (h : Meets holds allowed outcome) (other : ¬ allowed failure) :
    outcome ≠ .error failure := by
  rintro rfl
  exact other h

/-- All operands on a stack fulfil a condition. -/
def AllOn (holds : Operand → Prop) (stack : Stack Operand) : Prop := ∀ o ∈ stack.fromTop, holds o

/-- Operands that variables stand for fulfil a condition, and so do the results of these operators for such
operands, or else the failure is an allowed one, as are those of reading and of counting. -/
structure Preserves (lookup : Lookup) (bindings : Bindings) (items : List Item) (holds : Operand → Prop)
    (allowed : Failure → Prop) : Prop where
  parse : ∀ e, allowed (.parse e)
  few : ∀ context expected actual, allowed (.eval (.notEnoughOperands context expected actual))
  many : ∀ count, allowed (.eval (.tooManyOperands count))
  leaf : ∀ o, Meets holds allowed ((Term.leaf lookup bindings o).mapError .eval)
  operator : ∀ op operands, .ok (.operator op) ∈ items → op.arity = operands.length →
    (∀ o ∈ operands, holds o) → Meets holds allowed ((Term.applied op operands).mapError .eval)

namespace Preserves

variable {lookup : Lookup} {bindings : Bindings} {items : List Item} {holds : Operand → Prop}
  {allowed : Failure → Prop} {stack : Stack Operand}

/-- A result that is pushed fulfils the condition on the stack as well. -/
lemma meets_push {outcome : Except EvalError Operand} (h : Meets holds allowed (outcome.mapError .eval))
    (others : AllOn holds stack) :
    Meets (AllOn holds) allowed ((outcome.map stack.push).mapError .eval) := by
  cases outcome with
  | error e => exact h
  | ok value => exact List.forall_mem_cons.mpr ⟨h, others⟩

/-- One item preserves the condition. -/
lemma stepItem (h : Preserves lookup bindings items holds allowed) {item : Item} (member : item ∈ items)
    (all : AllOn holds stack) :
    Meets (AllOn holds) allowed (Evaluator.stepItem lookup bindings stack item) := by
  obtain e | (o | op) := item
  · exact h.parse e
  · rw [Evaluator.stepItem, Term.step_operand]
    exact meets_push (h.leaf o) all
  · change Meets _ _ ((apply op stack).mapError Failure.eval)
    rcases apply_cases op stack with ⟨-, starved⟩ | ⟨operands, below, rfl, arity, applied⟩
    · rw [starved]
      exact h.few _ _ _
    · obtain ⟨taken, others⟩ := List.forall_mem_append.mp all
      rw [applied]
      refine meets_push (h.operator op operands member arity fun o inside => ?_) others
      exact taken o (List.mem_reverse.mpr inside)

/-- A run preserves it. -/
lemma run (h : Preserves lookup bindings items holds allowed) {others : List Item} (members : others ⊆ items)
    (all : AllOn holds stack) :
    Meets (AllOn holds) allowed (Evaluator.run lookup bindings others stack) := by
  induction others generalizing stack with
  | nil => exact all
  | cons item rest ih =>
    obtain ⟨member, later⟩ := List.cons_subset.mp members
    have stepped := h.stepItem member all
    rw [Evaluator.run]
    cases outcome : Evaluator.stepItem lookup bindings stack item with
    | error failure =>
      rw [outcome] at stepped
      exact stepped
    | ok stack' =>
      rw [outcome] at stepped
      exact ih later stepped

/-- The value of the items fulfils it. -/
lemma evaluateItems (h : Preserves lookup bindings items holds allowed) :
    Meets holds allowed (Evaluator.evaluateItems lookup bindings items) := by
  have empty : AllOn holds .empty := nofun
  have ran := h.run (List.Subset.refl items) empty
  rw [Evaluator.evaluateItems]
  cases outcome : Evaluator.run lookup bindings items .empty with
  | error failure =>
    rw [outcome] at ran
    exact ran
  | ok stack =>
    rw [outcome] at ran
    obtain ⟨values⟩ := stack
    rcases values with _ | ⟨value, _ | ⟨second, rest⟩⟩
    · exact h.few _ _ _
    · exact ran value List.mem_cons_self
    · exact h.many _

end Preserves

variable {bindings : Bindings} {items : List Item}

/-- The standard look-up of an operand finds a number, unless a variable is bound to a variable, or fails
at the variable. -/
lemma leaf_cases (bindings : Bindings) (o : Operand) :
    (∃ value, Term.leaf standardLookup bindings o = .ok value ∧
      ((∀ name other, bindings.get? name ≠ some (.operand (.variable other))) → value.IsNumber)) ∨
    ∃ name, Term.leaf standardLookup bindings o = .error (.undefinedVariable name) ∨
      Term.leaf standardLookup bindings o = .error (.invalidVariableType name) := by
  obtain x | name := o
  · exact .inl ⟨.number x, rfl, fun _ => ⟨x, rfl⟩⟩
  · rw [Term.leaf]
    cases bound : bindings.get? name with
    | none => exact .inr ⟨name, .inl rfl⟩
    | some binding =>
      dsimp only
      rw [standardLookup]
      cases found : binding.operand? with
      | none => exact .inr ⟨name, .inr rfl⟩
      | some value =>
        refine .inl ⟨value, rfl, fun unnamed => ?_⟩
        obtain x | other := value
        · exact ⟨x, rfl⟩
        · rw [binding.eq_of_operand? found] at bound
          exact absurd bound (unnamed name other)

/-- Operators over numbers are given as many operands as their bodies take. -/
lemma preserves_arity (numeric : ∀ op, .ok (.operator op) ∈ items → op.Numeric) :
    Preserves standardLookup bindings items (fun _ => True) (fun failure => ¬ failure.OfArity) where
  parse _ := nofun
  few _ _ _ := nofun
  many _ := nofun
  leaf o := by
    rcases leaf_cases bindings o with ⟨value, found, -⟩ | ⟨name, failed | failed⟩
    · rw [found]
      trivial
    · rw [failed]
      exact nofun
    · rw [failed]
      exact nofun
  operator op operands member arity _ := by
    rcases (numeric op member).applied_cases arity with calculated | ⟨-, failed⟩
    · generalize Term.applied op operands = outcome at calculated
      cases calculated with
      | number x => trivial
      | domain name reason => exact nofun
    · rw [failed]
      exact nofun

/-- They are given numbers, if no variable is bound to a variable. -/
lemma preserves_type (numeric : ∀ op, .ok (.operator op) ∈ items → op.Numeric)
    (unnamed : ∀ name other, bindings.get? name ≠ some (.operand (.variable other))) :
    Preserves standardLookup bindings items Operand.IsNumber (fun failure => ¬ failure.OfType) where
  parse _ := nofun
  few _ _ _ := nofun
  many _ := nofun
  leaf o := by
    rcases leaf_cases bindings o with ⟨value, found, number⟩ | ⟨name, failed | failed⟩
    · rw [found]
      exact number unnamed
    · rw [failed]
      exact nofun
    · rw [failed]
      exact nofun
  operator op operands member arity numbers := by
    have calculated := (numeric op member).calculated arity numbers
    generalize Term.applied op operands = outcome at calculated
    cases calculated with
    | number x => exact ⟨x, rfl⟩
    | domain name reason => exact nofun

/-- Asking for a number adds no failure but that the value is none. -/
lemma meets_insistOnNumber {holds : Operand → Prop} {allowed : Failure → Prop}
    {outcome : Except Failure Operand} (h : Meets holds allowed outcome)
    (others : ∀ name, holds (.variable name) → allowed (.eval (.unresolvedResult (.variable name)))) :
    Meets (fun _ => True) allowed (insistOnNumber outcome) := by
  cases outcome with
  | error failure => exact h
  | ok operand =>
    obtain x | name := operand
    · trivial
    · exact others name h

/-- Where the operators are those of the library, they are given as many operands as their bodies take. If
besides no variable is bound to a variable, they are given numbers, and every value is a number. -/
theorem evaluate_library {σ : Type} [FiniteSource σ] (s : σ) (bindings : Bindings)
    (library : ∀ op : Operator, .ok (.operator op) ∈ FiniteSource.items s →
      ∃ entry ∈ Library.math, entry.2 = op) :
    let outcome := (evaluate standardLookup bindings (.ofSource s)).1
    (∀ operator expected actual,
      let surprise := Failure.eval (.invalidOperatorArgument (.wrongArity operator expected actual))
      outcome ≠ .error surprise ∧ insistOnNumber outcome ≠ .error surprise) ∧
    ((∀ name other, bindings.get? name ≠ some (.operand (.variable other))) →
      (∀ operator,
        let surprise := Failure.eval (.invalidOperatorArgument (.notANumber operator))
        outcome ≠ .error surprise ∧ insistOnNumber outcome ≠ .error surprise) ∧
      (∀ value, outcome = .ok value → ∃ x, value = .number x) ∧
      ∀ value, outcome ≠ .error (.eval (.unresolvedResult value)) ∧
        insistOnNumber outcome ≠ .error (.eval (.unresolvedResult value))) := by
  intro outcome
  have value : outcome = evaluateItems standardLookup bindings (FiniteSource.items s) :=
    (Replay.Keeps.ofSource s).evaluate_eq standardLookup bindings
  have numeric (op : Operator) (member : .ok (.operator op) ∈ FiniteSource.items s) : op.Numeric := by
    obtain ⟨entry, listed, rfl⟩ := library op member
    exact Library.numeric_of_mem_math entry listed
  constructor
  · have arity : Meets _ _ outcome :=
      value ▸ (preserves_arity numeric : Preserves standardLookup bindings _ _ _).evaluateItems
    have number := meets_insistOnNumber arity fun _ _ => nofun
    intro operator expected actual surprise
    have surprising : ¬ ¬ surprise.OfArity := not_not.mpr (.argument operator expected actual)
    exact ⟨arity.ne_error surprising, number.ne_error surprising⟩
  · intro unnamed
    have type : Meets _ _ outcome := value ▸ (preserves_type numeric unnamed).evaluateItems
    have number := meets_insistOnNumber type fun _ same => absurd same nofun
    refine ⟨fun operator => ?_, fun result found => ?_, fun result => ?_⟩
    · intro surprise
      have surprising : ¬ ¬ surprise.OfType := not_not.mpr (.argument operator)
      exact ⟨type.ne_error surprising, number.ne_error surprising⟩
    · rw [found] at type
      exact type
    · have surprising : ¬ ¬ Failure.OfType _ := not_not.mpr (.result result)
      exact ⟨type.ne_error surprising, number.ne_error surprising⟩

/-- The difference of a number and of what `:y` is bound to is a number. -/
theorem evaluate_library_difference :
    let parts := [.operand (.number 10), .operand (.variable ":y"), .operator Library.subtraction]
    let s : Listed := ⟨parts.map (some <| .ok ·)⟩
    let bindings : Bindings := Dictionary.empty.insert ":y" (.raw (.integer 4))
    let outcome := (evaluate standardLookup bindings (.ofSource s)).1
    (∀ op : Operator, .ok (.operator op) ∈ FiniteSource.items s → ∃ entry ∈ Library.math, entry.2 = op) ∧
      (∀ name other, bindings.get? name ≠ some (.operand (.variable other))) ∧
      outcome ≠ .error (.eval (.invalidOperatorArgument (.wrongArity "-" 2 1))) ∧
      outcome ≠ .error (.eval (.invalidOperatorArgument (.notANumber "-"))) ∧
      ∃ value, outcome = .ok value ∧ ∃ x, value = .number x := by
  intro parts s bindings outcome
  have items : FiniteSource.items s = parts.map .ok := Listed.items_eq parts
  have library (op : Operator) (member : .ok (.operator op) ∈ FiniteSource.items s) :
      ∃ entry ∈ Library.math, entry.2 = op := by
    have same : op = Library.subtraction := by simpa [items, parts] using member
    exact ⟨(["-"], Library.subtraction), by simp [Library.math, Library.Family.catalogue], same.symm⟩
  have unnamed (name other : String) : bindings.get? name ≠ some (.operand (.variable other)) := by
    rw [Dictionary.get?_insert]
    split <;> exact nofun
  have safe := evaluate_library s bindings library
  have typed := safe.2 unnamed
  have value : outcome = .ok (.number (10 - Number.ofInt 4)) := by
    have evaluated : outcome = _ := (Replay.Keeps.ofSource s).evaluate_eq standardLookup bindings
    rw [evaluated, items]
    rfl
  exact ⟨library, unnamed, (safe.1 _ _ _).1, (typed.1 _).1, _, value, typed.2.1 _ value⟩

end Evaluator
end Formula
