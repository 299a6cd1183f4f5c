import Formula.Proofs.Replay.Fold
import Formula.Proofs.Yard.Group

/-!
# Places

The place of a token decides nothing: it is kept with an open parenthesis and told in errors. To take tokens
without their places leads to the same yard without its places (`shunt_unplaced`, `parse_unplaced`), so tokens
with the same texts are read alike and have the same value, up to the place that an error tells.
-/

namespace Formula

def ParseError.unplaced : ParseError → ParseError
  | .unknownToken token _ => .unknownToken token default
  | .unknownFunction name _ => .unknownFunction name default
  | .mismatchedParentheses _ => .mismatchedParentheses default

def Token.unplaced (t : Token) : Token := { t with span := default }

/-- An item with no place, should it be an error. -/
def Item.unplaced : Item → Item := Except.mapError ParseError.unplaced

/-- A failure with no place, should it be one of reading. -/
def Failure.unplaced : Failure → Failure
  | .parse e => .parse e.unplaced
  | .eval e => .eval e

def Held.unplaced : Held → Held
  | .opened _ => .opened default
  | .operator op => .operator op

def Move.unplaced : Move → Move
  | .opening _ => .opening default
  | .closing _ => .closing default
  | .unknown e => .unknown e.unplaced
  | move => move

/-- A token without its place is the same error without a place. -/
lemma Yard.unknown_unplaced (registry : Registry) (token : Token) :
    Yard.unknown registry token.unplaced = (Yard.unknown registry token).unplaced := by
  unfold Yard.unknown
  rw [show token.unplaced.text = token.text from rfl]
  split <;> rfl

/-- A token without its place makes the same move without a place. -/
lemma Dialect.move_unplaced (d : Dialect) (token : Token) (operandExpected : Bool) :
    d.move token.unplaced operandExpected = (d.move token operandExpected).unplaced := by
  unfold move
  rw [show token.unplaced.text = token.text from rfl]
  cases d.operand? token.text with
  | some value => rfl
  | none =>
    simp only
    by_cases opens : token.text = "("
    · rw [if_pos opens, if_pos opens]
      rfl
    · by_cases closes : token.text = ")"
      · rw [if_neg opens, if_neg opens, if_pos closes, if_pos closes]
        rfl
      · by_cases separates : token.text = ","
        · rw [if_neg opens, if_neg opens, if_neg closes, if_neg closes, if_pos separates, if_pos separates]
          rfl
        · rw [if_neg opens, if_neg opens, if_neg closes, if_neg closes, if_neg separates,
            if_neg separates]
          cases d.registry.resolve? token.text operandExpected with
          | some op => rfl
          | none => exact congrArg Move.unknown (Yard.unknown_unplaced d.registry token)

namespace Yard

def unplaced (y : Yard) : Yard := { y with stack := y.stack.map Held.unplaced }

/-- The outcome of a step with no places. -/
abbrev unplacedOutcome : Yard × Option ParseError → Yard × Option ParseError :=
  Prod.map unplaced (Option.map ParseError.unplaced)

section Steps

variable (y : Yard)

/-- A stack is split at the same place whatever the places of its parentheses are. -/
lemma split_unplaced (pass : Operator → Bool) (stack : List Held) :
    Yard.split pass (stack.map Held.unplaced) =
      ((Yard.split pass stack).1, (Yard.split pass stack).2.map Held.unplaced) := by
  induction stack with
  | nil => rfl
  | cons held rest ih =>
    cases held with
    | opened span => rfl
    | operator op =>
      simp only [List.map_cons, Held.unplaced, Yard.split, ih]
      split <;> rfl

/-- The operators that are released do not depend on places. -/
lemma release_unplaced (pass : Operator → Bool) :
    y.unplaced.release pass = (y.release pass).unplaced := by
  simp only [release, unplaced, split_unplaced]

/-- The function that passes does not depend on places. -/
lemma call_unplaced : y.unplaced.call = y.call.unplaced := by
  obtain ⟨output, stack, expected, count⟩ := y
  cases stack with
  | nil => rfl
  | cons held below =>
    cases held with
    | opened span => rfl
    | operator op => by_cases h : op.fixity = .function <;> simp [call, unplaced, Held.unplaced, emit, h]

/-- Closing a group depends on places only for the one that an error names. -/
lemma closeTop_unplaced (span : Span) :
    y.unplaced.closeTop default = unplacedOutcome (y.closeTop span) := by
  obtain ⟨output, stack, expected, count⟩ := y
  cases stack with
  | nil => rfl
  | cons held below =>
    cases held with
    | opened opening =>
      have called := call_unplaced ⟨output, below, expected, count - 1⟩
      simp only [unplaced] at called
      simp only [closeTop, unplaced, List.map_cons, Held.unplaced, called]
      rfl
    | operator op => rfl

/-- Placing an operator does not depend on places. -/
lemma place_unplaced (op : Operator) : y.unplaced.place op = (y.place op).unplaced := by
  unfold place
  split
  · rfl
  · rfl
  · rfl
  · rw [release_unplaced]
    rfl

/-- A move depends on places only for the one that an error names. -/
lemma make_unplaced (move : Move) : y.unplaced.make move.unplaced = unplacedOutcome (y.make move) := by
  cases move with
  | operand value => rfl
  | opening span => rfl
  | closing span =>
    simp only [Move.unplaced, make, close, releaseAll, release_unplaced]
    exact closeTop_unplaced _ span
  | separator =>
    simp only [Move.unplaced, make, releaseAll, release_unplaced]
    rfl
  | operator op =>
    simp only [Move.unplaced, make, place_unplaced]
    rfl
  | unknown e => rfl

/-- A token is shunted in the same way without its place. -/
lemma shunt_unplaced (d : Dialect) (token : Token) :
    y.unplaced.shunt d token.unplaced = unplacedOutcome (y.shunt d token) := by
  rw [shunt_eq_make, shunt_eq_make, Dialect.move_unplaced]
  exact make_unplaced y _

/-- Tokens are shunted in the same way without their places. -/
lemma shuntAll_unplaced (d : Dialect) (tokens : List Token) :
    y.unplaced.shuntAll d (tokens.map Token.unplaced) = unplacedOutcome (y.shuntAll d tokens) := by
  induction tokens generalizing y with
  | nil => rfl
  | cons token rest ih =>
    rw [List.map_cons, shuntAll_cons_eq, shuntAll_cons_eq, shunt_unplaced]
    obtain ⟨y', error⟩ := y.shunt d token
    cases error with
    | none => exact ih y'
    | some e => rfl

/-- The topmost open parenthesis is found whatever its place is. -/
lemma topmostOpen?_unplaced (stack : List Held) :
    topmostOpen? (stack.map Held.unplaced) = (topmostOpen? stack).map fun _ => default := by
  induction stack with
  | nil => rfl
  | cons held rest ih =>
    cases held with
    | opened span => rfl
    | operator op => exact ih

/-- A parenthesis that is left open is found whatever the places are. -/
lemma finishTop_unplaced : y.unplaced.finishTop = unplacedOutcome y.finishTop := by
  obtain ⟨output, stack, expected, count⟩ := y
  cases stack with
  | nil => rfl
  | cons held below => cases held <;> rfl

/-- The end of a reading depends on places only for the one that an error names. -/
lemma finish_unplaced : y.unplaced.finish = unplacedOutcome y.finish := by
  unfold finish
  change (if 0 < y.openCount then _ else _) = _
  split
  · simp only [unplaced, topmostOpen?_unplaced]
    cases topmostOpen? y.stack <;> rfl
  · rw [releaseAll, release_unplaced, finishTop_unplaced]
    rfl

/-- Tokens and their end do the same without their places. -/
lemma parse_unplaced (d : Dialect) (tokens : List Token) :
    y.unplaced.parse d (tokens.map Token.unplaced) = unplacedOutcome (y.parse d tokens) := by
  rw [parse, parse, shuntAll_unplaced]
  obtain ⟨y', error⟩ := y.shuntAll d tokens
  cases error with
  | none => exact finish_unplaced y'
  | some e => rfl

end Steps

/-- An outcome without places yields the same items without places. -/
lemma yielded_unplaced (outcome : Yard × Option ParseError) :
    yielded (unplacedOutcome outcome) = (yielded outcome).map Item.unplaced := by
  obtain ⟨y, error⟩ := outcome
  have parts : (y.output.map Except.ok).map Item.unplaced = y.output.map Except.ok := by
    rw [List.map_map]
    rfl
  cases error with
  | none => simp [yielded, unplaced, parts]
  | some e =>
    rw [yielded, yielded, List.map_append, parts]
    rfl

end Yard

namespace Dialect

variable (d : Dialect) {tokens tokens' : List Token}

/-- Tokens without their places are read as the same items without places. -/
lemma read_unplaced (tokens : List Token) :
    d.read (tokens.map Token.unplaced) = (d.read tokens).map Item.unplaced := by
  rw [read_eq_yielded, read_eq_yielded, ← Yard.yielded_unplaced, ← Yard.parse_unplaced]
  rfl

/-- Tokens with the same texts are read alike. -/
lemma read_of_texts (same : tokens.map Token.text = tokens'.map Token.text) :
    (d.read tokens).map Item.unplaced = (d.read tokens').map Item.unplaced := by
  have texts (tokens : List Token) :
      tokens.map Token.unplaced = (tokens.map Token.text).map fun text => ⟨text, default⟩ := by
    rw [List.map_map]
    rfl
  rw [← read_unplaced, ← read_unplaced, texts, texts, same]

end Dialect

namespace Evaluator

variable (lookup : Lookup) (bindings : Bindings)

/-- A failure of the evaluation tells no place. -/
lemma unplaced_eval {α : Type} (outcome : Except EvalError α) :
    (outcome.mapError Failure.eval).mapError Failure.unplaced = outcome.mapError Failure.eval := by
  cases outcome <;> rfl

/-- An item without a place does the same step, or fails without a place. -/
lemma stepItem_unplaced (stack : Stack Operand) (item : Item) :
    stepItem lookup bindings stack item.unplaced =
      (stepItem lookup bindings stack item).mapError Failure.unplaced := by
  cases item with
  | error e => rfl
  | ok part => exact (unplaced_eval (step lookup bindings stack part)).symm

/-- Items without places are run to the same stack, or the same failure without a place. -/
lemma run_unplaced (items : List Item) (stack : Stack Operand) :
    run lookup bindings (items.map Item.unplaced) stack =
      (run lookup bindings items stack).mapError Failure.unplaced := by
  induction items generalizing stack with
  | nil => rfl
  | cons item rest ih =>
    rw [List.map_cons, run, run, stepItem_unplaced]
    cases stepItem lookup bindings stack item with
    | ok stack' => exact ih stack'
    | error e => rfl

/-- The value of items is the same without their places. -/
lemma evaluateItems_unplaced (items : List Item) :
    evaluateItems lookup bindings (items.map Item.unplaced) =
      (evaluateItems lookup bindings items).mapError Failure.unplaced := by
  rw [evaluateItems, evaluateItems, run_unplaced]
  cases run lookup bindings items .empty with
  | error e => rfl
  | ok stack => exact (unplaced_eval (result stack)).symm

end Evaluator

end Formula
