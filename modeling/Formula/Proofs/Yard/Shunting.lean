import Formula.Yard
import Mathlib.Tactic.Lemma

/-!
# Shunting sequences of tokens

A token first gets a meaning, which depends on whether an operand is expected and on nothing else in the
yard; `shunt_eq_make` divides `shunt` into this and the move that the meaning asks for. `shuntAll` takes
tokens one after another up to the first error, and `parse` lets everything pass after the last one.
What has passed already is never looked at: `parse_behind` says that a yard from which more parts have
passed goes on as it would have done without them.
-/

namespace Formula

/-- What a token asks of a yard. -/
inductive Move where
  | operand (value : Operand)
  | opening (span : Span)
  | closing (span : Span)
  | separator
  | operator (op : Operator)
  | unknown (error : ParseError)

/-- The move of a token, where an operand is expected or is not. -/
def Dialect.move (d : Dialect) (token : Token) (operandExpected : Bool) : Move :=
  match d.operand? token.text with
  | some value => .operand value
  | none =>
    if token.text = "(" then .opening token.span
    else if token.text = ")" then .closing token.span
    else if token.text = "," then .separator
    else
      match d.registry.resolve? token.text operandExpected with
      | some op => .operator op
      | none => .unknown (Yard.unknown d.registry token)

section Moves

variable {d : Dialect} {token : Token}

/-- What the dialect takes for an operand moves as one. -/
lemma Dialect.move_operand {value : Operand} (h : d.operand? token.text = some value)
    (operandExpected : Bool) : d.move token operandExpected = .operand value := by
  simp [Dialect.move, h]

/-- An open parenthesis opens, unless the dialect takes it for an operand. -/
lemma Dialect.move_opening (h : d.operand? "(" = none) (span : Span) (operandExpected : Bool) :
    d.move ⟨"(", span⟩ operandExpected = .opening span := by
  simp [Dialect.move, h]

/-- A closing parenthesis closes, unless the dialect takes it for an operand. -/
lemma Dialect.move_closing (h : d.operand? ")" = none) (span : Span) (operandExpected : Bool) :
    d.move ⟨")", span⟩ operandExpected = .closing span := by
  simp [Dialect.move, h]

/-- A comma separates, unless the dialect takes it for an operand. -/
lemma Dialect.move_separator (h : d.operand? "," = none) (span : Span) (operandExpected : Bool) :
    d.move ⟨",", span⟩ operandExpected = .separator := by
  simp [Dialect.move, h]

end Moves

namespace Yard

/-- Makes a move. -/
def make (y : Yard) : Move → Yard × Option ParseError
  | .operand value => ({ y.emit (.operand value) with operandExpected := false }, none)
  | .opening span => ({ y.hold (.opened span) with openCount := y.openCount + 1 }, none)
  | .closing span => y.close span
  | .separator => ({ y.releaseAll with operandExpected := true }, none)
  | .operator op => (y.place op, none)
  | .unknown e => (y, some e)

/-- To take a token is to make its move. -/
lemma shunt_eq_make (d : Dialect) (y : Yard) (token : Token) :
    y.shunt d token = y.make (d.move token y.operandExpected) := by
  unfold shunt Dialect.move
  cases d.operand? token.text with
  | some value => rfl
  | none =>
    simp only
    split
    · rfl
    · split
      · rfl
      · split
        · rfl
        · cases d.registry.resolve? token.text y.operandExpected <;> rfl

/-- A token that asks for a move acts as the move does. -/
lemma shunt_of_move {d : Dialect} {y : Yard} {token : Token} {move : Move}
    (h : d.move token y.operandExpected = move) : y.shunt d token = y.make move := by
  rw [shunt_eq_make, h]

/-- Takes tokens up to the first error. -/
def shuntAll (d : Dialect) (y : Yard) : List Token → Yard × Option ParseError
  | [] => (y, none)
  | token :: rest =>
    match y.shunt d token with
    | (y, none) => shuntAll d y rest
    | (y, some e) => (y, some e)

/-- Takes tokens and, if none of them is an error, their end. -/
def parse (d : Dialect) (y : Yard) (tokens : List Token) : Yard × Option ParseError :=
  match y.shuntAll d tokens with
  | (y, none) => y.finish
  | (y, some e) => (y, some e)

section Sequences

variable {d : Dialect} {y y' y'' : Yard} {token : Token} {tokens rest : List Token}

/-- Without tokens a yard is left as it is. -/
@[simp] lemma shuntAll_nil : y.shuntAll d [] = (y, none) := rfl

/-- One token is looked at here; the equations that come with `shuntAll` take `shunt` apart as well. -/
lemma shuntAll_cons_eq :
    y.shuntAll d (token :: rest) =
      match y.shunt d token with
      | (y, none) => y.shuntAll d rest
      | (y, some e) => (y, some e) :=
  rfl

/-- Tokens after the first are shunted by the yard that this has left. -/
lemma shuntAll_cons (h : y.shunt d token = (y', none)) :
    y.shuntAll d (token :: rest) = y'.shuntAll d rest := by
  rw [shuntAll_cons_eq, h]

/-- Tokens after others are shunted by the yard that these have left. -/
lemma shuntAll_append (h : y.shuntAll d tokens = (y', none)) :
    y.shuntAll d (tokens ++ rest) = y'.shuntAll d rest := by
  induction tokens generalizing y with
  | nil => cases h; rfl
  | cons token tokens ih =>
    rw [List.cons_append, shuntAll_cons_eq]
    rw [shuntAll_cons_eq] at h
    split at h
    · exact ih h
    · cases h

/-- An error ends a sequence of tokens, whatever comes after it. -/
lemma shuntAll_append_of_error {e : ParseError} (h : y.shuntAll d tokens = (y', some e)) :
    y.shuntAll d (tokens ++ rest) = (y', some e) := by
  induction tokens generalizing y with
  | nil => cases h
  | cons token tokens ih =>
    rw [List.cons_append, shuntAll_cons_eq]
    rw [shuntAll_cons_eq] at h
    split at h
    · exact ih h
    · exact h

/-- Where a sequence of tokens has no error, its first token has none. -/
lemma shunt_of_shuntAll_cons (h : y.shuntAll d (token :: rest) = (y'', none)) :
    ∃ y', y.shunt d token = (y', none) ∧ y'.shuntAll d rest = (y'', none) := by
  rw [shuntAll_cons_eq] at h
  split at h
  · next y' taken => exact ⟨y', taken, h⟩
  · cases h

/-- Where nothing fails, the tokens have no error and neither has their end. -/
lemma finish_of_parse (h : y.parse d tokens = (y'', none)) :
    ∃ y', y.shuntAll d tokens = (y', none) ∧ y'.finish = (y'', none) := by
  rw [parse] at h
  split at h
  · next y' taken => exact ⟨y', taken, h⟩
  · cases h

end Sequences

/-- The yard from which `parts` have passed before everything that has passed from `y`. -/
def behind (parts : List Part) (y : Yard) : Yard := { y with output := parts ++ y.output }

section Behind

variable (parts : List Part) (y : Yard)

/-- A part that passes comes behind what has passed before. -/
lemma emit_behind (part : Part) : (y.behind parts).emit part = (y.emit part).behind parts := by
  simp [emit, behind]

/-- What has passed before has no part in which operators are released. -/
lemma release_behind (pass : Operator → Bool) :
    (y.behind parts).release pass = (y.release pass).behind parts := by
  simp [release, behind]

/-- What has passed before has no part in which function passes. -/
lemma call_behind : (y.behind parts).call = y.call.behind parts := by
  obtain ⟨output, stack, expected, count⟩ := y
  cases stack with
  | nil => rfl
  | cons held below =>
    cases held with
    | opened span => rfl
    | operator op => by_cases h : op.fixity = .function <;> simp [call, behind, emit, h]

/-- What has passed before has no part in closing a group. -/
lemma closeTop_behind (span : Span) :
    (y.behind parts).closeTop span = ((y.closeTop span).1.behind parts, (y.closeTop span).2) := by
  obtain ⟨output, stack, expected, count⟩ := y
  cases stack with
  | nil => rfl
  | cons held below =>
    cases held with
    | opened opening =>
      have called := call_behind parts ⟨output, below, expected, count - 1⟩
      simp only [closeTop, behind] at called ⊢
      rw [called]
    | operator op => rfl

/-- What has passed before has no part in placing an operator. -/
lemma place_behind (op : Operator) : (y.behind parts).place op = (y.place op).behind parts := by
  unfold place
  split
  · rfl
  · rfl
  · rw [emit_behind]; rfl
  · rw [release_behind]; rfl

/-- A move is the same whatever has passed before. -/
lemma make_behind (move : Move) :
    (y.behind parts).make move = ((y.make move).1.behind parts, (y.make move).2) := by
  cases move with
  | operand value => simp only [make, emit_behind]; rfl
  | opening span => rfl
  | closing span =>
    simp only [make, close, releaseAll]
    rw [release_behind, closeTop_behind]
  | separator => simp only [make, releaseAll, release_behind]; rfl
  | operator op => simp only [make, place_behind]
  | unknown e => rfl

/-- What has passed before has no part in how a token is shunted. -/
lemma shunt_behind (d : Dialect) (token : Token) :
    (y.behind parts).shunt d token = ((y.shunt d token).1.behind parts, (y.shunt d token).2) := by
  simp only [shunt_eq_make]
  exact make_behind parts y (d.move token y.operandExpected)

/-- What has passed before has no part in how tokens are shunted. -/
lemma shuntAll_behind (d : Dialect) (tokens : List Token) :
    (y.behind parts).shuntAll d tokens =
      ((y.shuntAll d tokens).1.behind parts, (y.shuntAll d tokens).2) := by
  induction tokens generalizing y with
  | nil => rfl
  | cons token rest ih =>
    rw [shuntAll_cons_eq, shunt_behind, shuntAll_cons_eq]
    obtain ⟨y', error⟩ := y.shunt d token
    cases error with
    | none => exact ih y'
    | some e => rfl

/-- What has passed before has no part in whether a parenthesis is left open. -/
lemma finishTop_behind :
    (y.behind parts).finishTop = (y.finishTop.1.behind parts, y.finishTop.2) := by
  obtain ⟨output, stack, expected, count⟩ := y
  cases stack with
  | nil => rfl
  | cons held below => cases held <;> rfl

/-- What has passed before has no part in the end of a yard. -/
lemma finish_behind : (y.behind parts).finish = (y.finish.1.behind parts, y.finish.2) := by
  unfold finish
  change (if 0 < y.openCount then _ else _) = _
  split
  · rfl
  · rw [releaseAll, release_behind, finishTop_behind]
    rfl

/-- All tokens and their end do the same whatever has passed before. -/
lemma parse_behind (d : Dialect) (tokens : List Token) :
    (y.behind parts).parse d tokens =
      ((y.parse d tokens).1.behind parts, (y.parse d tokens).2) := by
  unfold parse
  rw [shuntAll_behind]
  obtain ⟨y', error⟩ := y.shuntAll d tokens
  cases error with
  | none => exact finish_behind parts y'
  | some e => rfl

end Behind

end Yard

end Formula
