import Formula.Dialect
import Formula.Part

/-!
# The shunting yard

Brings tokens into reverse Polish order. Operands pass at once; operators wait on a stack until their
right operand is complete, and an open parenthesis on the stack keeps apart what is inside it.
Nothing is looked at twice, so every step is a function of the state and one token.
-/

namespace Formula

/-- What waits on the stack. -/
inductive Held where
  /-- An open parenthesis and its place. -/
  | opened (span : Span)
  | operator (op : Operator)

/-- Tells whether a waiting operator is complete when an operator between two operands comes. -/
def Operator.precedes (waiting coming : Operator) : Bool :=
  match coming.associativity with
  | .left => coming.precedence ≤ waiting.precedence
  | .right => coming.precedence < waiting.precedence
  | .none => false

/-- The state of the yard: the parts that have passed, and the stack with its top first. -/
structure Yard where
  output : List Part
  stack : List Held
  /-- Whether an operand or what comes before one is expected next. -/
  operandExpected : Bool
  /-- The number of open parentheses. -/
  openCount : Nat

namespace Yard

def empty : Yard := ⟨[], [], true, 0⟩

/-- The operators on top of a stack for which `pass` holds, down to the first for which it does not
or to an open parenthesis; and the stack below them. -/
def split (pass : Operator → Bool) : List Held → List Operator × List Held
  | .operator op :: rest =>
    if pass op then
      let (ops, below) := split pass rest
      (op :: ops, below)
    else ([], .operator op :: rest)
  | stack => ([], stack)

def emit (y : Yard) (part : Part) : Yard := { y with output := y.output ++ [part] }

/-- Lets the operators on top of the stack pass while `pass` holds. -/
def release (y : Yard) (pass : Operator → Bool) : Yard :=
  let (ops, below) := split pass y.stack
  { y with output := y.output ++ ops.map .operator, stack := below }

/-- Lets the operators above the nearest open parenthesis pass. -/
def releaseAll (y : Yard) : Yard := y.release fun _ => true

/-- Puts something on the stack, after which an operand is expected. -/
def hold (y : Yard) (held : Held) : Yard :=
  { y with stack := held :: y.stack, operandExpected := true }

/-- Lets the function pass of which the group just closed was the operand. -/
def call (y : Yard) : Yard :=
  match y.stack with
  | .operator op :: below =>
    if op.fixity = .function then { y with stack := below }.emit (.operator op) else y
  | _ => y

/-- Takes an open parenthesis off the top of the stack; the group it opened is an operand. -/
def closeTop (y : Yard) (span : Span) : Yard × Option ParseError :=
  match y.stack with
  | .opened _ :: below =>
    ({ { y with stack := below, openCount := y.openCount - 1 }.call with operandExpected := false },
      none)
  | _ => (y, some (.mismatchedParentheses span))

/-- Closes the nearest open parenthesis. -/
def close (y : Yard) (span : Span) : Yard × Option ParseError := y.releaseAll.closeTop span

def place (y : Yard) (op : Operator) : Yard :=
  match op.fixity with
  | .unaryPrefix | .function => y.hold (.operator op)
  | .unaryPostfix => { y.emit (.operator op) with operandExpected := false }
  | .binary => (y.release (·.precedes op)).hold (.operator op)

/-- The error of a token that spells no operator where it stands. -/
def unknown (registry : Registry) (token : Token) : ParseError :=
  if Lexer.isWord token.text && (registry.resolve? token.text true).isNone then
    .unknownFunction token.text token.span
  else
    .unknownToken token.text token.span

/-- Takes a token. What passed before an error has passed. -/
def shunt (d : Dialect) (y : Yard) (token : Token) : Yard × Option ParseError :=
  match d.operand? token.text with
  | some operand => ({ y.emit (.operand operand) with operandExpected := false }, none)
  | none =>
    if token.text = "(" then
      ({ y.hold (.opened token.span) with openCount := y.openCount + 1 }, none)
    else if token.text = ")" then y.close token.span
    else if token.text = "," then ({ y.releaseAll with operandExpected := true }, none)
    else
      match d.registry.resolve? token.text y.operandExpected with
      | some op => (y.place op, none)
      | none => (y, some (unknown d.registry token))

/-- The place of the topmost open parenthesis. -/
def topmostOpen? : List Held → Option Span
  | [] => none
  | .opened span :: _ => some span
  | .operator _ :: rest => topmostOpen? rest

/-- Takes an open parenthesis off the top of the stack, which is an error where no token is left. -/
def finishTop (y : Yard) : Yard × Option ParseError :=
  match y.stack with
  | .opened span :: below => ({ y with stack := below }, some (.mismatchedParentheses span))
  | _ => (y, none)

/-- Lets everything pass when no token is left, unless a parenthesis is still open. -/
def finish (y : Yard) : Yard × Option ParseError :=
  if 0 < y.openCount then
    (y, some (.mismatchedParentheses ((topmostOpen? y.stack).getD default)))
  else
    y.releaseAll.finishTop

end Yard

end Formula
