import Formula.Bindings
import Formula.Replay
import Formula.Stack

/-!
# Evaluation

Runs the parts of an expression on a stack of operands. An operand is pushed, a variable after it has
been looked up; an operator takes its operands from the stack and pushes its result. The first item
that fails decides: `Evaluator.run` says so for a list of items, and `Evaluator.evaluate` pulls no
item after it.
-/

namespace Formula

/-- Why the parts of an expression have no value. -/
inductive EvalError where
  /-- Something needed more operands than there were. -/
  | notEnoughOperands (context : String) (expected actual : Nat)
  /-- More than one value was left. -/
  | tooManyOperands (count : Nat)
  | invalidOperatorArgument (error : OperatorError)
  | undefinedVariable (name : String)
  | invalidVariableType (name : String)
  /-- The value is not a number. -/
  | unresolvedResult (operand : Operand)
deriving DecidableEq

namespace EvalError

def message : EvalError → String
  | .notEnoughOperands context expected actual =>
    s!"Not enough operands for {context}, expected {expected} but found {actual}"
  | .tooManyOperands count => s!"Too many operands, {count} values were left after evaluation"
  | .invalidOperatorArgument error => s!"Invalid operator argument: {error.message}"
  | .undefinedVariable name => s!"Undefined variable '{name}'"
  | .invalidVariableType name => s!"Variable '{name}' is not bound to a number"
  | .unresolvedResult operand =>
    s!"Expression evaluated to {operand.render}, which is not a number"

/-- A stack error, told by what needed the operands. -/
def ofStackError (context : String) : StackError → EvalError
  | .notEnoughElements expected actual => .notEnoughOperands context expected actual

end EvalError

/-- Why an expression has no value. -/
inductive Failure where
  | parse (error : ParseError)
  | eval (error : EvalError)
deriving DecidableEq

def Failure.message : Failure → String
  | .parse error => error.message
  | .eval error => error.message

/-- How variables get their values: the operand for a name and what the name is bound to. -/
abbrev Lookup := String → Binding → Except EvalError Operand

/-- Takes operands and numbers as they are, and numerals in strings. -/
def standardLookup : Lookup := fun name binding =>
  match binding.operand? with
  | some operand => .ok operand
  | none => .error (.invalidVariableType name)

namespace Evaluator

/-- Takes the operands of an operator off the stack and pushes its result. -/
def apply (op : Operator) (stack : Stack Operand) : Except EvalError (Stack Operand) :=
  match stack.popSeveral op.arity with
  | .error e => .error (.ofStackError op.name e)
  | .ok (operands, stack) =>
    match op.apply operands with
    | .ok result => .ok (stack.push result)
    | .error e => .error (.invalidOperatorArgument e)

/-- Looks up a variable and pushes its value. -/
def load (lookup : Lookup) (bindings : Bindings) (name : String) (stack : Stack Operand) :
    Except EvalError (Stack Operand) :=
  match bindings.get? name with
  | none => .error (.undefinedVariable name)
  | some binding => (lookup name binding).map stack.push

def step (lookup : Lookup) (bindings : Bindings) (stack : Stack Operand) :
    Part → Except EvalError (Stack Operand)
  | .operand (.variable name) => load lookup bindings name stack
  | .operand operand => .ok (stack.push operand)
  | .operator op => apply op stack

/-- The value that is left when all parts are taken. -/
def result (stack : Stack Operand) : Except EvalError Operand :=
  match stack.fromTop with
  | [] => .error (.notEnoughOperands "expression" 1 0)
  | [operand] => .ok operand
  | operands => .error (.tooManyOperands operands.length)

/-- The number that a value is. -/
def number : Operand → Except EvalError Float
  | .number x => .ok x
  | operand => .error (.unresolvedResult operand)

def stepItem (lookup : Lookup) (bindings : Bindings) (stack : Stack Operand) :
    Item → Except Failure (Stack Operand)
  | .ok part => (step lookup bindings stack part).mapError .eval
  | .error e => .error (.parse e)

/-- Takes the items of a list up to the first failure. -/
def run (lookup : Lookup) (bindings : Bindings) :
    List Item → Stack Operand → Except Failure (Stack Operand)
  | [], stack => .ok stack
  | item :: rest, stack =>
    match stepItem lookup bindings stack item with
    | .ok stack => run lookup bindings rest stack
    | .error e => .error e

/-- The value of a list of items. -/
def evaluateItems (lookup : Lookup) (bindings : Bindings) (items : List Item) :
    Except Failure Operand :=
  match run lookup bindings items .empty with
  | .ok stack => (result stack).mapError .eval
  | .error e => .error e

/-- The value of an expression, for which no more of it is read than is needed. -/
def evaluate {σ : Type} [FiniteSource σ] (lookup : Lookup) (bindings : Bindings) (r : Replay σ) :
    Except Failure Operand × Replay σ :=
  let (outcome, r, _) :=
    r.fold (fun stack part => (step lookup bindings stack part).mapError .eval)
      (fun _ e => .parse e) .empty .start
  match outcome with
  | .ok stack => ((result stack).mapError .eval, r)
  | .error e => (.error e, r)

/-- Asks for a value that is a number. -/
def insistOnNumber (outcome : Except Failure Operand) : Except Failure Float :=
  match outcome with
  | .ok operand => (number operand).mapError .eval
  | .error e => .error e

end Evaluator

end Formula
