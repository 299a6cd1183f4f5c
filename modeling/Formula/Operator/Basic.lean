import Formula.Operand

/-!
# Operators

An operator has a name, a place beside its operands, a binding strength, and a body that computes its
result. The place alone decides how many operands it takes.
-/

namespace Formula

/-- Where an operator stands. -/
inductive Fixity where
  /-- Between two operands. -/
  | binary
  /-- Before its operand. -/
  | unaryPrefix
  /-- After its operand. -/
  | unaryPostfix
  /-- Before an operand in parentheses, or before a bare one. -/
  | function
deriving DecidableEq

namespace Fixity

def arity : Fixity → Nat
  | .binary => 2
  | .unaryPrefix | .unaryPostfix | .function => 1

/-- Tells whether the operator comes before its operand. -/
def precedesOperand : Fixity → Bool
  | .unaryPrefix | .function => true
  | .binary | .unaryPostfix => false

def render : Fixity → String
  | .binary => "binary"
  | .unaryPrefix => "prefix"
  | .unaryPostfix => "postfix"
  | .function => "function"

/-- Shows a place by its constructor. -/
def inspect : Fixity → String
  | .binary => "Binary"
  | .unaryPrefix => "UnaryPrefix"
  | .unaryPostfix => "UnaryPostfix"
  | .function => "Function"

end Fixity

/-- How a chain of equally strong operators is grouped. -/
inductive Associativity where
  | left
  | right
  | none
deriving DecidableEq

namespace Associativity

def render : Associativity → String
  | .left => "left"
  | .right => "right"
  | .none => "none"

/-- Shows a grouping by its two sides. -/
def inspect (a : Associativity) : String :=
  let left := decide (a = .left)
  let right := decide (a = .right)
  "Associativity \x7b left_assoc: " ++ toString left ++ ", right_assoc: " ++ toString right ++ " \x7d"

end Associativity

/-- Why an operator has no result. -/
inductive OperatorError where
  | wrongArity (operator : String) (expected actual : Nat)
  | notANumber (operator : String)
  | domain (operator reason : String)
deriving DecidableEq

def OperatorError.message : OperatorError → String
  | .wrongArity operator expected actual =>
    s!"{operator} operator requires exactly {expected} operand(s), got {actual}"
  | .notANumber operator => s!"{operator} operator requires Number operands"
  | .domain operator reason => s!"{operator}: {reason}"

/-- An operator. Its body gets the operands from left to right. -/
structure Operator where
  name : String
  fixity : Fixity
  associativity : Associativity
  /-- The greater, the more tightly the operator binds. -/
  precedence : Nat
  body : List Operand → Except OperatorError Operand

namespace Operator

def arity (op : Operator) : Nat := op.fixity.arity

/-- The result for these operands. -/
def apply (op : Operator) (operands : List Operand) : Except OperatorError Operand :=
  op.body operands

/-- Shows the properties of an operator, which leaves out its body. -/
def inspect (op : Operator) : String :=
  "Operator \x7b name: " ++ Text.quote op.name ++ ", fixity: " ++ op.fixity.inspect ++ ", assoc: " ++
    op.associativity.inspect ++ ", prec: Precedence(" ++ toString op.precedence ++ "), .. \x7d"

/-- A body over one number. A reason in place of a result is a domain error. -/
def unaryBody (name : String) (f : Float → Except String Float) (operands : List Operand) :
    Except OperatorError Operand :=
  match operands with
  | [.number x] =>
    match f x with
    | .ok result => .ok (.number result)
    | .error reason => .error (.domain name reason)
  | [.variable _] => .error (.notANumber name)
  | _ => .error (.wrongArity name 1 operands.length)

/-- A body over two numbers, the left one first. -/
def binaryBody (name : String) (f : Float → Float → Except String Float)
    (operands : List Operand) : Except OperatorError Operand :=
  match operands with
  | [.number x, .number y] =>
    match f x y with
    | .ok result => .ok (.number result)
    | .error reason => .error (.domain name reason)
  | [_, _] => .error (.notANumber name)
  | _ => .error (.wrongArity name 2 operands.length)

/-- An operator with one operand, which has to be a number. -/
def unary (name : String) (fixity : Fixity) (associativity : Associativity) (precedence : Nat)
    (f : Float → Except String Float) : Operator :=
  ⟨name, fixity, associativity, precedence, unaryBody name f⟩

/-- An operator between two operands, which have to be numbers. -/
def binary (name : String) (associativity : Associativity) (precedence : Nat)
    (f : Float → Float → Except String Float) : Operator :=
  ⟨name, .binary, associativity, precedence, binaryBody name f⟩

end Operator

end Formula
