import Formula.Number.CubeRoot
import Formula.Operator.Basic

/-!
# Elementary operators

Arithmetic, roots, logarithm and exponential, factorial and percent over floats. Binding strengths go
from 1 for sums to 5 for the operators that follow their operand.
-/

namespace Formula.Library

def addition : Operator := .binary "+" .left 1 fun x y => .ok (x + y)

def subtraction : Operator := .binary "-" .left 1 fun x y => .ok (x - y)

/-- The negative, which binds more tightly than products but less tightly than a power that follows
it. -/
def negation : Operator := .unary "neg" .unaryPrefix .right 3 fun x => .ok (-x)

def multiplication : Operator := .binary "*" .left 2 fun x y => .ok (x * y)

/-- The quotient; neither zero divides. -/
def division : Operator :=
  .binary "/" .left 2 fun x y =>
    if y == 0 then .error "Division by zero is not allowed" else .ok (x / y)

def power : Operator := .binary "^" .right 3 fun x y => .ok (x.pow y)

/-- The smaller of two numbers; an operand that is not a number gives way to the other. -/
def smaller (x y : Float) : Float :=
  if x.isNaN then y else if y.isNaN then x else if y < x then y else x

/-- The greater of two numbers; an operand that is not a number gives way to the other. -/
def greater (x y : Float) : Float :=
  if x.isNaN then y else if y.isNaN then x else if x < y then y else x

def minimum : Operator := .binary "min" .none 1 fun x y => .ok (smaller x y)

def maximum : Operator := .binary "max" .none 1 fun x y => .ok (greater x y)

def squareRoot : Operator :=
  .unary "sqrt" .function .none 4 fun x =>
    if x < 0 then .error "Cannot calculate square root of a negative number" else .ok x.sqrt

/-- The cube root, of negative numbers too. -/
def cubeRoot : Operator := .unary "cbrt" .function .none 4 fun x => .ok (Number.cubeRoot x)

def fourthRoot : Operator :=
  .unary "root4" .function .none 4 fun x =>
    if x < 0 then .error "Cannot calculate fourth root of a negative number" else .ok x.sqrt.sqrt

def naturalLog : Operator :=
  .unary "log" .function .none 4 fun x =>
    if x ≤ 0 then .error "Logarithm is only defined for positive numbers" else .ok x.log

def exponential : Operator := .unary "exp" .function .none 4 fun x => .ok x.exp

/-- A product of ascending factors under way. -/
structure Product where
  value : Float
  factor : Float

namespace Product

/-- The product before its first factor, which is 2. -/
def start : Product := ⟨1, 2⟩

/-- Multiplies by the next factor. -/
def step (p : Product) : Product := ⟨p.value * p.factor, p.factor + 1⟩

/-- Tells whether there is a factor left up to `x` and the product can still change. -/
def continues (x : Float) (p : Product) : Bool := p.factor ≤ x && p.value.isFinite

/-- Takes factors up to `x`, at most `steps` of them. -/
def run (x : Float) : (steps : Nat) → Product → Product
  | 0, p => p
  | steps + 1, p => if p.continues x then run x steps p.step else p

end Product

/-- The product of the whole numbers from 2 up to `x`. After 170 factors it is infinite, so no more
are ever taken. -/
def productUpTo (x : Float) : Float := (Product.start.run x 170).value

def factorial : Operator :=
  .unary "!" .unaryPostfix .none 5 fun x =>
    if x < 0 then .error "Factorial is not defined for negative numbers"
    else if !Number.isWhole x then .error "Factorial operator is only defined for integers"
    else .ok (productUpTo x)

/-- The hundredth part. -/
def percent : Operator := .unary "%" .unaryPostfix .left 5 fun x => .ok (x / 100)

end Formula.Library
