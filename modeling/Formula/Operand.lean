import Formula.Number.Numeral
import Formula.Text.Quoted

/-!
# Operands

What operators are applied to: numbers, and variables that have not been looked up yet.
-/

namespace Formula

/-- A number, or a variable with its colon. -/
inductive Operand where
  | number (value : Float)
  | variable (name : String)
deriving DecidableEq

namespace Operand

def number? : Operand → Option Float
  | .number x => some x
  | .variable _ => none

/-- Tells whether two operands are equal; numbers compare as numbers. -/
def same : Operand → Operand → Bool
  | .number x, .number y => x == y
  | .variable m, .variable n => m == n
  | _, _ => false

/-- Shows an operand as it is written in reverse Polish text. -/
def render : Operand → String
  | .number x => Number.Format.plain.write x
  | .variable name => name

/-- Shows an operand with its constructor. -/
def inspect : Operand → String
  | .number x => s!"Number({Number.Format.inspect.write x})"
  | .variable name => s!"Variable({Text.quote name})"

end Operand

end Formula
