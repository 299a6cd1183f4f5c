import Formula.Dictionary
import Formula.Json.Basic
import Formula.Operand
import Formula.Text.Blank

/-!
# Bindings

What variables are bound to: operands, or any JSON values, which are looked at only when the variable
is used.
-/

namespace Formula

/-- What a variable is bound to. -/
inductive Binding where
  | operand (o : Operand)
  /-- A JSON value in canonical form. -/
  | raw (value : Json)

namespace Binding

/-- Tells whether two variables are bound to the same. -/
def same : Binding → Binding → Bool
  | .operand x, .operand y => x.same y
  | .raw x, .raw y => x.same y
  | _, _ => false

/-- The operand that what a variable is bound to stands for: itself, or the number that a JSON number
or a numeral in a JSON string is. -/
def operand? : Binding → Option Operand
  | .operand o => some o
  | .raw (.integer n) => some (.number (Number.ofInt n))
  | .raw (.real x) => some (.number x)
  | .raw (.string s) => (Number.parse? (String.ofList (Text.trim s.toList))).map .number
  | .raw _ => none

end Binding

/-- What variables are bound to, by their names with the colon. -/
abbrev Bindings := Dictionary Binding

end Formula
