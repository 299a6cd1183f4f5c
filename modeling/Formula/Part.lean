import Formula.Json.Basic
import Formula.Operator.Basic
import Formula.Span

/-!
# Parts of reverse Polish expressions

An expression in reverse Polish order is a sequence of operands and operators. What is read from a
source text yields parts one by one, up to the first parse error.
-/

namespace Formula

/-- An operand or an operator. -/
inductive Part where
  | operand (operand : Operand)
  | operator (operator : Operator)

namespace Part

def operand? : Part → Option Operand
  | .operand o => some o
  | .operator _ => none

def operator? : Part → Option Operator
  | .operand _ => none
  | .operator op => some op

/-- Shows a part: an operand, or the name of an operator. -/
def render : Part → String
  | .operand o => o.render
  | .operator op => op.name

/-- Shows a part with its constructor. -/
def inspect : Part → String
  | .operand o => s!"Operand({o.inspect})"
  | .operator op => s!"Operator({op.inspect})"

/-- The JSON form of a part: a number, or the name of a variable or an operator. -/
def toJson : Part → Json
  | .operand (.number x) => .real x
  | .operand (.variable name) => .string name
  | .operator op => .string op.name

end Part

/-- Why a source text is no expression, and where. -/
inductive ParseError where
  /-- A token that is neither operand nor punctuation and spells no operator in its place. -/
  | unknownToken (token : String) (span : Span)
  /-- A word that spells no operator anywhere. -/
  | unknownFunction (name : String) (span : Span)
  /-- A parenthesis without its partner. -/
  | mismatchedParentheses (span : Span)
deriving DecidableEq

namespace ParseError

def message : ParseError → String
  | .unknownToken token span => s!"Unknown token '{token}' at {span.render}"
  | .unknownFunction name span => s!"Unknown function '{name}' at {span.render}"
  | .mismatchedParentheses span => s!"Mismatched parentheses at {span.render}"

/-- Shows a span with the names of its ends. -/
def inspectSpan (span : Span) : String :=
  "Span \x7b start: SourceOffset(" ++ toString span.start ++ "), end: SourceOffset(" ++
    toString span.stop ++ ") \x7d"

/-- Shows a parse error with its constructor. -/
def inspect : ParseError → String
  | .unknownToken token span =>
    "UnknownToken \x7b token: " ++ Text.quote token ++ ", span: " ++ inspectSpan span ++ " \x7d"
  | .unknownFunction name span =>
    "UnknownFunction \x7b name: " ++ Text.quote name ++ ", span: " ++ inspectSpan span ++ " \x7d"
  | .mismatchedParentheses span =>
    "MismatchedParentheses \x7b span: " ++ inspectSpan span ++ " \x7d"

end ParseError

/-- What reading an expression yields at a time. -/
abbrev Item := Except ParseError Part

end Formula
