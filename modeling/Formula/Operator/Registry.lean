import Formula.Dictionary
import Formula.Lexer.Class
import Formula.Operator.Basic

/-!
# Registries

A registry says which operator a token spells. A token may spell two of them, one that comes before
its operand and one that comes after an operand, as a minus sign does.
-/

namespace Formula

/-- The operators that tokens spell. -/
structure Registry where
  /-- The operators that come before their operand. -/
  leading : Dictionary Operator
  /-- The operators that come after an operand. -/
  trailing : Dictionary Operator
  /-- The tokens that are not words, in the order in which they first came. -/
  symbols : List String

namespace Registry

def empty : Registry := ⟨.empty, .empty, []⟩

instance : Inhabited Registry := ⟨empty⟩

/-- Lets a token spell an operator, in place of the one on the same side of the operand. -/
def register (r : Registry) (symbol : String) (op : Operator) : Registry where
  leading := if op.fixity.precedesOperand then r.leading.insert symbol op else r.leading
  trailing := if op.fixity.precedesOperand then r.trailing else r.trailing.insert symbol op
  symbols :=
    if Lexer.isWord symbol || r.symbols.contains symbol then r.symbols else r.symbols ++ [symbol]

/-- Lets several tokens spell an operator. -/
def add (r : Registry) (symbols : List String) (op : Operator) : Registry :=
  symbols.foldl (fun r symbol => r.register symbol op) r

/-- The operator that a token spells. Where an operand is expected, one that comes before its operand
is preferred to one that comes after; elsewhere the former is no choice. -/
def resolve? (r : Registry) (token : String) (operandExpected : Bool) : Option Operator :=
  if operandExpected then (r.leading.get? token).or (r.trailing.get? token)
  else r.trailing.get? token

def isEmpty (r : Registry) : Bool := r.leading.isEmpty && r.trailing.isEmpty

end Registry

/-- Operators with the tokens that spell them. -/
abbrev Catalogue := List (List String × Operator)

/-- Adds the operators of a catalogue in their order. -/
def Registry.addAll (r : Registry) (catalogue : Catalogue) : Registry :=
  catalogue.foldl (fun r entry => r.add entry.1 entry.2) r

def Catalogue.registry (catalogue : Catalogue) : Registry := Registry.empty.addAll catalogue

end Formula
