import Formula.Operator.Basic

/-!
# Shelves of operators

Operators with the same properties may still compute different results. Operators on a shelf are told
apart by where their bodies came from: each new operator has a body of its own, and a copy shares the
body of the operator it was made from.
-/

namespace Formula

/-- An operator and the number of its body. -/
structure Shelved where
  operator : Operator
  body : Nat

namespace Shelved

/-- Tells whether two operators have the same properties and share a body. -/
def same (a b : Shelved) : Bool :=
  a.operator.name == b.operator.name && a.operator.fixity == b.operator.fixity &&
    a.operator.associativity == b.operator.associativity &&
    a.operator.precedence == b.operator.precedence && a.body == b.body

end Shelved

/-- Operators in the order in which they were put there. -/
abbrev Shelf := List Shelved

namespace Shelf

/-- Puts a new operator on a shelf. Bodies are numbered by the size of the shelf, which only grows. -/
def new (s : Shelf) (op : Operator) : Shelf := s ++ [⟨op, s.length⟩]

/-- Puts a copy of an operator on a shelf. -/
def copy (s : Shelf) (shelved : Shelved) : Shelf := s ++ [shelved]

end Shelf

end Formula
