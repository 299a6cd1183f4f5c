import Formula.Library.Elementary
import Formula.Operator.Registry

/-!
# The library

The elementary operators in families, each with the tokens that spell them.
-/

namespace Formula.Library

inductive Family where
  | arithmetic
  | roots
  | transcendental
  | trailing
deriving DecidableEq

/-- The operators of a family. -/
def Family.catalogue : Family → Catalogue
  | .arithmetic =>
    [(["+"], addition), (["-"], subtraction), (["-"], negation), (["*", "×"], multiplication),
      (["/", "÷"], division), (["^", "pow"], power), (["min"], minimum), (["max"], maximum)]
  | .roots => [(["√", "sqrt"], squareRoot), (["∛"], cubeRoot), (["∜"], fourthRoot)]
  | .transcendental => [(["log"], naturalLog), (["exp"], exponential)]
  | .trailing => [(["!"], factorial), (["%"], percent)]

def math : Catalogue :=
  [Family.arithmetic, .roots, .transcendental, .trailing].flatMap Family.catalogue

end Formula.Library
