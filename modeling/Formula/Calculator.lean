import Formula.Codec
import Formula.Evaluator
import Formula.Library.Catalogue
import Formula.Rpn

/-!
# Calculating

From a source text to its value, in the dialect of the whole library or any other.
-/

namespace Formula

/-- The reading of a source text, ready to be traversed any number of times. -/
def Dialect.parse (d : Dialect) (source : String) : Replay Rpn :=
  .ofSource (.ofSource d source)

/-- The setup of the dialect with the whole library. -/
def Setup.math : Setup := .ofCatalogue Library.math

/-- The dialect with the whole library. -/
def Dialect.math : Dialect := Setup.math.build

/-- The number that a source text stands for in a dialect. -/
def Dialect.evaluate (d : Dialect) (lookup : Lookup) (bindings : Bindings) (source : String) :
    Except Failure Float :=
  Evaluator.insistOnNumber (Evaluator.evaluate lookup bindings (d.parse source)).1

/-- The number that a source text stands for with the whole library. -/
def evaluate (source : String) (bindings : Bindings) : Except Failure Float :=
  Dialect.math.evaluate standardLookup bindings source

end Formula
