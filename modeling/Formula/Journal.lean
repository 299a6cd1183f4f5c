import Formula.Calculator

/-!
# Journals

What can be written down while an expression is read and evaluated: which tokens got which operators,
which symbols the lexer was given, each part as it was read, and the value.
-/

namespace Formula

/-- How detailed a record is. -/
inductive Level where
  | info
  | debug
  | trace
deriving DecidableEq

namespace Level

/-- The rank of a level, the most detailed one last. -/
def rank : Level → Nat
  | .info => 0
  | .debug => 1
  | .trace => 2

end Level

/-- A line of a journal. -/
structure Record where
  level : Level
  message : String
deriving DecidableEq

namespace Journal

/-- The records of the operators of a catalogue, one for each token that spells one. -/
def registrations (catalogue : Catalogue) : List Record :=
  catalogue.flatMap fun (symbols, op) =>
    symbols.map fun symbol =>
      ⟨.debug, s!"Registering {op.fixity.render} operator {Text.quote op.name} as {Text.quote symbol}"⟩

/-- The record of the symbols of a registry. -/
def building (registry : Registry) : Record :=
  ⟨.debug, "Building parser with symbolic tokens [" ++
    ", ".intercalate (registry.symbols.map Text.quote) ++ "]"⟩

/-- The record of a part that was read. -/
def reading (part : Part) : Record := ⟨.trace, s!"RPN output: {part.render}"⟩

/-- The record of a value, if there is one. -/
def evaluation : Except Failure Operand → List Record
  | .ok operand => [⟨.debug, s!"Evaluated expression to {operand.render}"⟩]
  | .error _ => []

/-- The number that a source text stands for in the dialect of a setup, and all records on the way
from the setup to it. -/
def evaluate (setup : Setup) (bindings : Bindings) (source : String) :
    Except Failure Float × List Record :=
  let dialect := setup.build
  let (outcome, r) := Evaluator.evaluate standardLookup bindings (dialect.parse source)
  (Evaluator.insistOnNumber outcome,
    registrations setup.catalogue ++ building dialect.registry :: r.buffer.map reading ++
      evaluation outcome)

/-- The records that are kept where records more detailed than `level` are not. -/
def upTo (level : Level) (records : List Record) : List Record :=
  records.filter fun record => record.level.rank ≤ level.rank

end Journal

end Formula
