import Formula.Lexer.Tokens
import Formula.Operator.Registry

/-!
# Dialects

A dialect fixes how source texts are read: how they fall into tokens, which tokens are operands, and
which operators the other tokens spell. A `Setup` describes one; what it leaves open gets a default,
which is a lexer that knows the symbols of all its operators, and `standardOperand?`.
-/

namespace Formula

/-- The answers of a tokenizer that is asked for one token after another. `none` means that there is
no token, whatever comes after it; so does the end of the list. -/
abbrev Answers := List (Option Token)

/-- A way of reading source texts. -/
structure Dialect where
  registry : Registry
  tokenize : String → Answers
  /-- The operand that a token stands for, unless it is a numeral, which is a number anyway. -/
  resolve? : String → Option Operand

/-- The operand that a token stands for, if it is one. -/
def Dialect.operand? (d : Dialect) (token : String) : Option Operand :=
  match Number.parse? token with
  | some x => some (.number x)
  | none => d.resolve? token

/-- Numerals are operands. -/
def numericOperand? (token : String) : Option Operand := (Number.parse? token).map .number

/-- A colon with a name after it is a variable, and numerals are numbers. -/
def standardOperand? (token : String) : Option Operand :=
  match token.toList with
  | [':'] => none
  | ':' :: _ => some (.variable token)
  | _ => numericOperand? token

/-- The tokens of a source text, for a lexer that knows these symbols. -/
def lexWith (symbols : List String) (source : String) : Answers :=
  (Lexer.tokens symbols source).map some

/-- The description of a dialect. -/
structure Setup where
  catalogue : Catalogue
  tokenize : Option (String → Answers)
  resolve : Option (String → Option Operand)

namespace Setup

/-- The dialect with these operators and defaults for the rest. -/
def ofCatalogue (catalogue : Catalogue) : Setup := ⟨catalogue, none, none⟩

/-- Adds an operator with the tokens that spell it. -/
def withOperator (s : Setup) (symbols : List String) (op : Operator) : Setup :=
  { s with catalogue := s.catalogue ++ [(symbols, op)] }

/-- The dialect that a setup describes. -/
def build (s : Setup) : Dialect :=
  let registry := s.catalogue.registry
  ⟨registry, s.tokenize.getD (lexWith registry.symbols), s.resolve.getD standardOperand?⟩

end Setup

end Formula
