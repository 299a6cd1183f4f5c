import Formula.Calculator
import Formula.Proofs.Lexing.Lexeme
import Formula.Proofs.Phrase

/-!
# Aliases of the library

Every token that spells an operator of the library is a lexeme of the dialect with the whole library, and
spells that operator in its place.
-/

namespace Formula

/-- The tokens that spell operators of the library, each with its operator. -/
def Library.aliases : List (String × Operator) :=
  Library.math.flatMap fun entry => entry.1.map (·, entry.2)

/-- A token that spells an operator of the library with this place. -/
structure Alias (fixity : Fixity) where
  symbol : String
  operator : Operator
  listed : (symbol, operator) ∈ Library.aliases
  placed : operator.fixity = fixity

/-- The symbols of the dialect with the whole library. -/
abbrev Dialect.mathSymbols : List (List Char) := Dialect.math.registry.symbols.map String.toList

namespace Library

/-- No symbol of the dialect of mathematics is longer than one character. -/
lemma length_symbols : Dialect.mathSymbols.all (·.length ≤ 1) = true := by
  decide

/-- An alias is a word, or a single character that begins no other class. -/
lemma isWord_or_isSingle : (aliases.map Prod.fst).all
    (fun symbol => Lexer.isWord symbol || Lexer.isSingle symbol) = true := by
  decide

/-- An alias is no operand and no punctuation, and its operator is found where it stands. -/
lemma spells_of_mem : ∀ a ∈ aliases, Dialect.math.operand? a.1 = none ∧ a.1 ∉ ["(", ")", ","] ∧
    Dialect.math.registry.resolve? a.1 a.2.fixity.precedesOperand = some a.2 := by
  refine List.forall_iff_forall_mem.mp ?_
  refine ⟨?_, ?_, ?_, ?_, ?_, ?_, ?_, ?_, ?_, ?_, ?_, ?_, ?_, ?_, ?_, ?_, ?_, ?_, ?_⟩ <;>
    exact ⟨rfl, by decide, rfl⟩

end Library

namespace Alias

variable {fixity : Fixity}

/-- An alias is a token by itself. -/
lemma isLexeme (a : Alias fixity) : Lexer.IsLexeme Dialect.mathSymbols a.symbol := by
  have kind := List.all_eq_true.mp Library.isWord_or_isSingle a.symbol (List.mem_map_of_mem a.listed)
  rcases Bool.or_eq_true_iff.mp kind with word | single
  · exact Lexer.isLexeme_of_isWord word
  · exact Lexer.isLexeme_of_isSingle single Library.length_symbols

/-- An alias takes as many operands as its fixity says. -/
lemma arity (a : Alias fixity) : a.operator.arity = fixity.arity := congrArg Fixity.arity a.placed

/-- An alias spells its operator. -/
lemma spells (a : Alias fixity) {token : Token} (same : token.text = a.symbol) :
    Spells .math token fixity.precedesOperand a.operator := by
  obtain ⟨no_operand, no_punctuation, resolves⟩ := Library.spells_of_mem _ a.listed
  rw [a.placed] at resolves
  exact ⟨same ▸ no_operand, same ▸ no_punctuation, same ▸ resolves⟩

end Alias

end Formula
