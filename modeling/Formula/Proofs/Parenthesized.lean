import Formula.Proofs.Lexing.Operands
import Formula.Proofs.Library.Alias
import Formula.Proofs.Replay.Fold
import Formula.Proofs.Term

/-!
# Parenthesized expressions

Expressions over the operators of the library, written with all parentheses. `Expr.evaluate_parse` says
that the text of such an expression, with any blanks between its words, has the value of the expression.
-/

namespace Formula

namespace Lexer

/-- A literal is a number. -/
lemma Literal.operand? (l : Literal) :
    Dialect.math.operand? l.text = some (.number l.number) := by
  rw [Dialect.operand?, l.parse?_text]

/-- A name with its colon is a variable. -/
lemma Name.operand? (n : Name) : Dialect.math.operand? n.text = some (.variable n.text) := by
  rw [Dialect.operand?, n.parse?_text]
  exact n.standardOperand?_text

end Lexer

/-- A text of spaced words is read as tokens with these texts are, and evaluated as what is read. -/
lemma Dialect.exists_tokens_of_spaced {words : List String} {source : String}
    (spaced : Lexer.Spaced words source.toList)
    (lexemes : ∀ word ∈ words, Lexer.IsLexeme Dialect.mathSymbols word) :
    ∃ tokens, tokens.map Token.text = words ∧
      FiniteSource.items (Rpn.ofSource .math source) = Dialect.math.read tokens ∧
      ∀ bindings, (Evaluator.evaluate standardLookup bindings (Dialect.math.parse source)).1 =
        Evaluator.evaluateItems standardLookup bindings (Dialect.math.read tokens) := by
  refine ⟨Lexer.tokens Dialect.math.registry.symbols source, ?_, rfl, ?_⟩
  · exact Lexer.Cursor.tokens_of_spaced spaced lexemes rfl
  · intro bindings
    rw [Dialect.parse, (Replay.Keeps.ofSource _).evaluate_eq]
    rfl

/-- An expression over the operators of the library. -/
inductive Expr where
  | literal (l : Lexer.Literal)
  | name (n : Lexer.Name)
  | leading (a : Alias .unaryPrefix) (inner : Expr)
  | trailing (inner : Expr) (a : Alias .unaryPostfix)
  | call (f : Alias .function) (inner : Expr)
  | between (left : Expr) (a : Alias .binary) (right : Expr)

namespace Expr

/-- The words of an expression with all parentheses. -/
def words : Expr → List String
  | .literal l => [l.text]
  | .name n => [n.text]
  | .leading a inner => "(" :: (a.symbol :: inner.words) ++ [")"]
  | .trailing inner a => "(" :: (inner.words ++ [a.symbol]) ++ [")"]
  | .call f inner => f.symbol :: ("(" :: inner.words ++ [")"])
  | .between left a right => "(" :: (left.words ++ a.symbol :: right.words) ++ [")"]

/-- The term that an expression stands for. -/
def term : Expr → Term
  | .literal l => .operand (.number l.number)
  | .name n => .operand (.variable n.text)
  | .leading a inner => .unary a.operator a.arity inner.term
  | .trailing inner a => .unary a.operator a.arity inner.term
  | .call f inner => .unary f.operator f.arity inner.term
  | .between left a right => .binary a.operator a.arity left.term right.term

/-- Every word of an expression is a lexeme. -/
lemma isLexeme_words (e : Expr) : ∀ word ∈ e.words, Lexer.IsLexeme Dialect.mathSymbols word := by
  have opening : Lexer.IsLexeme Dialect.mathSymbols "(" :=
    Lexer.isLexeme_of_isSingle rfl Library.length_symbols
  have closing : Lexer.IsLexeme Dialect.mathSymbols ")" :=
    Lexer.isLexeme_of_isSingle rfl Library.length_symbols
  induction e with
  | literal l => simpa [words] using l.isLexeme
  | name n => simpa [words] using n.isLexeme
  | leading a inner ih => simpa [words, or_imp, forall_and] using ⟨opening, a.isLexeme, ih, closing⟩
  | trailing inner a ih => simpa [words, or_imp, forall_and] using ⟨opening, ih, a.isLexeme, closing⟩
  | call f inner ih => simpa [words, or_imp, forall_and] using ⟨f.isLexeme, opening, ih, closing⟩
  | between left a right ihl ihr =>
    simpa [words, or_imp, forall_and] using ⟨opening, ihl, a.isLexeme, ihr, closing⟩

/-- Tokens with the words of an expression are a phrase for its term. -/
lemma reads (e : Expr) {tokens : List Token} (same : tokens.map Token.text = e.words) :
    Reads .math tokens [] [] e.term.postOrder := by
  have parens : Dialect.math.Parenthesizes := ⟨rfl, rfl⟩
  induction e generalizing tokens with
  | literal l =>
    obtain ⟨token, rfl, text⟩ := List.map_eq_singleton_iff.mp same
    exact .operand (text ▸ l.operand?)
  | name n =>
    obtain ⟨token, rfl, text⟩ := List.map_eq_singleton_iff.mp same
    exact .operand (text ▸ n.operand?)
  | leading a inner ih =>
    obtain ⟨opening, closing, inside, rfl, texts⟩ := Token.exists_enclose same
    obtain ⟨token, rest, rfl, text, inner_texts⟩ := List.map_eq_cons_iff.mp texts
    have phrase := Reads.leading (a.spells text) (.inl a.placed) (ih inner_texts) (by simp)
    exact .group phrase.fills parens opening closing
  | trailing inner a ih =>
    obtain ⟨opening, closing, inside, rfl, texts⟩ := Token.exists_enclose same
    obtain ⟨before, after, rfl, inner_texts, last⟩ := List.map_eq_append_iff.mp texts
    obtain ⟨token, rfl, text⟩ := List.map_eq_singleton_iff.mp last
    have phrase := (ih inner_texts).trailing (a.spells text) a.placed
    exact .group phrase.fills parens opening closing
  | call f inner ih =>
    obtain ⟨token, rest, rfl, text, others⟩ := List.map_eq_cons_iff.mp same
    obtain ⟨opening, closing, inside, rfl, texts⟩ := Token.exists_enclose others
    exact .call (f.spells text) f.placed (ih texts).fills parens opening closing
  | between left a right ihl ihr =>
    obtain ⟨opening, closing, inside, rfl, texts⟩ := Token.exists_enclose same
    obtain ⟨before, after, rfl, left_texts, others⟩ := List.map_eq_append_iff.mp texts
    obtain ⟨token, rest, rfl, text, right_texts⟩ := List.map_eq_cons_iff.mp others
    have phrase := (ihl left_texts).between (a.spells text) a.placed (ihr right_texts) (by simp)
      (by simp)
    exact .group phrase.fills parens opening closing

/-- The text of an expression with all parentheses, and blanks between its words, has the value of the
expression, or fails as the expression does; so it fails at a variable or an operator only. -/
theorem evaluate_parse (e : Expr) (source : String) (spaced : Lexer.Spaced e.words source.toList)
    (bindings : Bindings) :
    (Evaluator.evaluate standardLookup bindings (Dialect.math.parse source)).1 =
        (e.term.eval standardLookup bindings).mapError .eval ∧
      ∀ failure,
        (Evaluator.evaluate standardLookup bindings (Dialect.math.parse source)).1 = .error failure →
        (∀ error, failure ≠ .parse error) ∧
        (∀ context expected actual, failure ≠ .eval (.notEnoughOperands context expected actual)) ∧
        ∀ count, failure ≠ .eval (.tooManyOperands count) := by
  obtain ⟨tokens, texts, -, evaluates⟩ := Dialect.exists_tokens_of_spaced spaced e.isLexeme_words
  have value : (Evaluator.evaluate standardLookup bindings (Dialect.math.parse source)).1 =
      (e.term.eval standardLookup bindings).mapError .eval := by
    rw [evaluates, (e.reads texts).fills.read, Term.evaluateItems_postOrder]
  refine ⟨value, fun failure failed => ?_⟩
  rw [value, ← Term.evaluateItems_postOrder] at failed
  exact Term.failure_of_evaluateItems failed

/-- The expression `( ( - 2.5 ) max √ ( ( :x ! ) ) )`. -/
def negativeOrRoot : Expr :=
  .between
    (.leading ⟨"-", Library.negation, List.mem_of_getElem? (i := 2) rfl, rfl⟩
      (.literal ⟨['2'], ['5'], List.cons_ne_nil _ _, List.forall_mem_singleton.mpr rfl,
        List.forall_mem_singleton.mpr rfl⟩))
    ⟨"max", Library.maximum, List.mem_of_getElem? (i := 10) rfl, rfl⟩
    (.call ⟨"√", Library.squareRoot, List.mem_of_getElem? (i := 11) rfl, rfl⟩
      (.trailing (.name ⟨'x', [], rfl, List.forall_mem_nil _⟩)
        ⟨"!", Library.factorial, List.mem_of_getElem? (i := 17) rfl, rfl⟩))

/-- The maximum of a negative number and a root fails where the root is over a variable that is not bound. -/
theorem evaluate_negativeOrRoot :
    Lexer.Spaced negativeOrRoot.words "( ( - 2.5 ) max √ ( ( :x ! ) ) ) ".toList ∧
      (Evaluator.evaluate standardLookup .empty
        (Dialect.math.parse "( ( - 2.5 ) max √ ( ( :x ! ) ) ) ")).1 =
          .error (.eval (.undefinedVariable ":x")) := by
  have spaced : Lexer.Spaced negativeOrRoot.words "( ( - 2.5 ) max √ ( ( :x ! ) ) ) ".toList :=
    Lexer.spaced_joined negativeOrRoot.words
  refine ⟨spaced, ?_⟩
  rw [(evaluate_parse negativeOrRoot _ spaced .empty).1]
  rfl

end Expr

end Formula
