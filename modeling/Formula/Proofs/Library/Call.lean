import Formula.Proofs.Library.Numeric
import Formula.Proofs.Parenthesized

/-!
# Calls of operators between operands

The words `pow`, `min` and `max` stand between operands and may be called as well, wherever an operand may
stand. A call compares its operator with what waits, as it would between operands; so a power that is called
lets a bare function before it pass, which has no operand yet. `evaluate_of_derives` says that no other text
of the grammar goes wrong, and `evaluate_function_power` that a text that begins like this does.
-/

namespace Formula.Library

/-- The words that may be called with two operands. -/
def callable : List String := ["pow", "min", "max"]

/-- The words that spell functions. -/
def functions : List String :=
  (aliases.filter fun a => decide (a.2.fixity = .function)).map Prod.fst

/-- Literals, and the words that spell operators of the library in their places. -/
def vocabulary : Vocabulary where
  operand word o := ∃ l : Lexer.Literal, l.text = word ∧ o = .number l.number
  leading word op := (word, op) ∈ aliases ∧ op.fixity.precedesOperand = true
  trailing word op := (word, op) ∈ aliases ∧ op.fixity = .unaryPostfix
  between word op := (word, op) ∈ aliases ∧ op.fixity = .binary
  called word op := word ∈ callable ∧ (word, op) ∈ aliases ∧ op.fixity = .binary

/-- A symbol that the library lists spells its operator, each in its place. -/
lemma spells_of_listed {token : Token} {op : Operator} (listed : (token.text, op) ∈ aliases) :
    Spells .math token op.fixity.precedesOperand op :=
  Alias.spells ⟨token.text, op, listed, rfl⟩ rfl

/-- A word that may be called spells the same operator where an operand is expected. -/
lemma resolve_callable : ∀ word ∈ callable,
    Dialect.math.registry.resolve? word true = Dialect.math.registry.resolve? word false := by
  refine List.forall_iff_forall_mem.mp ⟨rfl, rfl, rfl⟩

/-- The vocabulary of the library fits the dialect of mathematics. -/
lemma fits_math : vocabulary.Fits .math where
  parens := ⟨rfl, rfl⟩
  operand := by
    rintro word o ⟨l, rfl, rfl⟩
    exact l.operand?
  leading := by
    rintro token op ⟨listed, precedes⟩
    have spells := spells_of_listed listed
    rw [precedes] at spells
    exact ⟨spells, precedes⟩
  trailing := by
    rintro token op ⟨listed, fixity⟩
    have spells := spells_of_listed listed
    rw [fixity] at spells
    exact ⟨spells, fixity⟩
  between := by
    rintro token op ⟨listed, fixity⟩
    have spells := spells_of_listed listed
    rw [fixity] at spells
    exact ⟨spells, fixity⟩
  called := by
    rintro token op ⟨callable, listed, fixity⟩
    have spells := spells_of_listed listed
    rw [fixity] at spells
    have resolves := (resolve_callable token.text callable).trans spells.resolves
    exact ⟨⟨spells.no_operand, spells.no_punctuation, resolves⟩, fixity, rfl⟩

/-- Of what waits for an operand, a call lets pass a function before a power only. -/
lemma waits_or_function : ∀ a ∈ aliases, ∀ b ∈ aliases, a.2.fixity ≠ .unaryPostfix →
    b.1 ∈ callable → a.2.precedes b.2 = true → a.2.fixity = .function ∧ b.1 = "pow" := by
  decide

/-- Where no power is called right after a function, nothing is let pass before its operand. -/
lemma isChain_bides {words : List String}
    (apart : words.IsChain fun first second => first ∈ functions → second ≠ "pow") :
    words.IsChain vocabulary.Bides := by
  refine apart.imp ?_
  intro first second apart o op spelled calls
  obtain ⟨called, listed, fixity⟩ := calls
  obtain ⟨waiting, no_postfix⟩ : (first, o) ∈ aliases ∧ o.fixity ≠ .unaryPostfix := by
    rcases spelled with ⟨waiting, place⟩ | ⟨waiting, place⟩ <;>
      exact ⟨waiting, fun same => by rw [same] at place; cases place⟩
  by_contra passes
  have precedes := Bool.eq_true_of_not_eq_false passes
  have hastens := waits_or_function _ waiting _ listed no_postfix called precedes
  have member : first ∈ functions := by
    refine List.mem_map.mpr ⟨(first, o), ?_, rfl⟩
    exact List.mem_filter.mpr ⟨waiting, decide_eq_true hastens.1⟩
  exact apart member hastens.2

/-- Every word of a phrase is a lexeme. -/
lemma isLexeme_of_derives {category : Category} {words : List String} {parts : List Part}
    (h : vocabulary.Derives category words parts) :
    ∀ word ∈ words, Lexer.IsLexeme Dialect.mathSymbols word := by
  have listed {word : String} {op : Operator} (h : (word, op) ∈ aliases) :
      Lexer.IsLexeme Dialect.mathSymbols word := Alias.isLexeme ⟨word, op, h, rfl⟩
  have single {word : String} (h : Lexer.isSingle word = true) :
      Lexer.IsLexeme Dialect.mathSymbols word := Lexer.isLexeme_of_isSingle h length_symbols
  induction h with
  | operand spelled =>
    obtain ⟨l, rfl, -⟩ := spelled
    simpa using l.isLexeme
  | group _ ih => simpa [or_imp, forall_and] using ⟨single rfl, ih, single rfl⟩
  | call calls _ _ ihl ihr =>
    simpa [or_imp, forall_and] using
      ⟨listed calls.2.1, single rfl, ihl, single rfl, ihr, single rfl⟩
  | trailing _ spelled ih => simpa [or_imp, forall_and] using ⟨ih, listed spelled.1⟩
  | closed _ ih => exact ih
  | leading spelled _ ih => simpa [or_imp, forall_and] using ⟨listed spelled.1, ih⟩
  | unary _ ih => exact ih
  | between _ spelled _ ihl ihr => simpa [or_imp, forall_and] using ⟨ihl, listed spelled.1, ihr⟩

/-- What the words of a phrase stand for is over numbers. -/
lemma numeric_of_derives {category : Category} {words : List String} {parts : List Part}
    (h : vocabulary.Derives category words parts) : ∀ part ∈ parts, part.Numeric := by
  have listed {word : String} {op : Operator} (h : (word, op) ∈ aliases) :
      (Part.operator op).Numeric := .operator (numeric_of_mem h)
  induction h with
  | operand spelled =>
    obtain ⟨l, -, rfl⟩ := spelled
    simpa using Part.Numeric.number l.number
  | group _ ih => exact ih
  | call calls _ _ ihl ihr => simpa [or_imp, forall_and] using ⟨ihl, listed calls.2.1, ihr⟩
  | trailing _ spelled ih => simpa [or_imp, forall_and] using ⟨ih, listed spelled.1⟩
  | closed _ ih => exact ih
  | leading spelled _ ih => simpa [or_imp, forall_and] using ⟨listed spelled.1, ih⟩
  | unary _ ih => exact ih
  | between _ spelled _ ihl ihr => simpa [or_imp, forall_and] using ⟨ihl, listed spelled.1, ihr⟩

/-- A text of numbers, groups and calls, and operators before, after and between them, is read without an
error. If no power is called right after a function, the text evaluates to a number, or fails where an
operator has no result for the numbers it was given. -/
theorem evaluate_of_derives (words : List String) (parts : List Part)
    (derived : vocabulary.Derives .expression words parts) (source : String)
    (spaced : Lexer.Spaced words source.toList) :
    (∃ rpn : List Part, FiniteSource.items (Rpn.ofSource .math source) = rpn.map .ok) ∧
      ((words.IsChain fun first second => first ∈ functions → second ≠ "pow") → ∀ bindings,
        (∃ x, (Evaluator.evaluate standardLookup bindings (Dialect.math.parse source)).1 =
          .ok (.number x)) ∨
        ∃ name reason, (Evaluator.evaluate standardLookup bindings (Dialect.math.parse source)).1 =
          .error (.eval (.invalidOperatorArgument (.domain name reason)))) := by
  obtain ⟨tokens, texts, read, evaluates⟩ :=
    Dialect.exists_tokens_of_spaced spaced (isLexeme_of_derives derived)
  obtain ⟨rpn, filled, isTerm⟩ := (derived.readsOperand fits_math).fills texts
  refine ⟨⟨rpn, read.trans filled.read⟩, ?_⟩
  intro apart bindings
  obtain ⟨t, rfl, same⟩ := isTerm (isChain_bides apart)
  have numeric : ∀ part ∈ t.inOrder, part.Numeric := same ▸ numeric_of_derives derived
  have calculated : Calculated (t.eval standardLookup bindings) := t.calculated_eval numeric
  rw [evaluates, filled.read, Term.evaluateItems_postOrder]
  generalize t.eval standardLookup bindings = outcome at calculated
  cases calculated with
  | number x => exact .inl ⟨x, rfl⟩
  | domain name reason => exact .inr ⟨name, reason, rfl⟩

/-- The literal of one digit. -/
def digit (c : Char) (isDigit : c.isDigit = true) : Lexer.Literal :=
  .ofDigits [c] (List.cons_ne_nil _ _) (List.forall_mem_singleton.mpr isDigit)

/-- A digit is an operand of the grammar. -/
lemma derives_digit (c : Char) (isDigit : c.isDigit = true) :
    vocabulary.Derives .closed [(digit c isDigit).text] [.operand (.number (digit c isDigit).number)] :=
  .operand ⟨_, rfl, rfl⟩

/-- The words of `- min ( 2 , 3 ! ) * pow ( 4 , sqrt 5 )`. -/
def negatedMinimum : List String :=
  ["-", "min", "(", "2", ",", "3", "!", ")", "*", "pow", "(", "4", ",", "sqrt", "5", ")"]

/-- A negated minimum times a called power comes to a number, or is outside the domain of an operator. -/
theorem evaluate_negatedMinimum :
    ∃ parts, vocabulary.Derives .expression negatedMinimum parts ∧
      Lexer.Spaced negatedMinimum "- min ( 2 , 3 ! ) * pow ( 4 , sqrt 5 ) ".toList ∧
      (negatedMinimum.IsChain fun first second => first ∈ functions → second ≠ "pow") ∧
      ((∃ x, (Evaluator.evaluate standardLookup .empty
          (Dialect.math.parse "- min ( 2 , 3 ! ) * pow ( 4 , sqrt 5 ) ")).1 = .ok (.number x)) ∨
        ∃ name reason, (Evaluator.evaluate standardLookup .empty
          (Dialect.math.parse "- min ( 2 , 3 ! ) * pow ( 4 , sqrt 5 ) ")).1 =
            .error (.eval (.invalidOperatorArgument (.domain name reason)))) := by
  have two := Vocabulary.Derives.unary (.closed (derives_digit '2' rfl))
  have three := Vocabulary.Derives.trailing (derives_digit '3' rfl)
    (show vocabulary.trailing "!" factorial from ⟨List.mem_of_getElem? (i := 17) rfl, rfl⟩)
  have least := Vocabulary.Derives.call
    (show vocabulary.called "min" minimum from
      ⟨by decide, List.mem_of_getElem? (i := 9) rfl, rfl⟩) two (.unary (.closed three))
  have negated := Vocabulary.Derives.leading
    (show vocabulary.leading "-" negation from ⟨List.mem_of_getElem? (i := 2) rfl, rfl⟩)
    (.closed least)
  have root := Vocabulary.Derives.leading
    (show vocabulary.leading "sqrt" squareRoot from ⟨List.mem_of_getElem? (i := 12) rfl, rfl⟩)
    (.closed (derives_digit '5' rfl))
  have powers := Vocabulary.Derives.call
    (show vocabulary.called "pow" power from
      ⟨by decide, List.mem_of_getElem? (i := 8) rfl, rfl⟩)
    (.unary (.closed (derives_digit '4' rfl))) (.unary root)
  have derived := Vocabulary.Derives.between (.unary negated)
    (show vocabulary.between "*" multiplication from ⟨List.mem_of_getElem? (i := 3) rfl, rfl⟩)
    (.closed powers)
  have spaced : Lexer.Spaced negatedMinimum "- min ( 2 , 3 ! ) * pow ( 4 , sqrt 5 ) ".toList :=
    Lexer.spaced_joined negatedMinimum
  have apart : negatedMinimum.IsChain fun first second => first ∈ functions → second ≠ "pow" := by
    decide
  exact ⟨_, derived, spaced, apart, (evaluate_of_derives _ _ derived _ spaced).2 apart .empty⟩

/-- Functions bind more tightly than the power. -/
lemma precedes_power : ∀ a ∈ aliases, a.2.fixity = .function → a.2.precedes power = true := by
  decide

/-- An operator that takes one operand and is first finds none. -/
lemma evaluateItems_of_unary {op : Operator} (arity : op.arity = 1) (lookup : Lookup) (bindings : Bindings)
    (rest : List Item) :
    Evaluator.evaluateItems lookup bindings (.ok (.operator op) :: rest) =
      .error (.eval (.notEnoughOperands op.name 1 0)) := by
  have fails : Evaluator.step lookup bindings .empty (.operator op) =
      .error (.notEnoughOperands op.name 1 0) := by
    change Evaluator.apply op .empty = _
    rw [Evaluator.apply, arity]
    rfl
  rw [Evaluator.evaluateItems, Evaluator.run, Evaluator.stepItem, fails]
  rfl

/-- A power that is called right after the first word, a function, lets it pass; so the function finds no
operand. -/
lemma evaluate_function_power {word : String} {f : Operator} (listed : (word, f) ∈ aliases)
    (function : f.fixity = .function) {left right : List String} {parts parts' : List Part}
    (derived : vocabulary.Derives .expression left parts)
    (derived' : vocabulary.Derives .expression right parts') {source : String}
    (spaced : Lexer.Spaced (word :: "pow" :: ("(" :: (left ++ "," :: right) ++ [")"])) source.toList)
    (bindings : Bindings) :
    (Evaluator.evaluate standardLookup bindings (Dialect.math.parse source)).1 =
      .error (.eval (.notEnoughOperands f.name 1 0)) := by
  have leads : vocabulary.leading word f := ⟨listed, by rw [function]; rfl⟩
  have calls : vocabulary.called "pow" power := ⟨by decide, List.mem_of_getElem? (i := 8) rfl, rfl⟩
  obtain ⟨tokens, texts, -, evaluates⟩ := Dialect.exists_tokens_of_spaced spaced
    (isLexeme_of_derives (.leading leads (.closed (.call calls derived derived'))))
  obtain ⟨first, _, rfl, first_text, others⟩ := List.map_eq_cons_iff.mp texts
  obtain ⟨second, opening, closing, _, separator, _, rfl, second_text, on_left, on_right⟩ :=
    Token.exists_call others
  obtain ⟨rpn, filled, -⟩ := (derived.readsOperand fits_math).fills on_left
  obtain ⟨rpn', filled', -⟩ := (derived'.readsOperand fits_math).fills on_right
  obtain ⟨spells, fixity, separates⟩ := fits_math.called (second_text ▸ calls)
  have held := (fits_math.leading (first_text ▸ leads)).1.shunt (y := .empty)
  have placed : Yard.empty.place f = Yard.flat [] [f] true := by
    rw [Yard.place, function]
    rfl
  have passed := spells.shunt (y := Yard.flat [] [f] true)
  rw [Yard.place_flat fixity] at passed
  have takes : [f].takeWhile (·.precedes power) = [f] := by
    simp [precedes_power _ listed function]
  rw [takes] at passed
  obtain ⟨called, rest, -, run⟩ := Yard.shuntAll_enclose_flat fits_math.parens
    (filled.append separates filled' separator) opening closing [.operator f] _ true
  have read := Yard.read_of_flat
    ((Yard.shuntAll_cons held).trans (placed ▸ (Yard.shuntAll_cons passed).trans run))
  rw [evaluates, read]
  exact evaluateItems_of_unary (by rw [Operator.arity, function]; rfl) _ _ _

/-- The words of `sqrt pow ( 2 , 4 )`. -/
def rootOfPower : List String := ["sqrt", "pow", "(", "2", ",", "4", ")"]

/-- A root without parentheses before a called power lacks its operand, since the call lets it pass. -/
theorem evaluate_rootOfPower :
    (∃ parts, vocabulary.Derives .expression rootOfPower parts) ∧
      Lexer.Spaced rootOfPower "sqrt pow ( 2 , 4 ) ".toList ∧
      (Evaluator.evaluate standardLookup .empty (Dialect.math.parse "sqrt pow ( 2 , 4 ) ")).1 =
        .error (.eval (.notEnoughOperands "sqrt" 1 0)) := by
  have listed : ("sqrt", squareRoot) ∈ aliases := List.mem_of_getElem? (i := 12) rfl
  have calls : vocabulary.called "pow" power := ⟨by decide, List.mem_of_getElem? (i := 8) rfl, rfl⟩
  have two := Vocabulary.Derives.unary (.closed (derives_digit '2' rfl))
  have four := Vocabulary.Derives.unary (.closed (derives_digit '4' rfl))
  have derived := Vocabulary.Derives.leading (v := vocabulary) ⟨listed, rfl⟩
    (.closed (.call calls two four))
  have spaced : Lexer.Spaced rootOfPower "sqrt pow ( 2 , 4 ) ".toList :=
    Lexer.spaced_joined rootOfPower
  exact ⟨⟨_, .unary derived⟩, spaced, evaluate_function_power listed rfl two four spaced .empty⟩

end Formula.Library
