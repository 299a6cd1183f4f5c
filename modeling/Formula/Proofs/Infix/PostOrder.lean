import Formula.Proofs.Infix.Grammar
import Formula.Proofs.Replay.Fold
import Formula.Proofs.Term

/-!
# Infix expressions are read as post-orders

Whatever the precedences are, an expression of the grammar is read as the post-order of some term, and that
term has its operands and operators in the order in which they were written. While an expression is read,
what has passed are the post-orders of left operands, each held back by an operator that waits:
`Awaiting` says so before an operand, and `Complete` after one. An operator may pass only after an operand,
where it takes the last term, or the last two, for its own operands.
-/

namespace Formula

namespace Term

/-- The parts of a term in the order in which they are written: an operator between its operands, or before
or after the only one. -/
def inOrder : Term → List Part
  | .operand o => [.operand o]
  | .unary op _ inner =>
    if op.fixity.precedesOperand then .operator op :: inner.inOrder
    else inner.inOrder ++ [.operator op]
  | .binary op _ left right => left.inOrder ++ .operator op :: right.inOrder

end Term

/-- An operator that stands before its operand takes only this one. -/
lemma Operator.arity_of_precedesOperand {op : Operator} (h : op.fixity.precedesOperand = true) :
    op.arity = 1 := by
  unfold arity
  cases fixity : op.fixity with
  | unaryPrefix | function => rfl
  | binary | unaryPostfix =>
    rw [fixity] at h
    cases h

/-- Where an operand is expected: the operators that wait, the topmost first, what has passed, and what has
been read. -/
inductive Awaiting : List Operator → List Part → List Part → Prop where
  | start :
    Awaiting [] [] []
  | leading {op waiting passed read} :
    op.fixity.precedesOperand = true →
    Awaiting waiting passed read →
    Awaiting (op :: waiting) passed (read ++ [.operator op])
  | between {op waiting passed read} (left : Term) :
    op.fixity = .binary →
    Awaiting waiting passed read →
    Awaiting (op :: waiting) (passed ++ left.postOrder) (read ++ left.inOrder ++ [.operator op])

/-- Where an operand has come: its term has passed and has been read last. -/
def Complete (waiting : List Operator) (passed read : List Part) : Prop :=
  ∃ before earlier, ∃ t : Term, Awaiting waiting before earlier ∧
    passed = before ++ t.postOrder ∧ read = earlier ++ t.inOrder

namespace Complete

variable {op : Operator} {waiting ops : List Operator} {passed read parts : List Part}

/-- An operator that passes takes its operands from the terms that have passed last. -/
lemma pass (h : Complete (op :: waiting) passed read) :
    Complete waiting (passed ++ [.operator op]) read := by
  obtain ⟨before, earlier, t, awaiting, rfl, rfl⟩ := h
  cases awaiting with
  | leading precedes awaiting =>
    refine ⟨before, _, .unary op (Operator.arity_of_precedesOperand precedes) t, awaiting, ?_, ?_⟩
    · simp [Term.postOrder]
    · simp [Term.inOrder, precedes]
  | between left fixity awaiting =>
    refine ⟨_, _, .binary op (congrArg Fixity.arity fixity) left t, awaiting, ?_, ?_⟩
    · simp [Term.postOrder]
    · simp [Term.inOrder]

/-- Several operators pass as one does, from the top down. -/
lemma passAll (h : Complete (ops ++ waiting) passed read) :
    Complete waiting (passed ++ ops.map .operator) read := by
  induction ops generalizing passed with
  | nil => simpa using h
  | cons op ops ih =>
    have later := ih h.pass
    simpa using later

/-- Where all that waits passes, a single term is left. -/
lemma exists_term (h : Complete waiting passed read) :
    ∃ t : Term, passed ++ waiting.map .operator = t.postOrder ∧ read = t.inOrder := by
  rw [← List.append_nil waiting] at h
  obtain ⟨before, earlier, t, awaiting, output, same⟩ := h.passAll
  cases awaiting
  exact ⟨t, output, same⟩

/-- An operator after an operand takes the last term. -/
lemma trailing (h : Complete waiting passed read) (fixity : op.fixity = .unaryPostfix) :
    Complete waiting (passed ++ [.operator op]) (read ++ [.operator op]) := by
  obtain ⟨before, earlier, t, awaiting, rfl, rfl⟩ := h
  refine ⟨before, earlier, .unary op (congrArg Fixity.arity fixity) t, awaiting, ?_, ?_⟩
  · simp [Term.postOrder]
  · simp [Term.inOrder, fixity, Fixity.precedesOperand]

/-- An operator after an operand holds back the last term. -/
lemma between (h : Complete waiting passed read) (fixity : op.fixity = .binary) :
    Awaiting (op :: waiting) passed (read ++ [.operator op]) := by
  obtain ⟨before, earlier, t, awaiting, rfl, rfl⟩ := h
  exact .between t fixity awaiting

end Complete

/-- The term of an operand completes what awaits one. -/
lemma Awaiting.complete {waiting : List Operator} {passed read : List Part}
    (h : Awaiting waiting passed read) (t : Term) :
    Complete waiting (passed ++ t.postOrder) (read ++ t.inOrder) :=
  ⟨passed, read, t, h, rfl, rfl⟩

namespace Yard

/-- The yard where these operators wait, the topmost first, and no parenthesis is open. -/
def flat (passed : List Part) (waiting : List Operator) (operandExpected : Bool) : Yard :=
  ⟨passed, waiting.map .operator, operandExpected, 0⟩

section Flat

variable {d : Dialect} {passed passed' parts : List Part} {waiting waiting' : List Operator}
  {expected : Bool} {tokens : List Token} {token : Token} {op : Operator}

/-- Where only operators wait, they are released as long as they may pass. -/
lemma split_map_operator (pass : Operator → Bool) (waiting : List Operator) :
    Yard.split pass (waiting.map .operator) =
      (waiting.takeWhile pass, (waiting.dropWhile pass).map .operator) := by
  induction waiting with
  | nil => rfl
  | cons op rest ih =>
    rw [List.map_cons, Yard.split, ih]
    cases passes : pass op with
    | true => simp [passes]
    | false => simp [passes]

/-- An operator between operands lets some operators pass and waits above the others. -/
lemma place_flat (fixity : op.fixity = .binary) :
    (flat passed waiting expected).place op =
      flat (passed ++ (waiting.takeWhile (·.precedes op)).map .operator)
        (op :: waiting.dropWhile (·.precedes op)) true := by
  simp only [place, fixity, release, flat, split_map_operator, hold, List.map_cons]

/-- Tokens that lead to a flat yard are read as what has passed there and then what waits. -/
lemma read_of_flat (h : Yard.empty.shuntAll d tokens = (flat passed waiting expected, none)) :
    d.read tokens = (passed ++ waiting.map Part.operator).map .ok := by
  have flushed := split_operators [] trivial waiting
  rw [List.append_nil] at flushed
  rw [Dialect.read_eq_yielded, Yard.parse, h]
  simp [finish, flat, releaseAll, release, flushed, finishTop, yielded]

/-- A function on top passes, and nothing else does. -/
lemma call_flat (passed : List Part) (waiting : List Operator) (expected : Bool) :
    ∃ called rest, waiting = called ++ rest ∧
      (flat passed waiting expected).call = flat (passed ++ called.map .operator) rest expected := by
  by_cases awaits : AwaitsGroup (waiting.map .operator)
  · obtain ⟨top, below, same, function⟩ := awaits
    obtain ⟨_, rest, rfl, ⟨⟩, rfl⟩ := List.map_eq_cons_iff.mp same
    refine ⟨[top], rest, rfl, ?_⟩
    rw [call_of_awaits rfl function]
    rfl
  · refine ⟨[], waiting, rfl, ?_⟩
    rw [call_of_not_awaits awaits, List.map_nil, List.append_nil]

/-- A group passes, and after it a function that waits for it. -/
lemma shuntAll_enclose_flat (parens : d.Parenthesizes) (filled : Fills d tokens parts)
    (opening closing : Span) (passed : List Part) (waiting : List Operator) (expected : Bool) :
    ∃ called rest, waiting = called ++ rest ∧
      (flat passed waiting expected).shuntAll d (Token.enclose opening closing tokens) =
        (flat (passed ++ parts ++ called.map .operator) rest false, none) := by
  obtain ⟨called, rest, same, passes⟩ := call_flat (passed ++ parts) waiting expected
  have run : (flat passed waiting expected).shuntAll d (Token.enclose opening closing tokens) =
      ({ (flat (passed ++ parts) waiting expected).call with operandExpected := false }, none) :=
    filled.enclose parens opening closing _
  rw [passes] at run
  exact ⟨called, rest, same, run⟩

end Flat

end Yard

/-- Tokens with these texts read an operand: they lead from a flat yard to another. If no operator is let
pass by a call before its operand, the operand is complete there. -/
def ReadsOperand (v : Vocabulary) (d : Dialect) (words : List String) (parts : List Part) : Prop :=
  ∀ (tokens : List Token) (passed : List Part) (waiting : List Operator),
    tokens.map Token.text = words →
    ∃ passed' waiting', (Yard.flat passed waiting true).shuntAll d tokens =
        (Yard.flat passed' waiting' false, none) ∧
      ∀ read, v.Timely waiting words → Awaiting waiting passed read →
        Complete waiting' passed' (read ++ parts)

namespace ReadsOperand

variable {v : Vocabulary} {d : Dialect} {words more : List String} {parts parts' : List Part}
  {word : String} {op : Operator}

/-- Tokens that read an operand fill a group. -/
lemma fills (h : ReadsOperand v d words parts) {tokens : List Token}
    (same : tokens.map Token.text = words) :
    ∃ rpn, Fills d tokens rpn ∧
      (words.IsChain v.Bides → ∃ t : Term, rpn = t.postOrder ∧ parts = t.inOrder) := by
  obtain ⟨passed, waiting, run, complete⟩ := h tokens [] [] same
  refine ⟨_, fills_of_read (Yard.read_of_flat run), ?_⟩
  intro chain
  exact (complete [] (.of_isChain chain) .start).exists_term

/-- A word that stands for an operand is read as one. -/
lemma operand {o : Operand} (h : d.operand? word = some o) :
    ReadsOperand v d [word] [.operand o] := by
  intro tokens passed waiting same
  obtain ⟨token, rfl, rfl⟩ := List.map_eq_singleton_iff.mp same
  refine ⟨passed ++ [.operand o], waiting, ?_, ?_⟩
  · rw [Yard.shuntAll_cons (Yard.shunt_of_move (Dialect.move_operand h _))]
    rfl
  · intro read _ awaiting
    exact awaiting.complete (.operand o)

/-- An operand in parentheses is read as an operand. -/
lemma group (parens : d.Parenthesizes) (h : ReadsOperand v d words parts) :
    ReadsOperand v d ("(" :: words ++ [")"]) parts := by
  intro tokens passed waiting same
  obtain ⟨opening, closing, inside, rfl, texts⟩ := Token.exists_enclose same
  obtain ⟨rpn, filled, isTerm⟩ := h.fills texts
  obtain ⟨called, rest, rfl, run⟩ :=
    Yard.shuntAll_enclose_flat parens filled opening closing passed waiting true
  refine ⟨_, rest, run, ?_⟩
  intro read timely awaiting
  obtain ⟨t, rfl, rfl⟩ := isTerm (timely.part ⟨["("], [")"], by simp⟩)
  exact (awaiting.complete t).passAll

/-- An operator that is called with two operands is read as an operand. -/
lemma call (fits : v.Fits d) (calls : v.called word op) (h : ReadsOperand v d words parts)
    (h' : ReadsOperand v d more parts') :
    ReadsOperand v d (word :: ("(" :: (words ++ "," :: more) ++ [")"]))
      (parts ++ .operator op :: parts') := by
  intro tokens passed waiting same
  obtain ⟨token, opening, closing, first, separator, second, rfl, rfl, first_texts, second_texts⟩ :=
    Token.exists_call same
  obtain ⟨rpn, filled, isTerm⟩ := h.fills first_texts
  obtain ⟨rpn', filled', isTerm'⟩ := h'.fills second_texts
  obtain ⟨spells, fixity, separates⟩ := fits.called calls
  have placed := spells.shunt (y := Yard.flat passed waiting true)
  rw [Yard.place_flat fixity] at placed
  obtain ⟨called, rest, split, run⟩ := Yard.shuntAll_enclose_flat fits.parens
    (filled.append separates filled' separator) opening closing
    (passed ++ (waiting.takeWhile (·.precedes op)).map .operator)
    (op :: waiting.dropWhile (·.precedes op)) true
  refine ⟨_, rest, (Yard.shuntAll_cons placed).trans run, ?_⟩
  intro read timely awaiting
  obtain ⟨t, rfl, rfl⟩ := isTerm (timely.part ⟨[token.text, "("], "," :: (more ++ [")"]), by simp⟩)
  obtain ⟨t', rfl, rfl⟩ :=
    isTerm' (timely.part ⟨token.text :: "(" :: (words ++ [","]), [")"], by simp⟩)
  -- what lies on top waits, so the call lets nothing pass before its operands
  have waits : waiting.takeWhile (·.precedes op) = [] ∧ waiting.dropWhile (·.precedes op) = waiting := by
    cases waiting with
    | nil => exact ⟨rfl, rfl⟩
    | cons top below =>
      have stays := timely.starts token.text rfl op calls top rfl
      simp [stays]
  rw [waits.2] at split
  rw [waits.1]
  have complete := ((awaiting.complete t).between fixity).complete t'
  rw [split] at complete
  simpa using complete.passAll

/-- An operator after an operand is read with it as an operand. -/
lemma trailing (fits : v.Fits d) (h : ReadsOperand v d words parts) (spelled : v.trailing word op) :
    ReadsOperand v d (words ++ [word]) (parts ++ [.operator op]) := by
  intro tokens passed waiting same
  obtain ⟨before, last, rfl, texts, last_text⟩ := List.map_eq_append_iff.mp same
  obtain ⟨token, rfl, rfl⟩ := List.map_eq_singleton_iff.mp last_text
  obtain ⟨passed', waiting', run, complete⟩ := h before passed waiting texts
  obtain ⟨spells, fixity⟩ := fits.trailing spelled
  have placed := spells.shunt (y := Yard.flat passed' waiting' false)
  refine ⟨passed' ++ [.operator op], waiting', ?_, ?_⟩
  · rw [Yard.shuntAll_append run, Yard.shuntAll_cons placed]
    simp [Yard.place, fixity, Yard.flat, Yard.emit]
  · intro read timely awaiting
    have after := (complete read timely.left awaiting).trailing fixity
    rwa [List.append_assoc] at after

/-- An operator before an operand is read with it as an operand. -/
lemma leading (fits : v.Fits d) (spelled : v.leading word op) (h : ReadsOperand v d words parts) :
    ReadsOperand v d (word :: words) (.operator op :: parts) := by
  intro tokens passed waiting same
  obtain ⟨token, others, rfl, rfl, texts⟩ := List.map_eq_cons_iff.mp same
  obtain ⟨spells, precedes⟩ := fits.leading spelled
  have placed := spells.shunt (y := Yard.flat passed waiting true)
  have held : (Yard.flat passed waiting true).place op = Yard.flat passed (op :: waiting) true := by
    unfold Yard.place
    cases fixity : op.fixity with
    | unaryPrefix | function => rfl
    | binary | unaryPostfix =>
      rw [fixity] at precedes
      cases precedes
  obtain ⟨passed', waiting', run, complete⟩ := h others passed (op :: waiting) texts
  refine ⟨passed', waiting', ?_, ?_⟩
  · rw [Yard.shuntAll_cons placed, held, run]
  · intro read timely awaiting
    have later := Vocabulary.Timely.after timely.follows (.inl spelled) waiting
    simpa using complete _ later (.leading precedes awaiting)

/-- Two operands and an operator between them are read as an operand. -/
lemma between (fits : v.Fits d) (h : ReadsOperand v d words parts) (spelled : v.between word op)
    (h' : ReadsOperand v d more parts') :
    ReadsOperand v d (words ++ word :: more) (parts ++ .operator op :: parts') := by
  intro tokens passed waiting same
  obtain ⟨first, others, rfl, first_texts, other_texts⟩ := List.map_eq_append_iff.mp same
  obtain ⟨token, second, rfl, rfl, second_texts⟩ := List.map_eq_cons_iff.mp other_texts
  obtain ⟨spells, fixity⟩ := fits.between spelled
  obtain ⟨passed', waiting', run, complete⟩ := h first passed waiting first_texts
  have placed := spells.shunt (y := Yard.flat passed' waiting' false)
  rw [Yard.place_flat fixity] at placed
  obtain ⟨passed'', waiting'', run', complete'⟩ := h' second
    (passed' ++ (waiting'.takeWhile (·.precedes op)).map .operator)
    (op :: waiting'.dropWhile (·.precedes op)) second_texts
  refine ⟨passed'', waiting'', ?_, ?_⟩
  · rw [Yard.shuntAll_append run, Yard.shuntAll_cons placed, run']
  · intro read timely awaiting
    have before := complete read timely.left awaiting
    rw [← List.takeWhile_append_dropWhile (p := (·.precedes op)) (l := waiting')] at before
    have later := Vocabulary.Timely.after (List.isChain_append.mp timely.follows).2.1 (.inr spelled)
      (waiting'.dropWhile (·.precedes op))
    have after := complete' _ later (before.passAll.between fixity)
    simpa using after

end ReadsOperand

/-- A phrase of the grammar reads an operand. -/
lemma Vocabulary.Derives.readsOperand {v : Vocabulary} {d : Dialect} {category : Category}
    {words : List String} {parts : List Part} (h : v.Derives category words parts) (fits : v.Fits d) :
    ReadsOperand v d words parts := by
  induction h with
  | operand spelled => exact .operand (fits.operand spelled)
  | group _ ih => exact .group fits.parens ih
  | call calls _ _ ihl ihr => exact .call fits calls ihl ihr
  | trailing _ spelled ih => exact .trailing fits ih spelled
  | closed _ ih => exact ih
  | leading spelled _ ih => exact .leading fits spelled ih
  | unary _ ih => exact ih
  | between _ spelled _ ihl ihr => exact .between fits ihl spelled ihr

/-- Words that stand for operands, or that spell operators where those belong, and no calls. -/
def Dialect.vocabulary (d : Dialect) : Vocabulary where
  operand word o := d.operand? word = some o
  leading word op := Spells d ⟨word, default⟩ true op ∧ op.fixity.precedesOperand = true
  trailing word op := Spells d ⟨word, default⟩ false op ∧ op.fixity = .unaryPostfix
  between word op := Spells d ⟨word, default⟩ false op ∧ op.fixity = .binary
  called _ _ := False

namespace Dialect

variable {d : Dialect}

/-- The vocabulary of a dialect with parentheses fits the dialect. -/
lemma fits_vocabulary (parens : d.Parenthesizes) : d.vocabulary.Fits d where
  parens := parens
  operand spelled := spelled
  leading := by
    rintro token op ⟨spells, precedes⟩
    exact ⟨spells.of_text rfl, precedes⟩
  trailing := by
    rintro token op ⟨spells, fixity⟩
    exact ⟨spells.of_text rfl, fixity⟩
  between := by
    rintro token op ⟨spells, fixity⟩
    exact ⟨spells.of_text rfl, fixity⟩
  called := nofun

/-- Where nothing is called, nothing passes before its operand. -/
lemma isChain_bides (words : List String) : words.IsChain d.vocabulary.Bides :=
  (List.pairwise_of_forall fun _ _ _ _ _ => nofun).isChain

/-- An expression of the grammar is read without an error, and as the post-order of a term whose operands
and operators are written in the order of the tokens. Its evaluation fails at a variable or an operator
only, and never for want or excess of operands. -/
theorem read_expression (d : Dialect) (parens : d.Parenthesizes) (tokens : List Token) (parts : List Part)
    (derived : d.vocabulary.Derives .expression (tokens.map Token.text) parts) :
    (∃ t : Term, d.read tokens = t.postOrder.map .ok ∧ t.inOrder = parts) ∧
      ∀ bindings failure,
        (Evaluator.evaluate standardLookup bindings
          (.ofSource (Rpn.ofAnswers d (tokens.map some)))).1 = .error failure →
        (∀ error, failure ≠ .parse error) ∧
        (∀ context expected actual, failure ≠ .eval (.notEnoughOperands context expected actual)) ∧
        ∀ count, failure ≠ .eval (.tooManyOperands count) := by
  obtain ⟨rpn, filled, isTerm⟩ := (derived.readsOperand (fits_vocabulary parens)).fills rfl
  obtain ⟨t, rfl, same⟩ := isTerm (isChain_bides _)
  have read := filled.read
  refine ⟨⟨t, read, same.symm⟩, ?_⟩
  intro bindings failure failed
  rw [(Replay.Keeps.ofSource _).evaluate_eq] at failed
  change Evaluator.evaluateItems _ _ (d.read tokens) = _ at failed
  rw [read] at failed
  exact Term.failure_of_evaluateItems failed

/-- The tokens of `- √ ( :a + :b ) ! ^ - :c`. -/
def negatedPower : List Token :=
  [⟨"-", ⟨0, 1⟩⟩, ⟨"√", ⟨2, 5⟩⟩, ⟨"(", ⟨6, 7⟩⟩, ⟨":a", ⟨8, 10⟩⟩, ⟨"+", ⟨11, 12⟩⟩, ⟨":b", ⟨13, 15⟩⟩,
    ⟨")", ⟨16, 17⟩⟩, ⟨"!", ⟨18, 19⟩⟩, ⟨"^", ⟨20, 21⟩⟩, ⟨"-", ⟨22, 23⟩⟩, ⟨":c", ⟨24, 26⟩⟩]

/-- A negated root and a power are read as a term with the same operands and operators in the same order. -/
theorem read_negatedPower :
    Dialect.math.Parenthesizes ∧
      ∃ parts : List Part,
        Dialect.math.vocabulary.Derives .expression (negatedPower.map Token.text) parts ∧
        parts = [.operator Library.negation, .operator Library.squareRoot, .operand (.variable ":a"),
          .operator Library.addition, .operand (.variable ":b"), .operator Library.factorial,
          .operator Library.power, .operator Library.negation, .operand (.variable ":c")] ∧
        ∃ t : Term, Dialect.math.read negatedPower = t.postOrder.map .ok ∧ t.inOrder = parts := by
  have parens : Dialect.math.Parenthesizes := ⟨rfl, rfl⟩
  have named (name : String) (o : Operand) (h : Dialect.math.operand? name = some o) :
      Dialect.math.vocabulary.Derives .closed [name] [.operand o] := .operand h
  have sum := Vocabulary.Derives.between (v := Dialect.math.vocabulary)
    (.unary (.closed (named ":a" _ rfl)))
    (show Dialect.math.vocabulary.between "+" Library.addition from ⟨⟨rfl, by decide, rfl⟩, rfl⟩)
    (.closed (named ":b" _ rfl))
  have root := Vocabulary.Derives.leading (v := Dialect.math.vocabulary)
    (show Dialect.math.vocabulary.leading "√" Library.squareRoot from ⟨⟨rfl, by decide, rfl⟩, rfl⟩)
    (.closed (.trailing (.group sum)
      (show Dialect.math.vocabulary.trailing "!" Library.factorial from ⟨⟨rfl, by decide, rfl⟩, rfl⟩)))
  have negates : Dialect.math.vocabulary.leading "-" Library.negation :=
    ⟨⟨rfl, by decide, rfl⟩, rfl⟩
  have derived := Vocabulary.Derives.between (.unary (.leading negates root))
    (show Dialect.math.vocabulary.between "^" Library.power from ⟨⟨rfl, by decide, rfl⟩, rfl⟩)
    (.leading negates (.closed (named ":c" _ rfl)))
  exact ⟨parens, _, derived, rfl, (read_expression .math parens negatedPower _ derived).1⟩

end Dialect

end Formula
