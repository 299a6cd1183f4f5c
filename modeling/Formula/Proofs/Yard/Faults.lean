import Formula.Proofs.Yard.Brackets
import Formula.Yard

/-!
# Faulty tokens

Which sequences of tokens are rejected, with which error and at which place, said without a yard. A token
is faulty where it spells no operator after the tokens before it, or closes a parenthesis that was not
opened; the first faulty token decides. Where there is none, the last parenthesis that is left open does.
-/

namespace Formula.Dialect

/-- Tells whether an operand is expected after a token, by whether one was expected before it. -/
def expectsAfter (d : Dialect) (expected : Bool) (token : Token) : Bool :=
  match d.operand? token.text with
  | some _ => false
  | none =>
    if token.text = "(" ∨ token.text = "," then true
    else if token.text = ")" then false
    else (d.registry.resolve? token.text expected).any fun op => decide (op.fixity ≠ .unaryPostfix)

/-- Tells whether an operand is expected after some tokens, as it is at the beginning. -/
def expectsOperand (d : Dialect) (tokens : List Token) : Bool := tokens.foldl d.expectsAfter true

/-- Whether an operand is expected is told one token after another. -/
lemma expectsOperand_concat (d : Dialect) (tokens : List Token) (token : Token) :
    d.expectsOperand (tokens ++ [token]) = d.expectsAfter (d.expectsOperand tokens) token :=
  List.foldl_concat _ _ _ _

/-- A token that is no operand and no punctuation and spells no operator where it stands. -/
structure Unresolved (d : Dialect) (before : List Token) (token : Token) : Prop where
  no_operand : d.operand? token.text = none
  no_punctuation : token.text ∉ ["(", ")", ","]
  no_operator : d.registry.resolve? token.text (d.expectsOperand before) = none

/-- The error of a token where it stands. -/
inductive Faulty (d : Dialect) (before : List Token) (token : Token) : ParseError → Prop where
  | unknownFunction :
    d.Unresolved before token →
    Lexer.isWord token.text = true →
    d.registry.leading.get? token.text = none →
    d.registry.trailing.get? token.text = none →
    Faulty d before token (.unknownFunction token.text token.span)
  | unknownToken :
    d.Unresolved before token →
    ¬ (Lexer.isWord token.text = true ∧ d.registry.leading.get? token.text = none ∧
      d.registry.trailing.get? token.text = none) →
    Faulty d before token (.unknownToken token.text token.span)
  | unopened :
    Token.Unopened before token →
    Faulty d before token (.mismatchedParentheses token.span)

/-- No token is faulty where it stands. -/
def Clear (d : Dialect) (tokens : List Token) : Prop :=
  ∀ before token after, tokens = before ++ token :: after →
    ¬ d.Unresolved before token ∧ ¬ Token.Unopened before token

/-- The error of a sequence of tokens. -/
inductive Rejects (d : Dialect) (tokens : List Token) : ParseError → Prop where
  | faulty {before token after e} :
    tokens = before ++ token :: after →
    d.Clear before →
    d.Faulty before token e →
    Rejects d tokens e
  | unclosed {before token after} :
    d.Clear tokens →
    Token.count ")" tokens < Token.count "(" tokens →
    tokens = before ++ token :: after →
    Token.LastUnclosed token after →
    Rejects d tokens (.mismatchedParentheses token.span)

variable {d : Dialect} {tokens before : List Token} {token : Token} {e e' : ParseError}

namespace Faulty

/-- After a faulty token, whatever comes later, one is faulty. -/
lemma not_clear (h : d.Faulty before token e) (after : List Token) :
    ¬ d.Clear (before ++ token :: after) := by
  intro clear
  obtain ⟨resolved, opened⟩ := clear before token after rfl
  cases h with
  | unknownFunction unresolved => exact resolved unresolved
  | unknownToken unresolved => exact resolved unresolved
  | unopened unopened => exact opened unopened

/-- A token where it stands has only one error. -/
lemma unique (h : d.Faulty before token e) (h' : d.Faulty before token e') : e = e' := by
  cases h with
  | unknownFunction unresolved word leading trailing =>
    cases h' with
    | unknownFunction => rfl
    | unknownToken _ known => exact absurd ⟨word, leading, trailing⟩ known
    | unopened unopened => exact absurd (by simp [unopened.1]) unresolved.no_punctuation
  | unknownToken unresolved known =>
    cases h' with
    | unknownFunction _ word leading trailing => exact absurd ⟨word, leading, trailing⟩ known
    | unknownToken => rfl
    | unopened unopened => exact absurd (by simp [unopened.1]) unresolved.no_punctuation
  | unopened unopened =>
    cases h' with
    | unknownFunction unresolved => exact absurd (by simp [unopened.1]) unresolved.no_punctuation
    | unknownToken unresolved => exact absurd (by simp [unopened.1]) unresolved.no_punctuation
    | unopened => rfl

end Faulty

/-- The error that a yard gives for a token. -/
lemma Unresolved.faulty (h : d.Unresolved before token) :
    d.Faulty before token (Yard.unknown d.registry token) := by
  unfold Yard.unknown
  split
  · next unknown =>
    simp only [Registry.resolve?, if_true, Bool.and_eq_true, Option.isNone_iff_eq_none,
      Option.or_eq_none_iff] at unknown
    exact .unknownFunction h unknown.1 unknown.2.1 unknown.2.2
  · next known =>
    simp only [Registry.resolve?, if_true, Bool.and_eq_true, Option.isNone_iff_eq_none,
      Option.or_eq_none_iff] at known
    exact .unknownToken h known

namespace Clear

/-- Without tokens none is faulty. -/
lemma nil : d.Clear [] := by
  rintro before token after same
  simp at same

/-- A token that is not faulty where it stands leaves none that is. -/
lemma concat (h : d.Clear tokens) (resolved : ¬ d.Unresolved tokens token)
    (opened : ¬ Token.Unopened tokens token) : d.Clear (tokens ++ [token]) := by
  intro before other after same
  rcases Token.place_cases same with ⟨rfl, rfl, -⟩ | ⟨between, -, nothing⟩ | ⟨between, earlier, -⟩
  · exact ⟨resolved, opened⟩
  · simp at nothing
  · exact h before other between earlier

/-- Where no token is faulty, none is up to any place. -/
lemma of_append {after : List Token} (h : d.Clear (tokens ++ after)) : d.Clear tokens := by
  intro before token rest same
  refine h before token (rest ++ after) ?_
  rw [same, List.append_assoc, List.cons_append]

end Clear

/-- Where some token is faulty, there is one without a reading or one that closes too much. -/
lemma not_clear_iff :
    ¬ d.Clear tokens ↔ ∃ before token after, tokens = before ++ token :: after ∧
      (d.Unresolved before token ∨ Token.Unopened before token) := by
  simp only [Clear, not_forall, exists_prop, not_and_or, not_not]

/-- An error is that of a faulty token, or more parentheses are opened than closed. -/
lemma Rejects.not_clear_or (h : d.Rejects tokens e) :
    ¬ d.Clear tokens ∨ Token.count ")" tokens < Token.count "(" tokens := by
  cases h with
  | faulty place _ faulty =>
    rw [place]
    exact .inl (faulty.not_clear _)
  | unclosed _ fewer => exact .inr fewer

/-- Tokens have one error at most. -/
lemma Rejects.unique (h : d.Rejects tokens e) (h' : d.Rejects tokens e') : e = e' := by
  cases h with
  | faulty place clear faulty =>
    cases h' with
    | faulty place' clear' faulty' =>
      rcases Token.place_cases (place.symm.trans place') with ⟨rfl, rfl, -⟩ | ⟨between, rfl, -⟩ |
        ⟨between, rfl, -⟩
      · exact faulty.unique faulty'
      · exact absurd clear' (faulty.not_clear between)
      · exact absurd clear (faulty'.not_clear between)
    | unclosed clear' =>
      rw [place] at clear'
      exact absurd clear' (faulty.not_clear _)
  | unclosed clear _ place last =>
    cases h' with
    | faulty place' _ faulty =>
      rw [place'] at clear
      exact absurd clear (faulty.not_clear _)
    | unclosed _ _ place' last' =>
      rw [last.unique last' (place.symm.trans place')]

end Formula.Dialect
