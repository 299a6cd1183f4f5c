import Formula.Proofs.Phrase
import Formula.Proofs.Yard.Faults

/-!
# Rejected tokens

A yard `Remembers` of the tokens it has taken whether an operand is expected after them and which
parentheses they leave open. That is enough to tell a faulty token when it comes, and what is left open
when none comes: `read_of_punctuates` says that what is read from tokens ends with their error.
-/

namespace Formula

/-- Parentheses and commas are no operands. -/
structure Dialect.Punctuates (d : Dialect) : Prop extends Dialect.Parenthesizes d where
  separates : d.operand? "," = none

namespace Yard

/-- The places of the open parentheses on a stack, the topmost first. -/
def opened : List Held → List Span
  | [] => []
  | .opened span :: rest => span :: opened rest
  | .operator _ :: rest => opened rest

section Opened

variable {y : Yard} {span : Span} {spans : List Span}

/-- Operators open nothing. -/
lemma opened_operators (ops : List Operator) (below : List Held) :
    opened (ops.map .operator ++ below) = opened below := by
  induction ops with
  | nil => rfl
  | cons op rest ih => exact ih

/-- As many places are open as parentheses. -/
lemma length_opened (stack : List Held) : (opened stack).length = openings stack := by
  induction stack with
  | nil => rfl
  | cons held rest ih =>
    cases held with
    | opened span => exact congrArg Nat.succ ih
    | operator op => exact ih

/-- The topmost open parenthesis is the first of the open places. -/
lemma topmostOpen?_eq (stack : List Held) : topmostOpen? stack = (opened stack).head? := by
  induction stack with
  | nil => rfl
  | cons held rest ih =>
    cases held with
    | opened span => rfl
    | operator op => exact ih

/-- What is released opens nothing. -/
lemma opened_release (pass : Operator → Bool) : opened (y.release pass).stack = opened y.stack := by
  have parts := opened_operators (Yard.split pass y.stack).1 (Yard.split pass y.stack).2
  rw [split_append] at parts
  exact parts.symm

/-- A function that passes leaves the same places open. -/
lemma opened_call (y : Yard) : opened y.call.stack = opened y.stack := by
  by_cases awaits : AwaitsGroup y.stack
  · obtain ⟨top, below, same, function⟩ := awaits
    rw [call_of_awaits same function, same]
    rfl
  · rw [call_of_not_awaits awaits]

/-- An operator that is placed leaves the same places open. -/
lemma opened_place (y : Yard) (op : Operator) : opened (y.place op).stack = opened y.stack := by
  unfold place
  split
  · rfl
  · rfl
  · rfl
  · exact opened_release _

/-- After an operator an operand is expected, unless it stands behind its own. -/
lemma expected_place (y : Yard) (op : Operator) :
    (y.place op).operandExpected = decide (op.fixity ≠ .unaryPostfix) := by
  unfold place
  cases fixity : op.fixity <;> rfl

/-- When all has been released, an open parenthesis is on top, or nothing is left. -/
lemma walled_releaseAll (y : Yard) : Walled y.releaseAll.stack := by
  change Walled (Yard.split (fun _ => true) y.stack).2
  induction y.stack with
  | nil => trivial
  | cons held rest ih =>
    cases held with
    | opened span => trivial
    | operator op => exact ih

/-- Where no operator waits on top and no parenthesis is open, a stack is empty. -/
lemma Walled.eq_nil {stack : List Held} (wall : Walled stack) (h : opened stack = []) : stack = [] := by
  cases stack with
  | nil => rfl
  | cons held rest =>
    cases held with
    | opened span => cases h
    | operator op => exact wall.elim

/-- Where no operator waits on top, the last open parenthesis is there. -/
lemma Walled.exists_below {stack : List Held} (wall : Walled stack) (h : opened stack = span :: spans) :
    ∃ below, stack = .opened span :: below ∧ opened below = spans := by
  cases stack with
  | nil => cases h
  | cons held rest =>
    cases held with
    | opened place =>
      cases h
      exact ⟨rest, rfl, rfl⟩
    | operator op => exact wall.elim

/-- Where a parenthesis is open, a closing one takes it off the stack. -/
lemma close_of_opened (h : opened y.stack = span :: spans) (closing : Span) :
    ∃ y', y.close closing = (y', none) ∧ y'.operandExpected = false ∧ opened y'.stack = spans := by
  obtain ⟨below, top, left⟩ := (walled_releaseAll y).exists_below ((opened_release _).trans h)
  rw [close, closeTop, top]
  exact ⟨_, rfl, rfl, (opened_call _).trans left⟩

/-- Where no parenthesis is open, a closing one is an error, after all operators have passed. -/
lemma close_of_nil (h : opened y.stack = []) (closing : Span) :
    y.releaseAll.stack = [] ∧ y.close closing = (y.releaseAll, some (.mismatchedParentheses closing)) := by
  have empty := (walled_releaseAll y).eq_nil ((opened_release _).trans h)
  refine ⟨empty, ?_⟩
  rw [close, closeTop, empty]

/-- The error at the end is that of the topmost open parenthesis. -/
lemma finish_error (balanced : Balanced y) :
    y.finish.2 = (opened y.stack).head?.map .mismatchedParentheses := by
  unfold finish
  rw [topmostOpen?_eq, balanced, ← length_opened]
  cases open_places : opened y.stack with
  | cons span spans => rfl
  | nil =>
    have top := (walled_releaseAll y).eq_nil ((opened_release _).trans open_places)
    simp [finishTop, top]

end Opened

/-- What a yard knows of the tokens it has taken. -/
structure Remembers (d : Dialect) (tokens : List Token) (y : Yard) : Prop where
  expects : y.operandExpected = d.expectsOperand tokens
  leaves : Token.Leaves tokens (opened y.stack)
  balanced : Balanced y

variable {d : Dialect} {tokens : List Token} {y y' : Yard} {token : Token} {e : ParseError}

/-- An empty yard remembers that no token has come. -/
lemma Remembers.empty (d : Dialect) : Remembers d [] Yard.empty :=
  ⟨rfl, .matched .nil, rfl⟩

/-- A token that is no parenthesis leaves alone what is open. -/
lemma Remembers.concat (h : y.Remembers d tokens)
    (no_paren : token.text ≠ "(" ∧ token.text ≠ ")") (taken : y.shunt d token = (y', none))
    (expects : y'.operandExpected = d.expectsOperand (tokens ++ [token]))
    (opened_kept : opened y'.stack = opened y.stack) : y'.Remembers d (tokens ++ [token]) where
  expects := expects
  leaves := by
    rw [opened_kept]
    exact h.leaves.concat no_paren
  balanced := by
    have balanced := h.balanced.shunt d token
    rwa [taken] at balanced

/-- What becomes of a token after others: the yard takes it, and it is not faulty there; or the yard gives
the error of a faulty token. -/
def Judges (d : Dialect) (tokens : List Token) (token : Token) (y : Yard) : Prop :=
  (∃ y', y.shunt d token = (y', none) ∧ y'.Remembers d (tokens ++ [token]) ∧
    ¬ d.Unresolved tokens token ∧ ¬ Token.Unopened tokens token) ∨
  ∃ y' e, y.shunt d token = (y', some e) ∧ d.Faulty tokens token e

/-- An operand is taken. -/
lemma Remembers.judges_operand (h : y.Remembers d tokens) (punctuates : d.Punctuates) {value : Operand}
    (operand : d.operand? token.text = some value) : y.Judges d tokens token := by
  have no_opening : token.text ≠ "(" := by
    intro same
    rw [same, punctuates.opens] at operand
    cases operand
  have no_closing : token.text ≠ ")" := by
    intro same
    rw [same, punctuates.closes] at operand
    cases operand
  have taken := shunt_of_move (y := y) (Dialect.move_operand operand _)
  have expects : d.expectsOperand (tokens ++ [token]) = false := by
    simp [Dialect.expectsOperand_concat, Dialect.expectsAfter, operand]
  refine .inl ⟨_, taken, h.concat ⟨no_opening, no_closing⟩ taken expects.symm rfl, ?_, ?_⟩
  · intro unresolved
    rw [unresolved.no_operand] at operand
    cases operand
  · intro unopened
    exact no_closing unopened.1

/-- An open parenthesis is taken. -/
lemma Remembers.judges_opening (h : y.Remembers d tokens) (punctuates : d.Punctuates)
    (opens : token.text = "(") : y.Judges d tokens token := by
  obtain ⟨_, span⟩ := token
  subst opens
  have taken := shunt_of_move (y := y) (Dialect.move_opening punctuates.opens span _)
  have balanced := h.balanced.shunt d ⟨"(", span⟩
  rw [taken] at balanced
  have expects : d.expectsOperand (tokens ++ [⟨"(", span⟩]) = true := by
    simp [Dialect.expectsOperand_concat, Dialect.expectsAfter, punctuates.opens]
  refine .inl ⟨_, taken, ⟨expects.symm, h.leaves.opening rfl, balanced⟩, ?_, ?_⟩
  · intro unresolved
    exact unresolved.no_punctuation List.mem_cons_self
  · intro unopened
    have other : "(" ≠ ")" := by decide
    exact other unopened.1

/-- A closing parenthesis is taken where one is open, and is an error elsewhere. -/
lemma Remembers.judges_closing (h : y.Remembers d tokens) (punctuates : d.Punctuates)
    (closes : token.text = ")") : y.Judges d tokens token := by
  obtain ⟨_, span⟩ := token
  subst closes
  have taken := shunt_of_move (y := y) (Dialect.move_closing punctuates.closes span _)
  have leaves := h.leaves
  have counted := leaves.count_eq
  cases open_places : opened y.stack with
  | nil =>
    have fails := (close_of_nil open_places span).2
    refine .inr ⟨y.releaseAll, _, taken.trans fails, .unopened ⟨rfl, ?_⟩⟩
    rw [open_places] at counted
    simp [counted]
  | cons place places =>
    obtain ⟨y', closed, expected, left⟩ := close_of_opened open_places span
    have balanced := h.balanced.shunt d ⟨")", span⟩
    rw [taken.trans closed] at balanced
    rw [open_places] at leaves counted
    have expects : d.expectsOperand (tokens ++ [⟨")", span⟩]) = false := by
      simp [Dialect.expectsOperand_concat, Dialect.expectsAfter, punctuates.closes]
    have after : Token.Leaves (tokens ++ [⟨")", span⟩]) (opened y'.stack) := by
      rw [left]
      exact leaves.closing rfl
    refine .inl ⟨y', taken.trans closed, ⟨expected.trans expects.symm, after, balanced⟩, ?_, ?_⟩
    · intro unresolved
      exact unresolved.no_punctuation (by simp)
    · rintro ⟨-, fewer⟩
      simp [counted] at fewer

/-- A comma is taken. -/
lemma Remembers.judges_separator (h : y.Remembers d tokens) (punctuates : d.Punctuates)
    (separates : token.text = ",") : y.Judges d tokens token := by
  obtain ⟨_, span⟩ := token
  subst separates
  have taken := shunt_of_move (y := y) (Dialect.move_separator punctuates.separates span _)
  have expects : d.expectsOperand (tokens ++ [⟨",", span⟩]) = true := by
    simp [Dialect.expectsOperand_concat, Dialect.expectsAfter, punctuates.separates]
  have no_paren : "," ≠ "(" ∧ "," ≠ ")" := by decide
  refine .inl ⟨_, taken, h.concat no_paren taken expects.symm (opened_release _), ?_, ?_⟩
  · intro unresolved
    exact unresolved.no_punctuation (by simp)
  · intro unopened
    exact no_paren.2 unopened.1

/-- A token that is neither operand nor punctuation is taken if it spells an operator. -/
lemma Remembers.judges_other (h : y.Remembers d tokens) (no_operand : d.operand? token.text = none)
    (no_punctuation : token.text ∉ ["(", ")", ","]) : y.Judges d tokens token := by
  have others := no_punctuation
  simp only [List.mem_cons, List.not_mem_nil, or_false, not_or] at others
  cases resolved : d.registry.resolve? token.text (d.expectsOperand tokens) with
  | none =>
    have fails : y.shunt d token = (y, some (unknown d.registry token)) := by
      rw [← h.expects] at resolved
      simp [shunt, no_operand, others, resolved]
    exact .inr ⟨y, _, fails, Dialect.Unresolved.faulty ⟨no_operand, no_punctuation, resolved⟩⟩
  | some op =>
    have spells : Spells d token y.operandExpected op := by
      rw [← h.expects] at resolved
      exact ⟨no_operand, no_punctuation, resolved⟩
    have expects : d.expectsOperand (tokens ++ [token]) = decide (op.fixity ≠ .unaryPostfix) := by
      simp [Dialect.expectsOperand_concat, Dialect.expectsAfter, no_operand, others, resolved]
    refine .inl ⟨_, spells.shunt, h.concat ⟨others.1, others.2.1⟩ spells.shunt
      ((expected_place y op).trans expects.symm) (opened_place y op), ?_, ?_⟩
    · intro unresolved
      rw [unresolved.no_operator] at resolved
      cases resolved
    · intro unopened
      exact others.2.1 unopened.1

/-- A yard that knows the tokens before a token judges it. -/
lemma Remembers.judges (h : y.Remembers d tokens) (punctuates : d.Punctuates) (token : Token) :
    y.Judges d tokens token := by
  cases operand : d.operand? token.text with
  | some value => exact h.judges_operand punctuates operand
  | none =>
    by_cases punctuation : token.text ∈ ["(", ")", ","]
    · simp only [List.mem_cons, List.not_mem_nil, or_false] at punctuation
      rcases punctuation with opens | closes | separates
      · exact h.judges_opening punctuates opens
      · exact h.judges_closing punctuates closes
      · exact h.judges_separator punctuates separates
    · exact h.judges_other operand punctuation

/-- A yard takes all tokens and none of them is faulty, or it gives the error of the first that is. -/
lemma shuntAll_remembers (punctuates : d.Punctuates) (tokens : List Token) :
    (∃ y, Yard.empty.shuntAll d tokens = (y, none) ∧ y.Remembers d tokens ∧ d.Clear tokens) ∨
      ∃ y e, Yard.empty.shuntAll d tokens = (y, some e) ∧
        ∃ before token after, tokens = before ++ token :: after ∧ d.Clear before ∧
          d.Faulty before token e := by
  -- the last token stands after all others, and a yard that took these remembers them
  induction tokens using List.reverseRecOn with
  | nil => exact .inl ⟨_, rfl, .empty d, .nil⟩
  | append_singleton tokens token ih =>
    rcases ih with ⟨y, run, remembers, clear⟩ | ⟨y, e, run, before, other, after, rfl, clear, faulty⟩
    · rcases remembers.judges punctuates token with ⟨y', taken, later, resolved, opened⟩ |
        ⟨y', e, fails, faulty⟩
      · refine .inl ⟨y', ?_, later, clear.concat resolved opened⟩
        rw [shuntAll_append run, shuntAll_cons taken, shuntAll_nil]
      · refine .inr ⟨y', e, ?_, tokens, token, [], rfl, clear, faulty⟩
        rw [shuntAll_append run, shuntAll_cons_eq, fails]
    · refine .inr ⟨y, e, shuntAll_append_of_error run, before, other, after ++ [token], ?_, clear, faulty⟩
      rw [List.append_assoc, List.cons_append]

/-- A yard gives the error of the tokens, or they have none and close all that they open. -/
lemma parse_rejects (punctuates : d.Punctuates) (tokens : List Token) :
    (∃ e, (Yard.empty.parse d tokens).2 = some e ∧ d.Rejects tokens e) ∨
      ((Yard.empty.parse d tokens).2 = none ∧ d.Clear tokens ∧
        Token.count "(" tokens = Token.count ")" tokens) := by
  rcases shuntAll_remembers punctuates tokens with ⟨y, run, remembers, clear⟩ |
    ⟨y, e, run, before, token, after, place, clear, faulty⟩
  · have parsed : Yard.empty.parse d tokens = y.finish := by rw [parse, run]
    rw [parsed, finish_error remembers.balanced]
    have leaves := remembers.leaves
    have counted := leaves.count_eq
    cases open_places : opened y.stack with
    | nil =>
      rw [open_places] at counted
      exact .inr ⟨rfl, clear, counted⟩
    | cons span spans =>
      rw [open_places] at leaves counted
      obtain ⟨before, token, after, place, rfl, last⟩ := leaves.exists_last
      have fewer : Token.count ")" tokens < Token.count "(" tokens := by
        rw [counted, List.length_cons]
        omega
      exact .inl ⟨_, rfl, .unclosed clear fewer place last⟩
  · have parsed : Yard.empty.parse d tokens = (y, some e) := by rw [parse, run]
    rw [parsed]
    exact .inl ⟨e, rfl, .faulty place clear faulty⟩

end Yard

namespace Dialect

/-- What is read from tokens is parts and then at most one error. There is an error if some token spells no
operator where it stands, or closes a parenthesis that was not opened, or a parenthesis is left open; and
it is the error of the first token of these kinds or, where there is none, of the last parenthesis that is
left open. -/
theorem read_of_punctuates (d : Dialect) (punctuates : d.Punctuates) (tokens : List Token) :
    ∃ (parts : List Part) (error? : Option ParseError),
      d.read tokens = parts.map .ok ++ (error?.map .error).toList ∧
      (∀ e, error? = some e ↔ d.Rejects tokens e) ∧
      (error?.isSome = true ↔
        (∃ before token after, tokens = before ++ token :: after ∧
          (d.Unresolved before token ∨ Token.Unopened before token)) ∨
        Token.count ")" tokens < Token.count "(" tokens) := by
  have read : d.read tokens = Yard.yielded (Yard.empty.parse d tokens) := by
    rw [Dialect.read, Rpn.items_ofAnswers, Answers.tokens_map_some]
  refine ⟨(Yard.empty.parse d tokens).1.output, (Yard.empty.parse d tokens).2, read, ?_⟩
  rw [← not_clear_iff]
  rcases Yard.parse_rejects punctuates tokens with ⟨e, failed, rejects⟩ | ⟨succeeded, clear, counted⟩
  · rw [failed]
    refine ⟨?_, iff_of_true rfl rejects.not_clear_or⟩
    intro e'
    constructor
    · rintro ⟨⟩
      exact rejects
    · intro rejects'
      rw [rejects.unique rejects']
  · have accepted : ¬ (¬ d.Clear tokens ∨ Token.count ")" tokens < Token.count "(" tokens) := by
      rintro (faulty | fewer)
      · exact faulty clear
      · exact absurd counted (Nat.ne_of_gt fewer)
    rw [succeeded]
    refine ⟨?_, iff_of_false Bool.false_ne_true accepted⟩
    intro e
    refine iff_of_false (Option.some_ne_none e).symm ?_
    intro rejects
    exact accepted rejects.not_clear_or

/-- The tokens of `( ( :a ) ! - √ ( :b , :c`. -/
def unclosedRoot : List Token :=
  [⟨"(", ⟨0, 1⟩⟩, ⟨"(", ⟨2, 3⟩⟩, ⟨":a", ⟨4, 6⟩⟩, ⟨")", ⟨7, 8⟩⟩, ⟨"!", ⟨9, 10⟩⟩, ⟨"-", ⟨11, 12⟩⟩,
    ⟨"√", ⟨13, 16⟩⟩, ⟨"(", ⟨17, 18⟩⟩, ⟨":b", ⟨19, 21⟩⟩, ⟨",", ⟨22, 23⟩⟩, ⟨":c", ⟨24, 26⟩⟩]

/-- A root whose parenthesis is left open is rejected at the place of this parenthesis. -/
theorem read_unclosedRoot :
    Dialect.math.Punctuates ∧
      .error (.mismatchedParentheses ⟨17, 18⟩) ∈ Dialect.math.read unclosedRoot ∧
      Dialect.math.Rejects unclosedRoot (.mismatchedParentheses ⟨17, 18⟩) := by
  have punctuates : Dialect.math.Punctuates := ⟨⟨rfl, rfl⟩, rfl⟩
  have member : .error (.mismatchedParentheses ⟨17, 18⟩) ∈ Dialect.math.read unclosedRoot := by
    rw [Dialect.read, Rpn.items_ofAnswers]
    exact List.mem_of_getLast? rfl
  obtain ⟨parts, error?, read, rejects, -⟩ := read_of_punctuates .math punctuates unclosedRoot
  refine ⟨punctuates, member, (rejects _).mp ?_⟩
  rw [read] at member
  simpa using member

end Dialect

end Formula
