import Formula.Proofs.Yard.Laziness
import Formula.Proofs.Yard.Rejection

/-!
# Accounts

Nothing is lost in a yard, and nothing comes to it from elsewhere. The operands that have passed are those of
the tokens, in their order, and the operators that have passed or wait are those that the tokens spell. A
yard keeps these accounts with every token, one that is an error included, and at the end;
`Rpn.keeps_accounts` says it of every state of a reading.
-/

namespace Formula

def Held.operator? : Held → Option Operator
  | .opened _ => none
  | .operator op => some op

namespace Dialect

/-- The operator that a token spells, where an operand is expected or is not. -/
def operator? (d : Dialect) (token : Token) (operandExpected : Bool) : Option Operator :=
  match d.operand? token.text with
  | some _ => none
  | none =>
    if token.text ∈ ["(", ")", ","] then none
    else d.registry.resolve? token.text operandExpected

/-- The operators that tokens spell after others, each where it stands. -/
def operatorsAfter (d : Dialect) (operandExpected : Bool) : List Token → List Operator
  | [] => []
  | token :: rest =>
    (d.operator? token operandExpected).toList ++
      d.operatorsAfter (d.expectsAfter operandExpected token) rest

/-- The operators that tokens spell, each where it stands. -/
def operators (d : Dialect) (tokens : List Token) : List Operator := d.operatorsAfter true tokens

/-- The operands that tokens stand for. -/
def operands (d : Dialect) (tokens : List Token) : List Operand :=
  tokens.filterMap fun token => d.operand? token.text

/-- A token adds the operator that it spells where it stands. -/
lemma operators_concat (d : Dialect) (tokens : List Token) (token : Token) :
    d.operators (tokens ++ [token]) =
      d.operators tokens ++ (d.operator? token (d.expectsOperand tokens)).toList := by
  -- generalized to tokens after others, for the recursion of `operatorsAfter`
  have after (expected : Bool) : d.operatorsAfter expected (tokens ++ [token]) =
      d.operatorsAfter expected tokens ++
        (d.operator? token (tokens.foldl d.expectsAfter expected)).toList := by
    induction tokens generalizing expected with
    | nil => simp [operatorsAfter]
    | cons first rest ih => simp [operatorsAfter, ih]
  exact after true

/-- A token adds the operand that it stands for. -/
lemma operands_concat (d : Dialect) (tokens : List Token) (token : Token) :
    d.operands (tokens ++ [token]) = d.operands tokens ++ (d.operand? token.text).toList := by
  cases operand : d.operand? token.text <;> simp [operands, operand]

end Dialect

/-- The operand that passes with a move. -/
def Move.operand? : Move → Option Operand
  | .operand value => some value
  | _ => none

/-- The operator that comes with a move. -/
def Move.operator? : Move → Option Operator
  | .operator op => some op
  | _ => none

attribute [simp] Part.operand? Part.operator? Held.operator? Move.operand? Move.operator?

namespace Dialect

variable (d : Dialect) (token : Token) (operandExpected : Bool)

/-- A token moves the operand that it stands for. -/
lemma operand?_move : (d.move token operandExpected).operand? = d.operand? token.text := by
  unfold move
  cases d.operand? token.text with
  | some value => rfl
  | none =>
    simp only
    split
    · rfl
    · split
      · rfl
      · split
        · rfl
        · cases d.registry.resolve? token.text operandExpected <;> rfl

/-- A token moves the operator that it spells where it stands. -/
lemma operator?_move :
    (d.move token operandExpected).operator? = d.operator? token operandExpected := by
  unfold move operator?
  cases d.operand? token.text with
  | some value => rfl
  | none =>
    simp only
    split
    · next opens => simp [opens]
    · next no_opening =>
      split
      · next closes => simp [closes]
      · next no_closing =>
        split
        · next separates => simp [separates]
        · next no_separator =>
          rw [if_neg (by simp [no_opening, no_closing, no_separator])]
          cases d.registry.resolve? token.text operandExpected <;> rfl

end Dialect

/-- Every part is an operand or an operator. -/
lemma Part.length_eq (parts : List Part) :
    parts.length = (parts.filterMap Part.operand?).length +
      (parts.filterMap Part.operator?).length := by
  induction parts with
  | nil => rfl
  | cons part rest ih =>
    cases part with
    | operand o =>
      simp only [List.length_cons, List.filterMap_cons, Part.operand?, Part.operator?, ih]
      omega
    | operator op =>
      simp only [List.length_cons, List.filterMap_cons, Part.operand?, Part.operator?, ih]
      omega

namespace Yard

/-- The operands that have passed. -/
def operands (y : Yard) : List Operand := y.output.filterMap Part.operand?

/-- The operators that have passed, and below them those that wait, from the top down. -/
def operators (y : Yard) : List Operator :=
  y.output.filterMap Part.operator? ++ y.stack.filterMap Held.operator?

section Steps

variable (y : Yard)

/-- What is released is no operand. -/
lemma operands_release (pass : Operator → Bool) : (y.release pass).operands = y.operands := by
  simp [operands, release]

/-- What is released goes from the top of the stack to the end of what has passed. -/
lemma operators_release (pass : Operator → Bool) : (y.release pass).operators = y.operators := by
  have parts := congrArg (List.filterMap Held.operator?) (split_append pass y.stack)
  simp only [operators, release, ← parts]
  simp [Function.comp_def]

/-- A function that passes is no operand. -/
lemma operands_call : y.call.operands = y.operands := by
  by_cases awaits : AwaitsGroup y.stack
  · obtain ⟨f, below, top, function⟩ := awaits
    simp [operands, call_of_awaits top function]
  · rw [call_of_not_awaits awaits]

/-- A function that passes is the one that waited on top. -/
lemma operators_call : y.call.operators = y.operators := by
  by_cases awaits : AwaitsGroup y.stack
  · obtain ⟨f, below, top, function⟩ := awaits
    simp [operators, call_of_awaits top function, top]
  · rw [call_of_not_awaits awaits]

/-- Closing a group lets no operand pass. -/
lemma operands_closeTop (span : Span) : (y.closeTop span).1.operands = y.operands := by
  unfold closeTop
  split
  · exact operands_call _
  · rfl

/-- Closing a group neither loses an operator nor adds one. -/
lemma operators_closeTop (span : Span) : (y.closeTop span).1.operators = y.operators := by
  unfold closeTop
  split
  · next place below top =>
    -- the parenthesis that is taken off the stack is no operator
    refine (operators_call _).trans ?_
    simp [operators, top, List.filterMap_cons]
  · rfl

/-- Placing an operator lets no operand pass. -/
lemma operands_place (op : Operator) : (y.place op).operands = y.operands := by
  unfold place
  split
  · rfl
  · rfl
  · simp [operands, emit]
  · exact operands_release y _

/-- An operator comes to those that wait, or passes at once. -/
lemma operators_place (op : Operator) : (y.place op).operators.Perm (y.operators ++ [op]) := by
  have held (y : Yard) : (y.hold (.operator op)).operators.Perm (y.operators ++ [op]) := by
    simp only [operators, hold, List.filterMap_cons, Held.operator?, List.append_assoc]
    exact (List.perm_append_singleton op _).symm.append_left _
  unfold place
  split
  · exact held y
  · exact held y
  · simp only [operators, emit, List.filterMap_append, List.filterMap_cons, Part.operator?,
      List.filterMap_nil, List.append_assoc]
    exact List.perm_append_comm.append_left _
  · rw [← operators_release y (·.precedes op)]
    exact held _

/-- A move lets just its own operand pass. -/
lemma operands_make (move : Move) :
    (y.make move).1.operands = y.operands ++ move.operand?.toList := by
  cases move with
  | operand value => simp [make, operands, emit]
  | opening span => simp [make, operands, hold]
  | closing span =>
    have kept : (y.close span).1.operands = y.operands :=
      (operands_closeTop _ span).trans (operands_release y _)
    exact kept.trans (List.append_nil _).symm
  | separator => exact (operands_release y fun _ => true).trans (List.append_nil _).symm
  | operator op => simpa [make] using operands_place y op
  | unknown e => simp [make]

/-- A move adds just its own operator to those that have passed or wait. -/
lemma operators_make (move : Move) :
    (y.make move).1.operators.Perm (y.operators ++ move.operator?.toList) := by
  cases move with
  | operand value => simp [make, operators, emit, List.filterMap_cons]
  | opening span => simp [make, operators, hold, List.filterMap_cons]
  | closing span =>
    have kept : (y.close span).1.operators = y.operators :=
      (operators_closeTop _ span).trans (operators_release y _)
    exact .of_eq (kept.trans (List.append_nil _).symm)
  | separator => exact .of_eq ((operators_release y fun _ => true).trans (List.append_nil _).symm)
  | operator op => exact operators_place y op
  | unknown e => simp [make]

/-- At the end no operand passes. -/
lemma operands_finish : y.finish.1.operands = y.operands := by
  unfold finish finishTop
  split
  · rfl
  · split <;> exact operands_release y _

/-- At the end no operator is lost, and none is added. -/
lemma operators_finish : y.finish.1.operators = y.operators := by
  unfold finish finishTop
  split
  · rfl
  · split
    · next span below top =>
      refine Eq.trans ?_ (operators_release y fun _ => true)
      have same : y.releaseAll.stack.filterMap Held.operator? = below.filterMap Held.operator? := by
        rw [top]
        rfl
      simp only [operators, ← same]
      rfl
    · exact operators_release y _

end Steps

/-- The operands that have passed are those of the tokens, in their order, and the operators that have passed
or wait are those that the tokens spell. -/
structure Accounts (d : Dialect) (tokens : List Token) (y : Yard) : Prop where
  operands : y.operands = d.operands tokens
  operators : y.operators.Perm (d.operators tokens)

variable {d : Dialect} {tokens : List Token} {y y' : Yard} {token : Token}

/-- A token adds its operand to what has passed, or its operator to what has passed or waits; an error adds
nothing. -/
lemma Accounts.shunt (h : y.Accounts d tokens) (expects : y.operandExpected = d.expectsOperand tokens)
    (token : Token) : (y.shunt d token).1.Accounts d (tokens ++ [token]) := by
  rw [shunt_eq_make, expects]
  constructor
  · rw [operands_make, Dialect.operand?_move, Dialect.operands_concat, h.operands]
  · rw [Dialect.operators_concat, ← Dialect.operator?_move]
    exact (operators_make y _).trans (h.operators.append_right _)

/-- At the end the accounts are still kept. -/
lemma Accounts.finish (h : y.Accounts d tokens) : y.finish.1.Accounts d tokens where
  operands := (operands_finish y).trans h.operands
  operators := by
    rw [operators_finish]
    exact h.operators

/-- Behind a group no operand is expected. -/
lemma expected_closeTop {span : Span} (closed : y.closeTop span = (y', none)) :
    y'.operandExpected = false := by
  unfold closeTop at closed
  split at closed
  · cases closed
    rfl
  · cases closed

/-- Where a token is no error, whether an operand is expected after it is known without the yard. -/
lemma expected_shunt (taken : y.shunt d token = (y', none)) :
    y'.operandExpected = d.expectsAfter y.operandExpected token := by
  rw [shunt] at taken
  unfold Dialect.expectsAfter
  cases operand : d.operand? token.text with
  | some value =>
    rw [operand] at taken
    cases taken
    rfl
  | none =>
    rw [operand] at taken
    simp only at taken ⊢
    split at taken
    · next opens =>
      cases taken
      simp [opens, hold]
    · next no_opening =>
      split at taken
      · next closes =>
        rw [expected_closeTop taken]
        simp [closes]
      · next no_closing =>
        split at taken
        · next separates =>
          cases taken
          simp [separates]
        · next no_separator =>
          rw [if_neg (by simp [no_opening, no_separator]), if_neg no_closing]
          split at taken
          · next op resolved =>
            cases taken
            rw [expected_place, resolved, Option.any_some]
          · cases taken

/-- A yard that took tokens without an error keeps their accounts. -/
lemma accounts_shuntAll (run : Yard.empty.shuntAll d tokens = (y, none)) :
    y.Accounts d tokens ∧ y.operandExpected = d.expectsOperand tokens := by
  induction tokens using List.reverseRecOn generalizing y with
  | nil =>
    cases run
    exact ⟨⟨rfl, .refl _⟩, rfl⟩
  | append_singleton tokens token ih =>
    rcases before : Yard.empty.shuntAll d tokens with ⟨y', _ | e⟩
    · obtain ⟨accounts, expects⟩ := ih before
      rw [shuntAll_append before] at run
      obtain ⟨y'', taken, last⟩ := shunt_of_shuntAll_cons run
      cases last
      have kept := accounts.shunt expects token
      rw [taken] at kept
      rw [Dialect.expectsOperand_concat, ← expects]
      exact ⟨kept, expected_shunt taken⟩
    · rw [shuntAll_append_of_error before] at run
      cases run

/-- A yard keeps the accounts at every stage, the one of an error included. -/
lemma accounts_stage {n : Nat} (bound : n ≤ tokens.length + 1)
    (earlier : ∀ m < n, (stage d tokens m).2 = none) :
    (stage d tokens n).1.Accounts d (tokens.take n) := by
  cases n with
  | zero => exact ⟨rfl, .refl _⟩
  | succ n =>
    -- the stage before has no error, so its yard took all tokens up to there
    have inside := Nat.le_of_succ_le_succ bound
    have before : stage d tokens n = ((stage d tokens n).1, none) :=
      Prod.ext rfl (earlier n (Nat.lt_succ_self n))
    generalize (stage d tokens n).1 = y at before
    have run := before
    rw [stage_of_le inside] at run
    obtain ⟨accounts, expects⟩ := accounts_shuntAll run
    rcases Nat.lt_or_eq_of_le inside with more | rfl
    · have found := List.getElem?_eq_getElem more
      rw [stage_of_token found before, List.take_add_one, found]
      exact accounts.shunt expects _
    · rw [stage_of_end before, List.take_of_length_le (Nat.le_succ _)]
      rw [List.take_length] at accounts
      exact accounts.finish

/-- Where no token and not the end is an error, all operands and operators have passed. -/
lemma length_output_of_parse (parsed : Yard.empty.parse d tokens = (y', none)) :
    y'.output.length = (d.operands tokens).length + (d.operators tokens).length := by
  obtain ⟨y, run, finished⟩ := finish_of_parse parsed
  have balanced := Balanced.empty.shuntAll d tokens
  rw [run] at balanced
  obtain ⟨waiting, stack, output⟩ := of_finish balanced finished
  obtain ⟨accounts, -⟩ := accounts_shuntAll run
  have held : y.stack.filterMap Held.operator? = waiting := by
    rw [stack]
    simp [Function.comp_def]
  rw [output, ← accounts.operands, ← accounts.operators.length_eq, List.length_append,
    Part.length_eq y.output, operands, operators, held]
  simp only [List.length_append, List.length_map]
  omega

end Yard

namespace Dialect

variable {d : Dialect} {tokens : List Token} {token : Token}

/-- A token that is not faulty is one operand, one operator, or punctuation. -/
lemma countP_singleton (punctuates : d.Punctuates) (resolved : ¬ d.Unresolved tokens token) :
    [token].countP (·.text ∉ ["(", ")", ","]) =
      (d.operand? token.text).toList.length +
        (d.operator? token (d.expectsOperand tokens)).toList.length := by
  cases operand : d.operand? token.text with
  | some value =>
    have no_punctuation : token.text ∉ ["(", ")", ","] := by
      intro punctuation
      simp only [List.mem_cons, List.not_mem_nil, or_false] at punctuation
      rcases punctuation with same | same | same <;> rw [same] at operand
      · cases punctuates.opens.symm.trans operand
      · cases punctuates.closes.symm.trans operand
      · cases punctuates.separates.symm.trans operand
    rw [List.countP_singleton, if_pos (decide_eq_true no_punctuation), operator?, operand]
    rfl
  | none =>
    by_cases punctuation : token.text ∈ ["(", ")", ","]
    · rw [List.countP_singleton, if_neg (mt of_decide_eq_true (not_not_intro punctuation)),
        operator?, operand, if_pos punctuation]
      rfl
    · rw [List.countP_singleton, if_pos (decide_eq_true punctuation)]
      cases found : d.registry.resolve? token.text (d.expectsOperand tokens) with
      | none => exact absurd ⟨operand, punctuation, found⟩ resolved
      | some op => simp [operator?, operand, punctuation, found]

/-- Where no token is faulty, each that is no punctuation is an operand or spells an operator. -/
lemma Clear.countP_eq (clear : d.Clear tokens) (punctuates : d.Punctuates) :
    tokens.countP (·.text ∉ ["(", ")", ","]) =
      (d.operands tokens).length + (d.operators tokens).length := by
  induction tokens using List.reverseRecOn with
  | nil => rfl
  | append_singleton tokens token ih =>
    have last := countP_singleton punctuates (clear tokens token [] rfl).1
    rw [List.countP_append, ih clear.of_append, last, operands_concat,
      operators_concat, List.length_append, List.length_append]
    omega

end Dialect

namespace Rpn

/-- The parts among the items that were yielded. -/
lemma AtStage.filterMap_yielded {d : Dialect} {answers : Answers} {n : Nat} {parts : List Part}
    {yielded : List Item} {r : Rpn} (h : AtStage d answers n parts yielded r) :
    yielded.filterMap Except.toOption = parts := by
  have all : (parts.map Except.ok : List Item).filterMap Except.toOption = parts := by
    simp [Function.comp_def, Except.toOption]
  rcases h.error with ⟨same, -⟩ | ⟨-, -, e, -, same⟩
  · rw [same, all]
  · rw [same, List.filterMap_append, all]
    exact List.append_nil parts

/-- Whatever has been yielded in a state of a reading, the operands among the parts that have been yielded or
are ready are those of the tokens taken, in their order; and the operators among them together with those
that wait on the stack are, in some order, those that the tokens taken spell. So where punctuation is no
operand, what is read without an error is as many parts as there are other tokens. -/
theorem keeps_accounts (d : Dialect) (answers : Answers) :
    let items := FiniteSource.items (ofAnswers d answers)
    (∀ n, Reaches d answers (items.take n) (Source.after (ofAnswers d answers) n)) ∧
    (∀ yielded r, Reaches d answers yielded r →
      let taken := answers.tokens.take r.taken
      let passed := yielded.filterMap Except.toOption ++ r.yard.output
      (∃ asked, r.answers = answers.drop asked ∧ r.taken = min asked answers.tokens.length) ∧
      passed.filterMap Part.operand? = d.operands taken ∧
      (passed.filterMap Part.operator? ++ r.yard.stack.filterMap Held.operator?).Perm
        (d.operators taken)) ∧
    (d.Punctuates → (∀ item ∈ items, item.isOk = true) →
      items.length = answers.tokens.countP (·.text ∉ ["(", ")", ","])) := by
  refine ⟨fun n => ?_, fun yielded r reached => ?_, fun punctuates ok => ?_⟩
  · rw [items_ofAnswers]
    exact reaches_after d answers n
  · obtain ⟨n, parts, stage⟩ := reached.exists_atStage
    have accounts := Yard.accounts_stage stage.bound fun m before => (stage.earlier m before).1
    have taken : answers.tokens.take r.taken = answers.tokens.take n := by
      rw [List.take_eq_take_iff, stage.taken]
      omega
    rw [stage.yard] at accounts
    rw [stage.filterMap_yielded, taken]
    exact ⟨⟨n, stage.left, stage.taken⟩, accounts.operands, accounts.operators⟩
  · rw [items_ofAnswers] at ok ⊢
    rcases Yard.parse_rejects punctuates answers.tokens with ⟨e, failed, -⟩ | ⟨succeeded, clear, -⟩
    · have member : .error e ∈ Yard.yielded (Yard.empty.parse d answers.tokens) := by
        simp [Yard.yielded, failed]
      cases ok _ member
    · rw [clear.countP_eq punctuates, ← Yard.length_output_of_parse (Prod.ext rfl succeeded)]
      simp [Yard.yielded, succeeded]

/-- What is read of `:a * :b + :c )` before the error keeps its accounts, and what is read of `(:b , - :c)` is
three parts. -/
theorem keeps_accounts_unopenedProduct :
    let group : Answers := (Token.enclose ⟨7, 8⟩ ⟨15, 16⟩ Yard.variableAndNegative).map some
    (∃ yielded r, Reaches .math unopenedProduct yielded r ∧ r.taken = 6 ∧
      (yielded.filterMap Except.toOption ++ r.yard.output).filterMap Part.operand? =
        [.variable ":a", .variable ":b", .variable ":c"] ∧
      ((yielded.filterMap Except.toOption ++ r.yard.output).filterMap Part.operator? ++
          r.yard.stack.filterMap Held.operator?).Perm
        [Library.multiplication, Library.addition]) ∧
    Dialect.math.Punctuates ∧
    (∀ item ∈ FiniteSource.items (ofAnswers .math group), item.isOk = true) ∧
    (FiniteSource.items (ofAnswers .math group)).length = 3 := by
  intro group
  obtain ⟨reaches, accounts, -⟩ := keeps_accounts .math unopenedProduct
  have reached := reaches 5
  obtain ⟨-, operands, operators⟩ := accounts _ _ reached
  obtain ⟨-, -, counts⟩ := keeps_accounts .math group
  have punctuates : Dialect.math.Punctuates := ⟨⟨rfl, rfl⟩, rfl⟩
  have ok : ∀ item ∈ FiniteSource.items (ofAnswers .math group), item.isOk = true := by
    rw [items_ofAnswers]
    exact List.all_eq_true.mp rfl
  refine ⟨⟨_, _, reached, rfl, operands, operators⟩, punctuates, ok, ?_⟩
  exact (counts punctuates ok).trans rfl

end Rpn

end Formula
