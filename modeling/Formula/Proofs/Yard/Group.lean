import Formula.Calculator
import Formula.Proofs.Yard.Balance
import Formula.Proofs.Yard.Reading
import Mathlib.Data.List.Basic

/-!
# Groups

What stands between parentheses is shunted as if it stood alone: `shuntAll_atop` moves a run without
errors on top of any stack that begins with an open parenthesis. A sequence of tokens *fills* a group
with `rpn` when it lets a beginning of `rpn` pass there and leaves the rest waiting. `fills_of_read` says
that every sequence fills a group with what it yields on its own, and `Fills.enclose` that the group then
acts as one operand. `shuntAll_enclose` puts both together for any yard: a group lets pass what stands in
it, and of what waits outside it touches a function on top and nothing else.
-/

namespace Formula

/-- All that a reading of `tokens` yields. -/
def Dialect.read (d : Dialect) (tokens : List Token) : List Item :=
  FiniteSource.items (Rpn.ofAnswers d (tokens.map some))

/-- Tokens are read as what a yard lets pass that takes them at one go. -/
lemma Dialect.read_eq_yielded (d : Dialect) (tokens : List Token) :
    d.read tokens = Yard.yielded (Yard.empty.parse d tokens) := by
  rw [read, Rpn.items_ofAnswers, Answers.tokens_map_some]

/-- With a lexer, a source is read as its tokens are. -/
lemma Dialect.items_ofSource {d : Dialect} {symbols : List String} (lexes : d.tokenize = lexWith symbols)
    (source : String) :
    FiniteSource.items (Rpn.ofSource d source) = d.read (Lexer.tokens symbols source) := by
  rw [Rpn.ofSource, lexes]
  rfl

/-- The parts that are read from tokens. -/
def Dialect.parts (d : Dialect) (tokens : List Token) : List Part :=
  (d.read tokens).filterMap Except.toOption

/-- Tokens are read without an error. -/
def Dialect.Accepts (d : Dialect) (tokens : List Token) : Prop :=
  ∀ item ∈ d.read tokens, item.isOk = true

/-- What is read as parts is read without an error. -/
lemma Dialect.accepts_of_read {d : Dialect} {tokens : List Token} {rpn : List Part}
    (h : d.read tokens = rpn.map .ok) : d.Accepts tokens := by
  intro item member
  rw [h] at member
  obtain ⟨part, -, rfl⟩ := List.mem_map.mp member
  rfl

/-- What is read without an error is parts. -/
lemma Dialect.Accepts.read {d : Dialect} {tokens : List Token} (h : d.Accepts tokens) :
    d.read tokens = (d.parts tokens).map .ok := by
  unfold Accepts at h
  unfold parts
  generalize d.read tokens = items at h ⊢
  induction items with
  | nil => rfl
  | cons item rest ih =>
    have others := ih fun other member => h other (List.mem_cons_of_mem _ member)
    cases item with
    | error e => cases h (.error e) List.mem_cons_self
    | ok part => simpa [Except.toOption] using others

/-- Parentheses are no operands. -/
structure Dialect.Parenthesizes (d : Dialect) : Prop where
  opens : d.operand? "(" = none
  closes : d.operand? ")" = none

/-- The tokens in parentheses. -/
def Token.enclose (opening closing : Span) (tokens : List Token) : List Token :=
  ⟨"(", opening⟩ :: tokens ++ [⟨")", closing⟩]

/-- Tokens with the texts of words in parentheses are tokens in parentheses. -/
lemma Token.exists_enclose {tokens : List Token} {inside : List String}
    (same : tokens.map Token.text = "(" :: inside ++ [")"]) :
    ∃ opening closing inner, tokens = Token.enclose opening closing inner ∧
      inner.map Token.text = inside := by
  obtain ⟨begun, last, rfl, texts, closes⟩ := List.map_eq_append_iff.mp same
  obtain ⟨⟨_, opening⟩, inner, rfl, rfl, inner_texts⟩ := List.map_eq_cons_iff.mp texts
  obtain ⟨⟨_, closing⟩, rfl, rfl⟩ := List.map_eq_singleton_iff.mp closes
  exact ⟨opening, closing, inner, rfl, inner_texts⟩

/-- Tokens with the texts of a call are a word and two arguments in parentheses. -/
lemma Token.exists_call {tokens : List Token} {word : String} {left right : List String}
    (same : tokens.map Token.text = word :: ("(" :: (left ++ "," :: right) ++ [")"])) :
    ∃ token opening closing first separator second,
      tokens = token :: Token.enclose opening closing (first ++ ⟨",", separator⟩ :: second) ∧
      token.text = word ∧ first.map Token.text = left ∧ second.map Token.text = right := by
  obtain ⟨token, group, rfl, text, group_texts⟩ := List.map_eq_cons_iff.mp same
  obtain ⟨opening, closing, inside, rfl, texts⟩ := Token.exists_enclose group_texts
  obtain ⟨first, others, rfl, first_texts, other_texts⟩ := List.map_eq_append_iff.mp texts
  obtain ⟨⟨_, separator⟩, second, rfl, rfl, second_texts⟩ := List.map_eq_cons_iff.mp other_texts
  exact ⟨token, opening, closing, first, separator, second, rfl, text, first_texts, second_texts⟩

namespace Yard

/-- No operator waits on top of a stack. -/
def Walled : List Held → Prop
  | .operator _ :: _ => False
  | _ => True

/-- The yard that has more on its stack, below everything else. -/
def atop (below : List Held) (count : Nat) (y : Yard) : Yard :=
  { y with stack := y.stack ++ below, openCount := y.openCount + count }

section Atop

variable {below : List Held} (count : Nat) {y y' : Yard}

/-- Above a wall a stack is split at the same place. -/
lemma split_atop (wall : Walled below) (pass : Operator → Bool) (stack : List Held) :
    Yard.split pass (stack ++ below) =
      ((Yard.split pass stack).1, (Yard.split pass stack).2 ++ below) := by
  induction stack with
  | nil =>
    cases below with
    | nil => rfl
    | cons held rest =>
      cases held with
      | opened span => rfl
      | operator op => exact wall.elim
  | cons held rest ih =>
    cases held with
    | opened span => rfl
    | operator op =>
      rw [List.cons_append, split, split, ih]
      split <;> rfl

/-- Above a wall the same operators are released. -/
lemma release_atop (wall : Walled below) (pass : Operator → Bool) :
    (y.atop below count).release pass = (y.release pass).atop below count := by
  simp only [release, atop, split_atop wall]

/-- Above a wall the same function passes, if any does. -/
lemma call_atop (wall : Walled below) :
    (y.atop below count).call = y.call.atop below count := by
  obtain ⟨output, stack, expected, openCount⟩ := y
  cases stack with
  | nil =>
    cases below with
    | nil => rfl
    | cons held rest =>
      cases held with
      | opened span => rfl
      | operator op => exact wall.elim
  | cons held rest =>
    cases held with
    | opened span => rfl
    | operator op => by_cases h : op.fixity = .function <;> simp [call, atop, emit, h]

/-- A function passes alike whether an operand was expected or not. -/
lemma call_expected (output : List Part) (stack : List Held) (expected before : Bool) (count : Nat) :
    { call ⟨output, stack, expected, count⟩ with operandExpected := false } =
      { call ⟨output, stack, before, count⟩ with operandExpected := false } := by
  cases stack with
  | nil => rfl
  | cons held rest =>
    cases held with
    | opened span => rfl
    | operator op => by_cases h : op.fixity = .function <;> simp [call, emit, h]

/-- Above a wall a parenthesis is closed in the same way. -/
lemma closeTop_atop (wall : Walled below) {span : Span} (balanced : Balanced y)
    (h : y.closeTop span = (y', none)) :
    (y.atop below count).closeTop span = (y'.atop below count, none) := by
  obtain ⟨output, stack, expected, openCount⟩ := y
  cases stack with
  | nil => cases h
  | cons held rest =>
    cases held with
    | operator op => cases h
    | opened opening =>
      cases h
      have called := call_atop count (y := ⟨output, rest, expected, openCount - 1⟩) wall
      -- the parenthesis that is closed is counted, so no subtraction is cut off at zero
      have counted : openCount + count - 1 = openCount - 1 + count := by
        simp only [Balanced, openings] at balanced
        omega
      simp only [closeTop, atop, List.cons_append, counted] at called ⊢
      rw [called]

/-- Above a wall an operator is placed in the same way. -/
lemma place_atop (wall : Walled below) (op : Operator) :
    (y.atop below count).place op = (y.place op).atop below count := by
  unfold place
  split
  · rfl
  · rfl
  · rfl
  · rw [release_atop count wall]; rfl

/-- A move that is no error is the same above a wall. -/
lemma make_atop (wall : Walled below) (balanced : Balanced y) {move : Move}
    (h : y.make move = (y', none)) :
    (y.atop below count).make move = (y'.atop below count, none) := by
  cases move with
  | operand value => cases h; rfl
  | opening span =>
    cases h
    simp only [make, hold, atop, List.cons_append, Nat.add_right_comm]
  | closing span =>
    simp only [make, close, releaseAll, release_atop count wall] at h ⊢
    exact closeTop_atop count wall (balanced.release _) h
  | separator =>
    cases h
    simp only [make, releaseAll, release_atop count wall]
    rfl
  | operator op =>
    cases h
    simp only [make, place_atop count wall]
  | unknown e => cases h

/-- Tokens without an error do the same above a wall. -/
lemma shuntAll_atop {d : Dialect} {tokens : List Token} (wall : Walled below)
    (balanced : Balanced y) (h : y.shuntAll d tokens = (y', none)) :
    (y.atop below count).shuntAll d tokens = (y'.atop below count, none) := by
  induction tokens generalizing y with
  | nil => cases h; rfl
  | cons token rest ih =>
    obtain ⟨next, taken, others⟩ := shunt_of_shuntAll_cons h
    have kept := balanced.shunt d token
    rw [taken] at kept
    rw [shunt_eq_make] at taken
    have above := make_atop count wall balanced taken
    rw [shuntAll_cons ((shunt_eq_make _ _ _).trans above)]
    exact ih kept others

end Atop

/-- Operators that pass are split off a stack from which no more pass. -/
lemma split_of_pass {pass : Operator → Bool} {below : List Held} (ops : List Operator)
    (passes : ∀ op ∈ ops, pass op = true) (stays : Yard.split pass below = ([], below)) :
    Yard.split pass (ops.map .operator ++ below) = (ops, below) := by
  induction ops with
  | nil => exact stays
  | cons op rest ih =>
    have others := ih fun other member => passes other (List.mem_cons_of_mem _ member)
    simp [Yard.split, passes op List.mem_cons_self, others]

/-- All operators above a wall are released. -/
lemma split_operators (below : List Held) (wall : Walled below) (ops : List Operator) :
    Yard.split (fun _ => true) (ops.map .operator ++ below) = (ops, below) :=
  split_of_pass ops (fun _ _ => rfl) (split_atop wall _ [])

end Yard

/-- Tokens fill a group with `rpn`: where they come after an open parenthesis or a separator, they let a
beginning of it pass and leave the operators of the rest waiting. -/
def Fills (d : Dialect) (tokens : List Token) (rpn : List Part) : Prop :=
  ∀ y : Yard, y.operandExpected = true → Yard.Walled y.stack →
    ∃ (passed : List Part) (waiting : List Operator) (expected : Bool),
      rpn = passed ++ waiting.map .operator ∧
      y.shuntAll d tokens =
        (⟨y.output ++ passed, waiting.map .operator ++ y.stack, expected, y.openCount⟩, none)

section Fills

variable {d : Dialect} {tokens more : List Token} {rpn after : List Part}

/-- Tokens that fill a group yield the same on their own. -/
lemma Fills.read (h : Fills d tokens rpn) : d.read tokens = rpn.map .ok := by
  obtain ⟨passed, waiting, expected, rfl, run⟩ := h .empty rfl trivial
  rw [Dialect.read_eq_yielded, Yard.parse, run]
  have flushed := Yard.split_operators [] trivial waiting
  simp only [List.append_nil] at flushed
  simp [Yard.finish, Yard.empty, Yard.releaseAll, Yard.release, flushed, Yard.finishTop, Yard.yielded]

/-- An outcome that yields parts only is no error, and the parts have passed. -/
lemma Yard.of_yielded {outcome : Yard × Option ParseError} (h : yielded outcome = rpn.map .ok) :
    outcome.1.output = rpn ∧ outcome.2 = none := by
  obtain ⟨y, error⟩ := outcome
  cases error with
  | none =>
    simp only [yielded, Option.map_none, Option.toList_none, List.append_nil] at h
    exact ⟨List.map_injective_iff.mpr (fun _ _ => Except.ok.inj) h, rfl⟩
  | some e =>
    have member : Except.error e ∈ rpn.map Except.ok := by
      rw [← h]
      simp [yielded]
    simp at member

/-- Where nothing is open, the end lets all that waits pass. -/
lemma Yard.finish_of_none_open {y : Yard} (balanced : Balanced y) (none_open : y.openCount = 0) :
    ∃ waiting : List Operator, y.stack = waiting.map .operator ∧
      y.finish = ({ y with output := y.output ++ waiting.map .operator, stack := [] }, none) := by
  obtain ⟨waiting, same⟩ := eq_operators_of_openings (balanced.symm.trans none_open)
  have flushed := split_operators [] trivial waiting
  rw [List.append_nil, ← same] at flushed
  refine ⟨waiting, same, ?_⟩
  simp [finish, none_open, releaseAll, release, flushed, finishTop]

/-- Where the end of the tokens is no error, only operators wait, and they pass. -/
lemma Yard.of_finish {y y' : Yard} (balanced : Balanced y) (h : y.finish = (y', none)) :
    ∃ waiting : List Operator,
      y.stack = waiting.map .operator ∧ y'.output = y.output ++ waiting.map .operator := by
  rcases Nat.eq_zero_or_pos y.openCount with none_open | some_open
  · obtain ⟨waiting, same, finished⟩ := finish_of_none_open balanced none_open
    rw [finished] at h
    cases h
    exact ⟨waiting, same, rfl⟩
  · rw [finish, if_pos some_open] at h
    cases h

/-- Tokens fill a group with what they yield on their own, if that holds no error. -/
lemma fills_of_read (h : d.read tokens = rpn.map .ok) : Fills d tokens rpn := by
  rw [Dialect.read_eq_yielded] at h
  obtain ⟨output, no_error⟩ := Yard.of_yielded h
  obtain ⟨inner, run, finished⟩ := Yard.finish_of_parse (Prod.ext rfl no_error)
  have balanced : inner.Balanced := by
    have kept := Yard.Balanced.empty.shuntAll d tokens
    rwa [run] at kept
  obtain ⟨waiting, stack, passed⟩ := Yard.of_finish balanced finished
  intro y expects wall
  have same : (Yard.empty.atop y.stack y.openCount).behind y.output = y := by
    simp [Yard.behind, Yard.atop, Yard.empty, ← expects]
  have counted : inner.openCount = 0 := by rw [balanced, stack, Yard.openings_operators]
  refine ⟨inner.output, waiting, inner.operandExpected, output.symm.trans passed, ?_⟩
  -- the run from the empty yard, first moved onto the stack of `y`, then behind its output
  have above := Yard.shuntAll_atop y.openCount wall .empty run
  have later := Yard.shuntAll_behind y.output (Yard.empty.atop y.stack y.openCount) d tokens
  rw [same, above] at later
  rw [later]
  simp only [Yard.behind, Yard.atop, stack, counted, Nat.zero_add]

/-- A group filled with `rpn` is shunted as an operand is; a function that waits for it passes with
it. -/
lemma Fills.enclose (h : Fills d tokens rpn) (parens : d.Parenthesizes) (opening closing : Span)
    (y : Yard) :
    y.shuntAll d (Token.enclose opening closing tokens) =
      ({ Yard.call { y with output := y.output ++ rpn } with operandExpected := false }, none) := by
  obtain ⟨output, stack, before, count⟩ := y
  have opened : Yard.shunt d ⟨output, stack, before, count⟩ ⟨"(", opening⟩ =
      (⟨output, .opened opening :: stack, true, count + 1⟩, none) :=
    Yard.shunt_of_move (Dialect.move_opening parens.opens opening before)
  -- the open parenthesis is a wall, and all that waits above it passes when the group is closed
  obtain ⟨passed, waiting, expected, rfl, run⟩ :=
    h ⟨output, .opened opening :: stack, true, count + 1⟩ rfl trivial
  have flushed := Yard.split_operators (.opened opening :: stack) trivial waiting
  have closed := Yard.shunt_of_move (y := ⟨output ++ passed,
    waiting.map .operator ++ .opened opening :: stack, expected, count + 1⟩)
    (Dialect.move_closing parens.closes closing expected)
  rw [Token.enclose, List.cons_append, Yard.shuntAll_cons opened, Yard.shuntAll_append run,
    Yard.shuntAll, closed]
  simp only [Yard.make, Yard.close, Yard.releaseAll, Yard.release, flushed, Yard.closeTop,
    Nat.add_sub_cancel, List.append_assoc]
  rw [Yard.shuntAll_nil, Yard.call_expected _ _ expected before]

/-- A separator divides a group into two. -/
lemma Fills.append (h : Fills d tokens rpn) (separates : d.operand? "," = none)
    (later : Fills d more after) (span : Span) :
    Fills d (tokens ++ ⟨",", span⟩ :: more) (rpn ++ after) := by
  intro y expects wall
  obtain ⟨passed, waiting, expected, rfl, run⟩ := h y expects wall
  have flushed := Yard.split_operators y.stack wall waiting
  have divided : Yard.shunt d ⟨y.output ++ passed, waiting.map .operator ++ y.stack, expected,
      y.openCount⟩ ⟨",", span⟩ =
        (⟨y.output ++ (passed ++ waiting.map .operator), y.stack, true, y.openCount⟩, none) := by
    rw [Yard.shunt_of_move (Dialect.move_separator separates span expected)]
    simp only [Yard.make, Yard.releaseAll, Yard.release, flushed, List.append_assoc]
  obtain ⟨passed', waiting', expected', rfl, run'⟩ := later
    ⟨y.output ++ (passed ++ waiting.map .operator), y.stack, true, y.openCount⟩ rfl wall
  refine ⟨passed ++ waiting.map .operator ++ passed', waiting', expected', ?_, ?_⟩
  · simp only [List.append_assoc]
  · rw [Yard.shuntAll_append run, Yard.shuntAll_cons divided, run']
    simp only [List.append_assoc]

end Fills

namespace Yard

/-- A function on top of a stack takes the next group. -/
def AwaitsGroup (stack : List Held) : Prop :=
  ∃ top below, stack = .operator top :: below ∧ top.fixity = .function

/-- A function that waits on top passes when its group ends. -/
lemma call_of_awaits {y : Yard} {f : Operator} {below : List Held} (top : y.stack = .operator f :: below)
    (function : f.fixity = .function) :
    y.call = { y with output := y.output ++ [.operator f], stack := below } := by
  rw [call, top]
  simp only [function, ↓reduceIte]
  rfl

/-- Where no function waits on top, nothing passes when a group ends. -/
lemma call_of_not_awaits {y : Yard} (h : ¬ AwaitsGroup y.stack) : y.call = y := by
  unfold call
  split
  · next top below same =>
    rw [if_neg]
    intro function
    exact h ⟨top, below, same, function⟩
  · rfl

/-- Whatever waits in a yard, tokens in parentheses that are read without an error by themselves let pass
what they are read as, and after it a function on top that waits for them. All else stays as it is. -/
theorem shuntAll_enclose (d : Dialect) (parens : d.Parenthesizes) (y : Yard) (tokens : List Token)
    (accepted : d.Accepts tokens) (opening closing : Span) :
    ∃ y', y.shuntAll d (Token.enclose opening closing tokens) = (y', none) ∧
      y'.operandExpected = false ∧ y'.openCount = y.openCount ∧
      (∀ f below, y.stack = .operator f :: below → f.fixity = .function →
        y'.output = y.output ++ d.parts tokens ++ [.operator f] ∧ y'.stack = below) ∧
      (¬ AwaitsGroup y.stack → y'.output = y.output ++ d.parts tokens ∧ y'.stack = y.stack) := by
  have run := (fills_of_read accepted.read).enclose parens opening closing y
  have open_kept : (Yard.call { y with output := y.output ++ d.parts tokens }).openCount =
      y.openCount := by
    unfold call
    split
    · split <;> rfl
    · rfl
  refine ⟨_, run, rfl, open_kept, ?_, ?_⟩
  · intro f below top function
    rw [call_of_awaits (y := { y with output := y.output ++ d.parts tokens }) top function]
    exact ⟨rfl, rfl⟩
  · intro no_function
    rw [call_of_not_awaits (y := { y with output := y.output ++ d.parts tokens }) no_function]
    exact ⟨rfl, rfl⟩

/-- The tokens `:b , - :c`. -/
def variableAndNegative : List Token :=
  [⟨":b", ⟨8, 10⟩⟩, ⟨",", ⟨10, 11⟩⟩, ⟨"-", ⟨12, 13⟩⟩, ⟨":c", ⟨13, 15⟩⟩]

/-- After `:a * √`, a group lets pass what stands in it and the root. -/
theorem shuntAll_enclose_root :
    ∃ y y' : Yard,
      Yard.empty.shuntAll .math [⟨":a", ⟨0, 2⟩⟩, ⟨"*", ⟨3, 4⟩⟩, ⟨"√", ⟨4, 7⟩⟩] = (y, none) ∧
      Dialect.math.Parenthesizes ∧ Dialect.math.Accepts variableAndNegative ∧
      y.shuntAll .math (Token.enclose ⟨7, 8⟩ ⟨15, 16⟩ variableAndNegative) = (y', none) ∧
      y'.output = [.operand (.variable ":a"), .operand (.variable ":b"), .operand (.variable ":c"),
        .operator Library.negation, .operator Library.squareRoot] ∧
      y'.stack = [.operator Library.multiplication] := by
  let y : Yard := ⟨[.operand (.variable ":a")],
    [.operator Library.squareRoot, .operator Library.multiplication], true, 0⟩
  have parens : Dialect.math.Parenthesizes := ⟨rfl, rfl⟩
  have read : Dialect.math.read variableAndNegative =
      [.operand (.variable ":b"), .operand (.variable ":c"), .operator Library.negation].map .ok := by
    rw [Dialect.read, Rpn.items_ofAnswers]
    rfl
  have accepted := Dialect.accepts_of_read read
  obtain ⟨y', run, -, -, called, -⟩ :=
    shuntAll_enclose .math parens y variableAndNegative accepted ⟨7, 8⟩ ⟨15, 16⟩
  obtain ⟨output, stack⟩ := called Library.squareRoot [.operator Library.multiplication] rfl rfl
  refine ⟨y, y', rfl, parens, accepted, run, ?_, stack⟩
  rw [output, Dialect.parts, read]
  rfl

end Yard

end Formula
