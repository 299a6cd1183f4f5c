import Formula.Proofs.Yard.Group

/-!
# Phrases

A *phrase* is a sequence of tokens that stands for an operand. When it has been taken, some of its
operators still wait: those *pending* at its right edge. The operators *exposed* at its left edge look
down the stack for what they let pass, so a phrase keeps to itself only above a stack that resists them.
`Reads` puts this together, and has one rule for each way to build a phrase.
-/

namespace Formula

/-- The operator on top of a stack, if there is one, waits when `op` comes. -/
def Yard.Resists (stack : List Held) (op : Operator) : Prop :=
  ∀ top below, stack = .operator top :: below → top.precedes op = false

/-- A sequence of tokens begins with an open parenthesis. -/
def Token.Opens (tokens : List Token) : Prop :=
  ∃ token rest, tokens = token :: rest ∧ token.text = "("

/-- More tokens after an open parenthesis do not take it away. -/
lemma Token.Opens.append {tokens : List Token} (h : Opens tokens) (more : List Token) :
    Opens (tokens ++ more) := by
  obtain ⟨token, rest, rfl, opens⟩ := h
  exact ⟨token, rest ++ more, rfl, opens⟩

/-- Tokens are a phrase for `rpn`: where an operand is expected, above a stack that resists what is
exposed and does not take the phrase for the group of a function, they let a beginning of `rpn` pass, and
the rest of it is pending, the innermost operator on top. -/
def Reads (d : Dialect) (tokens : List Token) (exposed pending : List Operator) (rpn : List Part) :
    Prop :=
  ∀ y : Yard, y.operandExpected = true → (∀ op ∈ exposed, Yard.Resists y.stack op) →
    (Token.Opens tokens → ¬ Yard.AwaitsGroup y.stack) →
    ∃ passed : List Part, rpn = passed ++ pending.reverse.map .operator ∧
      y.shuntAll d tokens =
        (⟨y.output ++ passed, pending.reverse.map .operator ++ y.stack, false, y.openCount⟩, none)

/-- A token spells an operator where an operand is expected or is not. -/
structure Spells (d : Dialect) (token : Token) (operandExpected : Bool) (op : Operator) : Prop where
  no_operand : d.operand? token.text = none
  no_punctuation : token.text ∉ ["(", ")", ","]
  resolves : d.registry.resolve? token.text operandExpected = some op

namespace Spells

variable {d : Dialect} {token : Token} {expected : Bool} {op : Operator}

/-- A token that spells an operator moves it into the yard. -/
lemma move (h : Spells d token expected op) : d.move token expected = .operator op := by
  obtain ⟨no_operand, no_punctuation, resolves⟩ := h
  simp only [List.mem_cons, List.not_mem_nil, or_false, not_or] at no_punctuation
  simp [Dialect.move, no_operand, no_punctuation, resolves]

/-- What a token spells lies in its text alone. -/
lemma of_text {other : Token} (h : Spells d token expected op) (same : other.text = token.text) :
    Spells d other expected op := by
  obtain ⟨no_operand, no_punctuation, resolves⟩ := h
  rw [← same] at no_operand no_punctuation resolves
  exact ⟨no_operand, no_punctuation, resolves⟩

/-- A token that spells an operator is shunted as the operator is placed. -/
lemma shunt {y : Yard} (h : Spells d token y.operandExpected op) :
    y.shunt d token = (y.place op, none) :=
  Yard.shunt_of_move h.move

end Spells

/-- Nothing passes from a stack that resists. -/
lemma Yard.Resists.split_eq {op : Operator} {stack : List Held} (resists : Yard.Resists stack op) :
    Yard.split (·.precedes op) stack = ([], stack) := by
  cases stack with
  | nil => rfl
  | cons held below =>
    cases held with
    | opened span => rfl
    | operator top => simp [Yard.split, resists top below rfl]

namespace Reads

variable {d : Dialect} {tokens more : List Token} {exposed pending exposed' pending' : List Operator}
  {rpn rpn' : List Part} {token : Token} {op : Operator}

/-- An operand is a phrase. -/
lemma operand {value : Operand} (h : d.operand? token.text = some value) :
    Reads d [token] [] [] [.operand value] := by
  intro y _ _ _
  refine ⟨[.operand value], rfl, ?_⟩
  rw [Yard.shuntAll_cons (Yard.shunt_of_move (Dialect.move_operand h _)), Yard.shuntAll_nil]
  rfl

/-- A phrase fills a group with what it stands for. -/
lemma fills (h : Reads d tokens exposed pending rpn) : Fills d tokens rpn := by
  intro y expects wall
  have no_operator (top : Operator) (below : List Held) : y.stack ≠ .operator top :: below := by
    intro same
    rw [same] at wall
    exact wall
  obtain ⟨passed, same, run⟩ := h y expects
    (fun _ _ top below same => absurd same (no_operator top below))
    (fun _ ⟨top, below, same, _⟩ => no_operator top below same)
  exact ⟨passed, pending.reverse, false, same, run⟩

/-- What fills a group is in parentheses a phrase. -/
lemma group (h : Fills d tokens rpn) (parens : d.Parenthesizes) (opening closing : Span) :
    Reads d (Token.enclose opening closing tokens) [] [] rpn := by
  intro y _ _ no_function
  refine ⟨rpn, by simp, ?_⟩
  rw [h.enclose parens]
  -- no function lies on top, so closing the group lets nothing more pass
  rw [Yard.call_of_not_awaits (y := { y with output := y.output ++ rpn })
    (no_function ⟨_, _, rfl, rfl⟩)]
  rfl

/-- A function and the group that it takes are a phrase. -/
lemma call (spells : Spells d token true op) (function : op.fixity = .function)
    (h : Fills d tokens rpn) (parens : d.Parenthesizes) (opening closing : Span) :
    Reads d (token :: Token.enclose opening closing tokens) [] [] (rpn ++ [.operator op]) := by
  intro y expects _ _
  rw [← expects] at spells
  refine ⟨rpn ++ [.operator op], by simp, ?_⟩
  rw [Yard.shuntAll_cons spells.shunt, h.enclose parens]
  simp [Yard.place, function, Yard.hold, Yard.call, Yard.emit]

/-- An operator before a phrase makes a phrase, if it waits for what is exposed there and, if it is a
function, the phrase does not begin with a group. -/
lemma leading (spells : Spells d token true op)
    (before : op.fixity = .unaryPrefix ∨ op.fixity = .function ∧ ¬ Token.Opens tokens)
    (h : Reads d tokens exposed pending rpn) (waits : ∀ o ∈ exposed, op.precedes o = false) :
    Reads d (token :: tokens) [] (op :: pending) (rpn ++ [.operator op]) := by
  intro y expects _ _
  rw [← expects] at spells
  have placed : y.place op = y.hold (.operator op) := by
    rcases before with fixity | ⟨fixity, -⟩ <;> simp [Yard.place, fixity]
  have resists : ∀ o ∈ exposed, Yard.Resists (y.hold (.operator op)).stack o := by
    rintro o member top below ⟨⟩
    exact waits o member
  have no_function (begins : Token.Opens tokens) :
      ¬ Yard.AwaitsGroup (y.hold (.operator op)).stack := by
    rintro ⟨top, below, ⟨⟩, calls⟩
    rcases before with fixity | ⟨-, apart⟩
    · rw [fixity] at calls
      cases calls
    · exact apart begins
  -- the operator lies below what the phrase leaves, so it is pending after all of that
  obtain ⟨passed, rfl, run⟩ := h (y.hold (.operator op)) rfl resists no_function
  refine ⟨passed, by simp, ?_⟩
  rw [Yard.shuntAll_cons spells.shunt, placed, run]
  simp [Yard.hold]

/-- An operator after a phrase with nothing pending makes a phrase. -/
lemma trailing (h : Reads d tokens exposed [] rpn) (spells : Spells d token false op)
    (after : op.fixity = .unaryPostfix) :
    Reads d (tokens ++ [token]) exposed [] (rpn ++ [.operator op]) := by
  intro y expects resists group
  obtain ⟨passed, rfl, run⟩ := h y expects resists fun begins => group (begins.append _)
  have placed := spells.shunt (y := ⟨y.output ++ passed, y.stack, false, y.openCount⟩)
  refine ⟨passed ++ [.operator op], by simp, ?_⟩
  rw [Yard.shuntAll_append run]
  simp only [List.reverse_nil, List.map_nil, List.nil_append]
  rw [Yard.shuntAll_cons placed]
  simp [Yard.place, after, Yard.emit]

/-- An operator between two phrases makes a phrase, if it lets pass what is pending before it and waits
for what is exposed after it. -/
lemma between (h : Reads d tokens exposed pending rpn) (spells : Spells d token false op)
    (fixity : op.fixity = .binary) (h' : Reads d more exposed' pending' rpn')
    (passes : ∀ o ∈ pending, o.precedes op = true) (waits : ∀ o ∈ exposed', op.precedes o = false) :
    Reads d (tokens ++ token :: more) (exposed ++ [op]) (op :: pending')
      (rpn ++ rpn' ++ [.operator op]) := by
  intro y expects resists group
  obtain ⟨passed, rfl, run⟩ := h y expects
    (fun o member => resists o (List.mem_append_left _ member))
    fun begins => group (begins.append _)
  -- all that is pending on the left passes, and what lies below it resists
  have flushed := Yard.split_of_pass pending.reverse
    (fun o member => passes o (List.mem_reverse.mp member)) (resists op (by simp)).split_eq
  have placed := spells.shunt (y := ⟨y.output ++ passed, pending.reverse.map .operator ++ y.stack,
    false, y.openCount⟩)
  simp only [Yard.place, fixity, Yard.release, flushed, Yard.hold] at placed
  have above : ∀ o ∈ exposed', Yard.Resists (.operator op :: y.stack) o := by
    rintro o member top below ⟨⟩
    exact waits o member
  have no_function : ¬ Yard.AwaitsGroup (.operator op :: y.stack) := by
    rintro ⟨top, below, ⟨⟩, calls⟩
    rw [fixity] at calls
    cases calls
  obtain ⟨passed', rfl, run'⟩ := h' ⟨y.output ++ passed ++ pending.reverse.map .operator,
    .operator op :: y.stack, true, y.openCount⟩ rfl above fun _ => no_function
  refine ⟨passed ++ pending.reverse.map .operator ++ passed', by simp, ?_⟩
  rw [Yard.shuntAll_append run, Yard.shuntAll_cons placed, run']
  simp

/-- An operator that stands between operands, when it comes before a group, makes a phrase that exposes
it and leaves it pending. -/
lemma binaryCall (spells : Spells d token true op) (fixity : op.fixity = .binary)
    (h : Fills d tokens rpn) (parens : d.Parenthesizes) (opening closing : Span) :
    Reads d (token :: Token.enclose opening closing tokens) [op] [op] (rpn ++ [.operator op]) := by
  intro y expects resists _
  rw [← expects] at spells
  have flushed := (resists op List.mem_cons_self).split_eq
  refine ⟨rpn, by simp, ?_⟩
  rw [Yard.shuntAll_cons spells.shunt, h.enclose parens]
  simp [Yard.place, fixity, Yard.release, flushed, Yard.hold, Yard.call]

end Reads

end Formula
