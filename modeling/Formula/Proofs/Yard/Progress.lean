import Formula.Proofs.Yard.Reading

/-!
# How far a reading has come

A reading asks for answers one by one, so each of its states belongs to a *stage*: the yard that has taken,
at one go, as many tokens as were asked for, or all of them and their end. `Rpn.Reaches` lists the states of
a reading, those in the middle of a request included, and `Reaches.exists_atStage` says that the parts
yielded so far, and behind them the yard of the reading, are the yard of its stage. No answer is asked for
before all parts of the earlier stages have been yielded.
-/

namespace Formula

namespace Answers

/-- Where no answer so far was none, the tokens that are left are those of the answers that are left. -/
lemma tokens_drop {answers : Answers} {n : Nat} (h : n ≤ answers.tokens.length) :
    Answers.tokens (answers.drop n) = answers.tokens.drop n := by
  induction n generalizing answers with
  | zero => rfl
  | succ n ih =>
    rcases answers with _ | ⟨_ | token, rest⟩
    · exact absurd h (Nat.not_succ_le_zero n)
    · exact absurd h (Nat.not_succ_le_zero n)
    · exact ih (Nat.le_of_succ_le_succ h)

/-- The answer that is asked for next, if it is a token, is the token of the stage. -/
lemma tokens_getElem? {answers rest : Answers} {token : Token} {n : Nat}
    (h : n ≤ answers.tokens.length) (left : answers.drop n = some token :: rest) :
    answers.tokens[n]? = some token := by
  rw [← List.head?_drop, ← tokens_drop h, left]
  rfl

/-- Where no answer is left that is a token, all tokens have been taken. -/
lemma length_tokens_of_end {answers rest : Answers} {n : Nat} (h : n ≤ answers.tokens.length)
    (left : answers.drop n = [] ∧ rest = [] ∨ answers.drop n = none :: rest) :
    n = answers.tokens.length := by
  have none_left : answers.tokens.drop n = [] := by
    rw [← tokens_drop h]
    rcases left with ⟨left, -⟩ | left <;> rw [left] <;> rfl
  exact Nat.le_antisymm h (List.drop_eq_nil_iff.mp none_left)

end Answers

namespace Yard

/-- What a yard has done that has asked for `n` answers. It has taken as many tokens or, if there are fewer,
all of them and their end. -/
def stage (d : Dialect) (tokens : List Token) (n : Nat) : Yard × Option ParseError :=
  if n ≤ tokens.length then Yard.empty.shuntAll d (tokens.take n) else Yard.empty.parse d tokens

section Stage

variable {d : Dialect} {tokens : List Token} {token : Token} {n : Nat} {y : Yard}

/-- A yard that has asked for nothing is empty. -/
@[simp] lemma stage_zero : stage d tokens 0 = (.empty, none) := rfl

/-- Up to the last token, a stage is what the yard has done with the first tokens. -/
lemma stage_of_le (h : n ≤ tokens.length) :
    stage d tokens n = Yard.empty.shuntAll d (tokens.take n) := if_pos h

/-- Behind the last token, a stage is what the yard has done with all of them and their end. -/
lemma stage_of_lt (h : tokens.length < n) : stage d tokens n = Yard.empty.parse d tokens :=
  if_neg (Nat.not_le_of_lt h)

/-- The next stage shunts the next token. -/
lemma stage_of_token (found : tokens[n]? = some token) (h : stage d tokens n = (y, none)) :
    stage d tokens (n + 1) = y.shunt d token := by
  have inside := (List.getElem?_eq_some_iff.mp found).1
  rw [stage_of_le (Nat.le_of_lt inside)] at h
  rw [stage_of_le inside, List.take_add_one, found, shuntAll_append h]
  change y.shuntAll d [token] = _
  rw [shuntAll_cons_eq]
  split
  · next shunted => exact shunted.symm
  · next shunted => exact shunted.symm

/-- After all tokens the next stage is the end of the yard. -/
lemma stage_of_end (h : stage d tokens tokens.length = (y, none)) :
    stage d tokens (tokens.length + 1) = y.finish := by
  rw [stage_of_le (Nat.le_refl _), List.take_length] at h
  rw [stage_of_lt (Nat.lt_succ_self _), parse, h]

end Stage

end Yard

namespace Rpn

/-- The states of a reading, with the items yielded so far. -/
inductive Reaches (d : Dialect) (answers : Answers) : List Item → Rpn → Prop where
  | start :
    Reaches d answers [] (ofAnswers d answers)
  /-- Nothing is ready, and the next answer is a token. -/
  | take {yielded r token rest} :
    Reaches d answers yielded r →
    r.isReady = false →
    r.answers = some token :: rest →
    Reaches d answers yielded { r.take token with answers := rest }
  /-- Nothing is ready, and there is no token. -/
  | close {yielded r rest} :
    Reaches d answers yielded r →
    r.isReady = false →
    r.answers = [] ∧ rest = [] ∨ r.answers = none :: rest →
    Reaches d answers yielded { r.close with answers := rest }
  /-- What is ready is yielded. -/
  | yields {yielded r} :
    Reaches d answers yielded r →
    r.isReady = true →
    Reaches d answers (yielded ++ r.yieldReady.1.toList) r.yieldReady.2

section Requests

variable {d : Dialect} {answers : Answers} {yielded : List Item} {r : Rpn}

/-- The end of the answers, or an answer that is none, ends a reading that waits. -/
lemma Reaches.ended {left rest : Answers} (h : Reaches d answers yielded { r with answers := left })
    (waiting : ¬ r.isReady = true) (ends : left = [] ∧ rest = [] ∨ left = none :: rest) :
    Reaches d answers yielded (Rpn.close { r with answers := rest }) := by
  have closed := h.close (Bool.eq_false_iff.mpr waiting) ends
  rw [close_answers] at closed ⊢
  exact closed

/-- A request leads through such states only. -/
lemma Reaches.fill (left : Answers) (h : Reaches d answers yielded { r with answers := left }) :
    Reaches d answers yielded (fill left r) := by
  induction left generalizing r with
  | nil =>
    rw [Rpn.fill]
    split
    · exact h
    · next waiting => exact h.ended waiting (.inl ⟨rfl, rfl⟩)
  | cons answer rest ih =>
    cases answer with
    | none =>
      rw [Rpn.fill]
      split
      · exact h
      · next waiting => exact h.ended waiting (.inr rfl)
    | some token =>
      rw [Rpn.fill]
      split
      · exact h
      · next waiting =>
        have taken := h.take (Bool.eq_false_iff.mpr waiting) rfl
        rw [take_answers] at taken
        exact ih taken

/-- What is reached after a request is reached. -/
lemma Reaches.next (h : Reaches d answers yielded r) :
    Reaches d answers (yielded ++ r.next.1.toList) r.next.2 :=
  (Reaches.fill r.answers h).yields (isReady_fill _ _)

end Requests

/-- A reading has asked for `n` answers and yielded `parts`, and perhaps the error after them. The parts
yielded, and behind them its yard, are the yard of the stage; those of the earlier stages were yielded
before more was asked for. -/
structure AtStage (d : Dialect) (answers : Answers) (n : Nat) (parts : List Part) (yielded : List Item)
    (r : Rpn) : Prop where
  dialect : r.dialect = d
  left : r.answers = answers.drop n
  taken : r.taken = min n answers.tokens.length
  bound : n ≤ answers.tokens.length + 1
  earlier : ∀ m < n, (Yard.stage d answers.tokens m).2 = none ∧
    (Yard.stage d answers.tokens m).1.output.length ≤ parts.length
  yard : (Yard.stage d answers.tokens n).1 = r.yard.behind parts
  finished : r.finished = true ↔
    answers.tokens.length < n ∨ (Yard.stage d answers.tokens n).2 ≠ none
  error : yielded = parts.map .ok ∧ r.error = (Yard.stage d answers.tokens n).2 ∨
    r.error = none ∧ r.yard.output = [] ∧
      ∃ e, (Yard.stage d answers.tokens n).2 = some e ∧ yielded = parts.map .ok ++ [.error e]

namespace AtStage

variable {d : Dialect} {answers rest : Answers} {n : Nat} {parts : List Part} {yielded : List Item}
  {r : Rpn} {token : Token}

/-- A reading begins at the first stage. -/
lemma start (d : Dialect) (answers : Answers) :
    AtStage d answers 0 [] [] (ofAnswers d answers) where
  dialect := rfl
  left := rfl
  taken := (Nat.zero_min _).symm
  bound := Nat.zero_le _
  earlier _ before := absurd before (Nat.not_lt_zero _)
  yard := rfl
  finished := by simp [ofAnswers]
  error := .inl ⟨rfl, rfl⟩

/-- A reading that waits has yielded all parts of its stage, which has no error. -/
lemma waits (h : AtStage d answers n parts yielded r) (waiting : r.isReady = false) :
    n ≤ answers.tokens.length ∧ Yard.stage d answers.tokens n = (r.yard.behind parts, none) ∧
      r.yard.output = [] ∧ r.error = none ∧ r.finished = false ∧ yielded = parts.map .ok := by
  simp only [isReady, Bool.or_eq_false_iff, Bool.not_eq_false', List.isEmpty_iff,
    Option.isSome_eq_false_iff, Option.isNone_iff_eq_none] at waiting
  obtain ⟨⟨drained, no_error⟩, unfinished⟩ := waiting
  have running := mt h.finished.mpr (by simp [unfinished])
  simp only [not_or, Nat.not_lt, ne_eq, Classical.not_not] at running
  obtain ⟨inside, stage_error⟩ := running
  refine ⟨inside, Prod.ext h.yard stage_error, drained, no_error, unfinished, ?_⟩
  rcases h.error with ⟨all, -⟩ | ⟨-, -, e, failed, -⟩
  · exact all
  · rw [failed] at stage_error
    cases stage_error

/-- Where a reading waits, the outcome of a step of its yard takes it to the next stage. -/
lemma settle (h : AtStage d answers n parts yielded r) (waiting : r.isReady = false) {r' : Rpn}
    {outcome : Yard × Option ParseError}
    (stage : Yard.stage d answers.tokens (n + 1) = (outcome.1.behind parts, outcome.2))
    (dialect : r'.dialect = d) (left : r'.answers = answers.drop (n + 1))
    (taken : r'.taken = min (n + 1) answers.tokens.length) (error : r'.error = none)
    (finished : r'.finished = true ↔ answers.tokens.length < n + 1) :
    AtStage d answers (n + 1) parts yielded (r'.settle outcome) := by
  obtain ⟨inside, same, drained, -, -, all⟩ := h.waits waiting
  have earlier : ∀ m < n + 1, (Yard.stage d answers.tokens m).2 = none ∧
      (Yard.stage d answers.tokens m).1.output.length ≤ parts.length := by
    intro m before
    rcases Nat.lt_succ_iff_lt_or_eq.mp before with before | rfl
    · exact h.earlier m before
    · -- all parts of the stage that waits have been yielded
      rw [same]
      simp [Yard.behind, drained]
  obtain ⟨yard, _ | e⟩ := outcome
  · exact ⟨dialect, left, taken, Nat.succ_le_succ inside, earlier, by rw [stage]; rfl,
      finished.trans (by simp [stage]), .inl ⟨all, by rw [stage]; exact error⟩⟩
  · exact ⟨dialect, left, taken, Nat.succ_le_succ inside, earlier, by rw [stage]; rfl,
      by rw [stage]; simp [Rpn.settle], .inl ⟨all, by rw [stage]; rfl⟩⟩

/-- A token takes a reading to the next stage. -/
lemma take (h : AtStage d answers n parts yielded r) (waiting : r.isReady = false)
    (next : r.answers = some token :: rest) :
    AtStage d answers (n + 1) parts yielded { r.take token with answers := rest } := by
  obtain ⟨inside, same, -, no_error, unfinished, -⟩ := h.waits waiting
  have left := h.left.symm.trans next
  have found := Answers.tokens_getElem? inside left
  have before := (List.getElem?_eq_some_iff.mp found).1
  have stage := Yard.stage_of_token found same
  rw [Yard.shunt_behind, ← h.dialect] at stage
  rw [← take_answers]
  refine h.settle waiting (h.dialect ▸ stage) h.dialect ?_ ?_ no_error ?_
  · rw [← List.drop_drop, left]
    rfl
  · change r.taken + 1 = _
    rw [h.taken]
    omega
  · change r.finished = true ↔ _
    rw [unfinished]
    simpa using Nat.succ_le_of_lt before

/-- At the end of the tokens a reading gets to the stage behind the last token. -/
lemma close (h : AtStage d answers n parts yielded r) (waiting : r.isReady = false)
    (next : r.answers = [] ∧ rest = [] ∨ r.answers = none :: rest) :
    AtStage d answers (n + 1) parts yielded { r.close with answers := rest } := by
  obtain ⟨inside, same, -, no_error, -⟩ := h.waits waiting
  rw [h.left] at next
  have all := Answers.length_tokens_of_end inside next
  have stage : Yard.stage d answers.tokens (n + 1) = (r.yard.behind parts).finish := by
    rw [all] at same ⊢
    exact Yard.stage_of_end same
  rw [Yard.finish_behind] at stage
  rw [← close_answers]
  refine h.settle waiting stage h.dialect ?_ ?_ no_error ?_
  · rw [← List.drop_drop]
    rcases next with ⟨left, rfl⟩ | left <;> rw [left] <;> rfl
  · change r.taken = _
    rw [h.taken]
    omega
  · change true = true ↔ _
    simp [all]

/-- To yield what is ready leaves the stage as it is. -/
lemma yields (h : AtStage d answers n parts yielded r) :
    ∃ parts', AtStage d answers n parts' (yielded ++ r.yieldReady.1.toList) r.yieldReady.2 := by
  unfold yieldReady
  split
  · next part _ output =>
    have all : yielded = parts.map .ok ∧ r.error = (Yard.stage d answers.tokens n).2 := by
      rcases h.error with same | ⟨-, drained, -⟩
      · exact same
      · rw [drained] at output
        cases output
    refine ⟨parts ++ [part], h.dialect, h.left, h.taken, h.bound, ?_, ?_, h.finished, .inl ?_⟩
    · intro m before
      obtain ⟨no_error, passed⟩ := h.earlier m before
      exact ⟨no_error, Nat.le_trans passed (by simp)⟩
    · rw [h.yard]
      simp [Yard.behind, output]
    · simp [all]
  · next e output failed =>
    rcases h.error with ⟨all, same⟩ | ⟨no_error, -⟩
    · refine ⟨parts, h.dialect, h.left, h.taken, h.bound, h.earlier, h.yard, h.finished,
        .inr ⟨rfl, output, e, same.symm.trans failed, ?_⟩⟩
      simp [all]
    · rw [no_error] at failed
      cases failed
  · simpa using ⟨parts, h⟩

end AtStage

/-- Every state of a reading belongs to a stage. -/
lemma Reaches.exists_atStage {d : Dialect} {answers : Answers} {yielded : List Item} {r : Rpn}
    (h : Reaches d answers yielded r) : ∃ n parts, AtStage d answers n parts yielded r := by
  induction h with
  | start => exact ⟨0, [], .start d answers⟩
  | take _ waiting next ih =>
    obtain ⟨n, parts, stage⟩ := ih
    exact ⟨n + 1, parts, stage.take waiting next⟩
  | close _ waiting next ih =>
    obtain ⟨n, parts, stage⟩ := ih
    exact ⟨n + 1, parts, stage.close waiting next⟩
  | yields _ _ ih =>
    obtain ⟨n, parts, stage⟩ := ih
    obtain ⟨parts', later⟩ := stage.yields
    exact ⟨n, parts', later⟩

end Rpn

end Formula
