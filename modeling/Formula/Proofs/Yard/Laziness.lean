import Formula.Calculator
import Formula.Proofs.Replay.Fold
import Formula.Proofs.Yard.Progress
import Mathlib.Order.Bounds.Basic

/-!
# Reading on demand

A reading answers what a yard yields that takes all tokens at one go, and `reads_on_demand` says that it
does so on demand: when it answers a part, it has taken no more tokens than a yard needs to let that part
pass, and after an error or the end of the tokens it asks for none.
-/

namespace Formula

section Ending

variable {σ : Type} [FiniteSource σ] {s : σ}

/-- A source that has ended for good at its first answer that is none answers its items. -/
lemma FiniteSource.answer_eq_getElem?
    (ends : ∀ k, Source.answer s k = none → Source.answer s (k + 1) = none) (k : Nat) :
    Source.answer s k = (items s)[k]? := by
  have left (k : Nat) : items (Source.after s k) = (items s).drop k := by
    induction k with
    | zero => rfl
    | succ k ih =>
      rw [← List.drop_drop, ← ih]
      cases answered : Source.answer s k with
      | some item =>
        rw [items_after answered]
        rfl
      | none => rw [items_after_none answered, items_after_none (ends k answered), List.drop_nil]
  rw [← List.head?_drop, ← left]
  cases answered : Source.answer s k with
  | some item => rw [items_after answered, List.head?_cons]
  | none => rw [items_after_none answered, List.head?_nil]

end Ending

/-- The number of parts that have passed when a yard has taken the first `m` tokens. -/
def Yard.passedBy (d : Dialect) (tokens : List Token) (m : Nat) : Nat :=
  (Yard.empty.shuntAll d (tokens.take m)).1.output.length

namespace Rpn

section Requests

variable {d : Dialect} {answers : Answers} {yielded : List Item} {r : Rpn}

/-- An error that has not been yielded has ended the reading. -/
lemma Reaches.finished_of_error (h : Reaches d answers yielded r) (failed : r.error ≠ none) :
    r.finished = true := by
  obtain ⟨n, parts, stage⟩ := h.exists_atStage
  rcases stage.error with ⟨-, same⟩ | ⟨no_error, -⟩
  · rw [same] at failed
    exact stage.finished.mpr (.inr failed)
  · exact absurd no_error failed

/-- After an answer that is no part, a reading answers none and stays as it is. -/
lemma Reaches.next_of_last {r' : Rpn} {answer : Option Item} (h : Reaches d answers yielded r)
    (answered : r.next = (answer, r')) (last : ¬ Source.IsPart answer) : r'.next = (none, r') := by
  have filled := Reaches.fill r.answers h
  have ready := isReady_fill r.answers r
  have yields : (Rpn.fill r.answers r).yieldReady = (answer, r') := answered
  generalize Rpn.fill r.answers r = r at filled ready yields
  have stays (ready : r'.isReady = true) : r'.next = r'.yieldReady := by
    rw [Rpn.next, fill_of_isReady ready]
  unfold yieldReady at yields
  split at yields
  · cases yields
    exact absurd ⟨_, rfl⟩ last
  · next e output failed =>
    have finished := filled.finished_of_error (by simp [failed])
    cases yields
    rw [stays (by simp [isReady, finished])]
    simp [yieldReady, output]
  · next output no_error =>
    cases yields
    rw [stays ready]
    simp [yieldReady, output, no_error]

end Requests

section Answers

variable (d : Dialect) (answers : Answers)

/-- What a source is after any number of requests is reached by its reading. -/
lemma exists_reaches_after (k : Nat) :
    ∃ yielded, Reaches d answers yielded (Source.after (ofAnswers d answers) k) := by
  induction k with
  | zero => exact ⟨[], .start⟩
  | succ k ih =>
    obtain ⟨yielded, reached⟩ := ih
    exact ⟨_, reached.next⟩

/-- After an answer that is no part, a reading is never changed by a request. -/
lemma next_after_of_last {k : Nat} (last : ¬ Source.IsPart (Source.answer (ofAnswers d answers) k)) :
    Source.next (Source.after (ofAnswers d answers) (k + 1)) =
      (none, Source.after (ofAnswers d answers) (k + 1)) := by
  obtain ⟨yielded, reached⟩ := exists_reaches_after d answers k
  exact reached.next_of_last rfl last

/-- A reading answers its items, and then none forever. -/
lemma answer_eq (k : Nat) :
    Source.answer (ofAnswers d answers) k =
      (Yard.yielded (Yard.empty.parse d answers.tokens))[k]? := by
  rw [← items_ofAnswers]
  refine FiniteSource.answer_eq_getElem? (fun k ended => ?_) k
  have last : ¬ Source.IsPart (Source.answer (ofAnswers d answers) k) := by
    rw [ended]
    rintro ⟨part, same⟩
    cases same
  exact congrArg Prod.fst (next_after_of_last d answers last)

/-- After some requests, a reading is in one of its states, and has yielded its first items. -/
lemma reaches_after (k : Nat) :
    Reaches d answers ((Yard.yielded (Yard.empty.parse d answers.tokens)).take k)
      (Source.after (ofAnswers d answers) k) := by
  induction k with
  | zero => exact .start
  | succ k ih =>
    have later := ih.next
    have answered : (next (Source.after (ofAnswers d answers) k)).1 =
        (Yard.yielded (Yard.empty.parse d answers.tokens))[k]? := answer_eq d answers k
    rw [answered, ← List.take_add_one] at later
    exact later

end Answers

namespace AtStage

variable {d : Dialect} {answers : Answers} {n : Nat} {parts rest : List Part} {yielded : List Item}
  {r : Rpn} {part : Part}

/-- Where a part is ready, no error has been yielded. -/
lemma yielded_eq (h : AtStage d answers n parts yielded r) (ready : r.yard.output = part :: rest) :
    yielded = parts.map .ok := by
  rcases h.error with ⟨all, -⟩ | ⟨-, drained, -⟩
  · exact all
  · rw [drained] at ready
    cases ready

/-- Where a part is ready, no fewer tokens let it pass, unless it passes at the end only. -/
lemma isLeast_taken (h : AtStage d answers n parts yielded r) (ready : r.yard.output = part :: rest) :
    IsLeast {m | parts.length < Yard.passedBy d answers.tokens m} r.taken ∨
      (∀ m, Yard.passedBy d answers.tokens m ≤ parts.length) ∧
        r.taken = answers.tokens.length := by
  have passedBy_eq {m : Nat} (inside : m ≤ answers.tokens.length) :
      Yard.passedBy d answers.tokens m = (Yard.stage d answers.tokens m).1.output.length := by
    rw [Yard.stage_of_le inside]
    rfl
  have before {m : Nat} (inside : m ≤ answers.tokens.length) (earlier : m < n) :
      Yard.passedBy d answers.tokens m ≤ parts.length := by
    rw [passedBy_eq inside]
    exact (h.earlier m earlier).2
  rw [h.taken]
  by_cases inside : n ≤ answers.tokens.length
  · refine .inl ?_
    rw [min_eq_left inside]
    constructor
    · change _ < Yard.passedBy d answers.tokens n
      rw [passedBy_eq inside, h.yard]
      simp [Yard.behind, ready]
    · intro m passed
      by_contra earlier
      exact absurd passed (not_lt.mpr (before (by omega) (by omega)))
  · refine .inr ⟨fun m => ?_, min_eq_right (by omega)⟩
    by_cases fewer : m ≤ answers.tokens.length
    · exact before fewer (by omega)
    · -- more tokens than there are count as all
      have all : Yard.passedBy d answers.tokens m =
          Yard.passedBy d answers.tokens answers.tokens.length := by
        rw [Yard.passedBy, Yard.passedBy, List.take_length, List.take_of_length_le (by omega)]
      rw [all]
      exact before le_rfl (by omega)

end AtStage

/-- What yields a part has it ready, and takes no token for it. -/
lemma ready_of_yieldReady {r r' : Rpn} {part : Part} (h : r.yieldReady = (some (.ok part), r')) :
    (∃ rest, r.yard.output = part :: rest) ∧ r'.taken = r.taken := by
  unfold yieldReady at h
  split at h
  · next ready =>
    cases h
    exact ⟨⟨_, ready⟩, rfl⟩
  · cases h
  · cases h

/-- A reading answers a part when it has taken the tokens that let it pass, and no more. -/
lemma isLeast_taken_after (d : Dialect) (answers : Answers) {k : Nat}
    (inside : k < (Yard.empty.parse d answers.tokens).1.output.length) :
    IsLeast {m | k < Yard.passedBy d answers.tokens m}
        (Source.after (ofAnswers d answers) (k + 1)).taken ∨
      (∀ m, Yard.passedBy d answers.tokens m ≤ k) ∧
        (Source.after (ofAnswers d answers) (k + 1)).taken = answers.tokens.length := by
  have found : (Yard.yielded (Yard.empty.parse d answers.tokens))[k]? =
      some (.ok (Yard.empty.parse d answers.tokens).1.output[k]) := by
    rw [Yard.yielded, List.getElem?_append_left (by simpa using inside)]
    simp [inside]
  have filled : Reaches d answers _ (fill _ (Source.after (ofAnswers d answers) k)) :=
    (reaches_after d answers k).fill _
  have yields : yieldReady (fill _ (Source.after (ofAnswers d answers) k)) =
      (some _, Source.after (ofAnswers d answers) (k + 1)) :=
    Prod.ext ((answer_eq d answers k).trans found) rfl
  obtain ⟨⟨rest, ready⟩, taken⟩ := ready_of_yieldReady yields
  obtain ⟨n, parts, stage⟩ := filled.exists_atStage
  have length := congrArg List.length (stage.yielded_eq ready)
  rw [List.length_take_of_le (List.getElem?_eq_some_iff.mp found).1.le, List.length_map] at length
  have least := stage.isLeast_taken ready
  rw [← length] at least
  rw [taken]
  exact least

/-- A reading answers what a yard lets pass that takes all tokens at one go, then its error if there is one,
and then none forever. When it answers a part, it has taken the fewest tokens that let so many parts pass, or
all of them if the part passes at the end only. It never asks for an answer after one that was none, or after
a token that was an error; and once it has answered an error or none, it stays as it is. -/
theorem reads_on_demand (d : Dialect) (answers : Answers) :
    let reading := ofAnswers d answers
    let eager := Yard.empty.parse d answers.tokens
    (∀ k, Source.answer reading k =
      (eager.1.output.map .ok ++ (eager.2.map .error).toList)[k]?) ∧
    (∀ k < eager.1.output.length,
      IsLeast {m | k < Yard.passedBy d answers.tokens m} (Source.after reading (k + 1)).taken ∨
      (∀ m, Yard.passedBy d answers.tokens m ≤ k) ∧
        (Source.after reading (k + 1)).taken = answers.tokens.length) ∧
    (∀ k, ∃ asked ≤ answers.tokens.length + 1,
      (Source.after reading k).answers = answers.drop asked ∧
      (Source.after reading k).taken = min asked answers.tokens.length ∧
      ∀ m < asked, (Yard.empty.shuntAll d (answers.tokens.take m)).2 = none) ∧
    ∀ k, ¬ Source.IsPart (Source.answer reading k) →
      ∀ j > k, Source.after reading j = Source.after reading (k + 1) := by
  refine ⟨answer_eq d answers, fun k => isLeast_taken_after d answers, fun k => ?_, ?_⟩
  · obtain ⟨n, parts, stage⟩ := (reaches_after d answers k).exists_atStage
    refine ⟨n, stage.bound, stage.left, stage.taken, fun m before => ?_⟩
    have inside : m ≤ answers.tokens.length := Nat.le_of_lt_succ (before.trans_le stage.bound)
    rw [← Yard.stage_of_le inside]
    exact (stage.earlier m before).1
  · intro k last j later
    induction j, later using Nat.le_induction with
    | base => rfl
    | succ j _ ih =>
      rw [Source.after, ih, next_after_of_last d answers last]

/-- The answers of a tokenizer for `:a * :b + :c ) :d`, with another token after the end. -/
def unopenedProduct : Answers :=
  [some ⟨":a", ⟨0, 2⟩⟩, some ⟨"*", ⟨3, 4⟩⟩, some ⟨":b", ⟨5, 7⟩⟩, some ⟨"+", ⟨8, 9⟩⟩, some ⟨":c", ⟨10, 12⟩⟩,
    some ⟨")", ⟨13, 14⟩⟩, some ⟨":d", ⟨15, 17⟩⟩, none, some ⟨":e", ⟨0, 2⟩⟩]

/-- The product is answered when the sum comes, and after the error at the parenthesis three answers are
left. -/
theorem reads_unopenedProduct :
    2 < (Yard.empty.parse .math unopenedProduct.tokens).1.output.length ∧
      IsLeast {m | 2 < Yard.passedBy .math unopenedProduct.tokens m}
        (Source.after (ofAnswers .math unopenedProduct) 3).taken ∧
      ¬ Source.IsPart (Source.answer (ofAnswers .math unopenedProduct) 5) ∧
      ∀ j > 5, (Source.after (ofAnswers .math unopenedProduct) j).answers =
        [some ⟨":d", ⟨15, 17⟩⟩, none, some ⟨":e", ⟨0, 2⟩⟩] := by
  obtain ⟨answer, least, -, stays⟩ := reads_on_demand .math unopenedProduct
  have inside : 2 < (Yard.empty.parse .math unopenedProduct.tokens).1.output.length := by decide
  have last : ¬ Source.IsPart (Source.answer (ofAnswers .math unopenedProduct) 5) := by
    rw [answer]
    rintro ⟨part, same⟩
    cases same
  refine ⟨inside, ?_, last, fun j later => ?_⟩
  · rcases least 2 inside with taken | ⟨none, -⟩
    · exact taken
    · exact absurd (none 4) (by decide)
  · rw [stays 5 last j later]
    rfl

end Rpn

end Formula
