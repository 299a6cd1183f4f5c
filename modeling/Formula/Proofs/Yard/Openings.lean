import Formula.Proofs.Yard.Laziness
import Formula.Proofs.Yard.Rejection

/-!
# Counting what is open

A yard looks at its count of open parentheses where it could look at its stack: it lowers the count when it
closes a parenthesis, and asks it at the end whether one is open. `Rpn.counts_openings` says that the count is
right in every state of a reading, that of an error included. So it is never lowered below zero, there is a
place to tell of where the end finds it above zero, and only operators wait where the end finds it at zero.
-/

namespace Formula

namespace Yard

variable {y : Yard}

/-- A function that passes opens and closes nothing. -/
@[simp] lemma openCount_call (y : Yard) : y.call.openCount = y.openCount := by
  by_cases awaits : AwaitsGroup y.stack
  · obtain ⟨f, below, top, function⟩ := awaits
    rw [call_of_awaits top function]
  · rw [call_of_not_awaits awaits]

/-- To close a parenthesis lowers the count by one, or else nothing is open and the count is zero. -/
lemma Balanced.close_cases (h : Balanced y) (span : Span) :
    (∃ place below, y.releaseAll.stack = .opened place :: below ∧
      (y.close span).2 = none ∧ (y.close span).1.openCount + 1 = y.openCount) ∨
    (y.releaseAll.stack = [] ∧ y.openCount = 0 ∧
      y.close span = (y.releaseAll, some (.mismatchedParentheses span))) := by
  have counted : y.openCount = (opened y.stack).length := h.trans (length_opened y.stack).symm
  cases top : opened y.stack with
  | nil =>
    obtain ⟨empty, fails⟩ := close_of_nil top span
    rw [top, List.length_nil] at counted
    exact .inr ⟨empty, counted, fails⟩
  | cons place places =>
    obtain ⟨below, stack, -⟩ := (walled_releaseAll y).exists_below ((opened_release _).trans top)
    rw [top, List.length_cons] at counted
    have released : y.releaseAll.openCount = y.openCount := rfl
    refine .inl ⟨place, below, stack, ?_⟩
    rw [Yard.close, Yard.closeTop, stack]
    refine ⟨rfl, ?_⟩
    simp only [openCount_call, released]
    omega

/-- The end tells the place of a parenthesis that is open, or else all that waits are operators, and these
pass. -/
lemma Balanced.finish_cases (h : Balanced y) :
    (0 < y.openCount ∧ ∃ place, topmostOpen? y.stack = some place ∧
      y.finish = (y, some (.mismatchedParentheses place))) ∨
    (y.openCount = 0 ∧ ∃ waiting : List Operator, y.stack = waiting.map .operator ∧
      y.finish = ({ y with output := y.output ++ waiting.map .operator, stack := [] }, none)) := by
  rcases Nat.eq_zero_or_pos y.openCount with none_open | some_open
  · exact .inr ⟨none_open, finish_of_none_open h none_open⟩
  · have counted : (opened y.stack).length = y.openCount := (length_opened y.stack).trans h.symm
    obtain ⟨place, places, same⟩ := List.exists_cons_of_length_pos (counted ▸ some_open)
    have topmost : topmostOpen? y.stack = some place := by rw [topmostOpen?_eq, same, List.head?_cons]
    refine .inl ⟨some_open, place, topmost, ?_⟩
    rw [Yard.finish, if_pos some_open, topmost, Option.getD_some]

/-- The end leaves the count of open parentheses right. -/
lemma Balanced.finish (h : Balanced y) : Balanced y.finish.1 := by
  rcases h.finish_cases with ⟨-, place, -, same⟩ | ⟨none_open, waiting, -, same⟩
  · rw [same]
    exact h
  · rw [same]
    exact none_open

end Yard

namespace Rpn

variable {d : Dialect} {answers : Answers} {yielded : List Item} {r : Rpn}

/-- What becomes of a step of the yard is the yard of the reading, whether it is an error or not. -/
@[simp] lemma yard_settle (r : Rpn) (outcome : Yard × Option ParseError) :
    (r.settle outcome).yard = outcome.1 := by
  obtain ⟨yard, _ | e⟩ := outcome <;> rfl

/-- In every state of a reading the count of open parentheses is right. -/
lemma Reaches.balanced (h : Reaches d answers yielded r) : r.yard.Balanced := by
  induction h with
  | start => exact .empty
  | @take yielded r token rest _ _ _ ih =>
    have taken := ih.shunt r.dialect token
    simpa [Rpn.take] using taken
  | @close yielded r rest _ _ _ ih => simpa [Rpn.close] using ih.finish
  | @yields yielded r _ _ ih =>
    unfold yieldReady
    split
    · exact ih
    · exact ih
    · exact ih

/-- In every state of a reading, its yard counts the open parentheses on its stack, also when there has been an
error. So a token that closes a parenthesis lowers the count by one, or else none is open and the token is an
error. Where the end finds the count above zero, there is a topmost open parenthesis that its error tells of;
where it finds it at zero, all that waits are operators, and the end lets them pass without an error. -/
theorem counts_openings (d : Dialect) (answers : Answers) :
    (∀ n, ∃ yielded, Reaches d answers yielded (Source.after (ofAnswers d answers) n)) ∧
    ∀ yielded r, Reaches d answers yielded r →
      let y := r.yard
      y.openCount = Yard.openings y.stack ∧
      (∀ span,
        (∃ place below, y.releaseAll.stack = .opened place :: below ∧
          (y.close span).2 = none ∧ (y.close span).1.openCount + 1 = y.openCount) ∨
        (y.releaseAll.stack = [] ∧ y.openCount = 0 ∧
          y.close span = (y.releaseAll, some (.mismatchedParentheses span)))) ∧
      ((0 < y.openCount ∧ ∃ place, Yard.topmostOpen? y.stack = some place ∧
          y.finish = (y, some (.mismatchedParentheses place))) ∨
        (y.openCount = 0 ∧ ∃ waiting : List Operator, y.stack = waiting.map .operator ∧
          y.finish = ({ y with output := y.output ++ waiting.map .operator, stack := [] }, none))) := by
  refine ⟨fun n => exists_reaches_after d answers n, fun yielded r reached => ?_⟩
  have balanced := reached.balanced
  exact ⟨balanced, fun span => balanced.close_cases span, balanced.finish_cases⟩

/-- In `(:a + max(:b` two parentheses are open when `:b` has been answered, and the end tells of the second. After
the error in `:a * :b + :c ) :d` none is open, and another closing parenthesis would be an error again. -/
theorem counts_openings_unclosed :
    let unclosed : Answers := [some ⟨"(", ⟨0, 1⟩⟩, some ⟨":a", ⟨1, 3⟩⟩, some ⟨"+", ⟨4, 5⟩⟩,
      some ⟨"max", ⟨6, 9⟩⟩, some ⟨"(", ⟨9, 10⟩⟩, some ⟨":b", ⟨10, 12⟩⟩]
    let open_twice := Source.after (ofAnswers .math unclosed) 2
    let failed := Source.after (ofAnswers .math unopenedProduct) 6
    (∃ yielded, Reaches .math unclosed yielded open_twice) ∧ open_twice.yard.openCount = 2 ∧
      Yard.openings open_twice.yard.stack = 2 ∧
      open_twice.yard.finish = (open_twice.yard, some (.mismatchedParentheses ⟨9, 10⟩)) ∧
    (∃ yielded, Reaches .math unopenedProduct yielded failed) ∧ failed.yard.openCount = 0 ∧
      Yard.openings failed.yard.stack = 0 ∧
      failed.yard.close ⟨15, 16⟩ = (failed.yard.releaseAll, some (.mismatchedParentheses ⟨15, 16⟩)) := by
  intro unclosed open_twice failed
  have count_twice : open_twice.yard.openCount = 2 := by decide
  have count_failed : failed.yard.openCount = 0 := by decide
  obtain ⟨reaches, counts⟩ := counts_openings .math unclosed
  obtain ⟨yielded, reached⟩ := reaches 2
  obtain ⟨counted, -, finishes⟩ := counts yielded open_twice reached
  obtain ⟨reaches', counts'⟩ := counts_openings .math unopenedProduct
  obtain ⟨yielded', reached'⟩ := reaches' 6
  obtain ⟨counted', closes', -⟩ := counts' yielded' failed reached'
  have opened_twice : Yard.openings open_twice.yard.stack = 2 := counted.symm.trans count_twice
  have opened_failed : Yard.openings failed.yard.stack = 0 := counted'.symm.trans count_failed
  have second : Yard.topmostOpen? open_twice.yard.stack = some ⟨9, 10⟩ := by decide
  have ends : open_twice.yard.finish = (open_twice.yard, some (.mismatchedParentheses ⟨9, 10⟩)) := by
    rcases finishes with ⟨-, place, topmost, same⟩ | ⟨none_open, -⟩
    · rw [same, Option.some.inj (topmost.symm.trans second)]
    · rw [count_twice] at none_open
      cases none_open
  have closes : failed.yard.close ⟨15, 16⟩ =
      (failed.yard.releaseAll, some (.mismatchedParentheses ⟨15, 16⟩)) := by
    rcases closes' ⟨15, 16⟩ with ⟨place, below, -, -, lowered⟩ | ⟨-, -, same⟩
    · rw [count_failed] at lowered
      cases lowered
    · exact same
  exact ⟨⟨yielded, reached⟩, count_twice, opened_twice, ends, ⟨yielded', reached'⟩, count_failed,
    opened_failed, closes⟩

end Rpn

end Formula
