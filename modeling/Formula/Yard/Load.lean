import Formula.Yard

/-!
# The load of a yard

The parts in a yard, passed or waiting. Letting operators pass leaves their number alone; a token adds
at most one, as `load_shunt_le` says, and the end of the tokens adds none.
-/

namespace Formula.Yard

/-- The number of parts in a yard, whether they have passed or wait. -/
def load (y : Yard) : Nat := y.output.length + y.stack.length

/-- No operator is lost where a stack is split. -/
theorem length_split (pass : Operator → Bool) (stack : List Held) :
    (Yard.split pass stack).1.length + (Yard.split pass stack).2.length = stack.length := by
  induction stack with
  | nil => rfl
  | cons held rest ih =>
    cases held with
    | opened span => simp [split]
    | operator op =>
      rw [split]
      split
      · simp only [List.length_cons]
        omega
      · simp

/-- What is released is still as many parts. -/
theorem load_release (y : Yard) (pass : Operator → Bool) : load (y.release pass) = load y := by
  have := length_split pass y.stack
  simp only [load, release, List.length_append, List.length_map]
  omega

/-- A part that passes at once is one more. -/
theorem load_emit (y : Yard) (part : Part) : load (y.emit part) = load y + 1 := by
  simp only [load, emit, List.length_append, List.length_singleton]
  omega

/-- A function that passes is still one part. -/
theorem load_call (y : Yard) : load y.call = load y := by
  unfold call
  split
  · next op below top =>
    split
    · rw [load_emit]
      simp only [load, top, List.length_cons]
      omega
    · rfl
  · rfl

/-- Closing a group adds no part. -/
theorem load_closeTop_le (y : Yard) (span : Span) : load (y.closeTop span).1 ≤ load y := by
  unfold closeTop
  split
  · next place below top =>
    have called := load_call { y with stack := below, openCount := y.openCount - 1 }
    simp only [load, top, List.length_cons] at called ⊢
    omega
  · exact Nat.le_refl _

/-- A closing parenthesis adds no part. -/
theorem load_close_le (y : Yard) (span : Span) : load (y.close span).1 ≤ load y :=
  Nat.le_trans (load_closeTop_le y.releaseAll span) (Nat.le_of_eq (load_release y _))

/-- An operator that is placed is one more part. -/
theorem load_place (y : Yard) (op : Operator) : load (y.place op) = load y + 1 := by
  unfold place
  split
  · simp only [load, hold, List.length_cons]
    omega
  · simp only [load, hold, List.length_cons]
    omega
  · exact load_emit y _
  · have := load_release y (·.precedes op)
    simp only [load, hold, List.length_cons] at this ⊢
    omega

/-- A token adds at most one part. -/
theorem load_shunt_le (d : Dialect) (y : Yard) (token : Token) :
    load (y.shunt d token).1 ≤ load y + 1 := by
  unfold shunt
  split
  · exact Nat.le_of_eq (load_emit y _)
  · split
    · simp only [load, hold, List.length_cons]
      omega
    · split
      · exact Nat.le_succ_of_le (load_close_le y _)
      · split
        · exact Nat.le_succ_of_le (Nat.le_of_eq (load_release y _))
        · split
          · exact Nat.le_of_eq (load_place y _)
          · exact Nat.le_succ _

/-- Looking for a parenthesis that is left open adds no part. -/
theorem load_finishTop_le (y : Yard) : load y.finishTop.1 ≤ load y := by
  unfold finishTop
  split
  · next span below top =>
    simp only [load, top, List.length_cons]
    omega
  · exact Nat.le_refl _

/-- The end adds no part. -/
theorem load_finish_le (y : Yard) : load y.finish.1 ≤ load y := by
  unfold finish
  split
  · exact Nat.le_refl _
  · exact Nat.le_trans (load_finishTop_le y.releaseAll) (Nat.le_of_eq (load_release y _))

end Formula.Yard
