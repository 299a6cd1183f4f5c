import Formula.Proofs.Yard.Shunting

/-!
# The count of open parentheses

A yard counts the open parentheses on its stack. `Balanced.shunt` says that the count stays right
whatever token comes, also one that is an error.
-/

namespace Formula.Yard

/-- The open parentheses on a stack. -/
def openings : List Held → Nat
  | [] => 0
  | .opened _ :: rest => openings rest + 1
  | .operator _ :: rest => openings rest

/-- The open parentheses of two stacks add up. -/
@[simp] lemma openings_append (stack below : List Held) :
    openings (stack ++ below) = openings stack + openings below := by
  induction stack with
  | nil => simp [openings]
  | cons held rest ih =>
    cases held with
    | opened span =>
      simp only [List.cons_append, openings, ih]
      omega
    | operator op => exact ih

/-- Among operators no parenthesis is open. -/
@[simp] lemma openings_operators (ops : List Operator) : openings (ops.map .operator) = 0 := by
  induction ops with
  | nil => rfl
  | cons op rest ih => exact ih

/-- A stack is what is split off it on top of what stays. -/
lemma split_append (pass : Operator → Bool) (stack : List Held) :
    (Yard.split pass stack).1.map .operator ++ (Yard.split pass stack).2 = stack := by
  induction stack with
  | nil => rfl
  | cons held rest ih =>
    cases held with
    | opened span => rfl
    | operator op =>
      rw [split]
      split
      · rw [List.map_cons, List.cons_append, ih]
      · rfl

/-- What is released holds no open parenthesis. -/
@[simp] lemma openings_split (pass : Operator → Bool) (stack : List Held) :
    openings (Yard.split pass stack).2 = openings stack := by
  have parts := congrArg openings (split_append pass stack)
  simpa using parts

/-- A yard counts the open parentheses on its stack. -/
def Balanced (y : Yard) : Prop := y.openCount = openings y.stack

/-- In an empty yard the count is zero. -/
lemma Balanced.empty : Balanced Yard.empty := rfl

variable {y : Yard}

/-- Operators that are released leave the count right. -/
lemma Balanced.release (h : Balanced y) (pass : Operator → Bool) : Balanced (y.release pass) :=
  h.trans (openings_split pass y.stack).symm

/-- A function that passes leaves the count of open parentheses right. -/
lemma Balanced.call (h : Balanced y) : Balanced y.call := by
  obtain ⟨output, stack, expected, count⟩ := y
  cases stack with
  | nil => exact h
  | cons held below =>
    cases held with
    | opened span => exact h
    | operator op =>
      unfold Yard.call
      simp only
      split
      · exact h
      · exact h

/-- A parenthesis is counted off when it is closed. -/
lemma Balanced.closeTop (h : Balanced y) (span : Span) : Balanced (y.closeTop span).1 := by
  obtain ⟨output, stack, expected, count⟩ := y
  cases stack with
  | nil => exact h
  | cons held below =>
    cases held with
    | opened opening =>
      have below_balanced : Balanced ⟨output, below, expected, count - 1⟩ := by
        simp only [Balanced, openings] at h ⊢
        omega
      exact below_balanced.call
    | operator op => exact h

/-- An operator that is placed leaves the count right. -/
lemma Balanced.place (h : Balanced y) (op : Operator) : Balanced (y.place op) := by
  unfold Yard.place
  split
  · exact h
  · exact h
  · exact h
  · exact h.release _

/-- Every move keeps the count right. -/
lemma Balanced.make (h : Balanced y) (move : Move) : Balanced (y.make move).1 := by
  cases move with
  | operand value => exact h
  | opening span =>
    simp only [Balanced, Yard.make, hold, openings] at h ⊢
    omega
  | closing span => exact (h.release _).closeTop span
  | separator => exact h.release _
  | operator op => exact h.place op
  | unknown e => exact h

/-- A yard with the right count has it after any token. -/
lemma Balanced.shunt (h : Balanced y) (d : Dialect) (token : Token) :
    Balanced (y.shunt d token).1 := by
  rw [shunt_eq_make]
  exact h.make _

/-- A yard with the right count has it after any tokens. -/
lemma Balanced.shuntAll (h : Balanced y) (d : Dialect) (tokens : List Token) :
    Balanced (y.shuntAll d tokens).1 := by
  induction tokens generalizing y with
  | nil => exact h
  | cons token rest ih =>
    have taken := h.shunt d token
    rw [shuntAll_cons_eq]
    split
    · next y' same =>
      rw [same] at taken
      exact ih taken
    · next y' e same =>
      rw [same] at taken
      exact taken

/-- A stack without an open parenthesis holds operators only. -/
lemma eq_operators_of_openings {stack : List Held} (h : openings stack = 0) :
    ∃ ops : List Operator, stack = ops.map .operator := by
  induction stack with
  | nil => exact ⟨[], rfl⟩
  | cons held rest ih =>
    cases held with
    | opened span => exact absurd h (Nat.succ_ne_zero _)
    | operator op =>
      obtain ⟨ops, rfl⟩ := ih h
      exact ⟨op :: ops, rfl⟩

end Formula.Yard
