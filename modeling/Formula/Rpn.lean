import Formula.Source
import Formula.Yard.Load

/-!
# Reading in reverse Polish order

`Rpn` reads a source text as a sequence of parts. It asks for a token only when no part is ready, and
for none after an error or after the tokens have run out. `bound_next` bounds the number of items by
what has not been used yet.
-/

namespace Formula

/-- A reading under way. -/
structure Rpn where
  dialect : Dialect
  /-- What the tokenizer will still answer. -/
  answers : Answers
  yard : Yard
  /-- An error that has not been yielded yet. -/
  error : Option ParseError
  /-- Whether no more tokens are asked for. -/
  finished : Bool
  /-- The number of tokens taken. -/
  taken : Nat

namespace Rpn

/-- A reading that starts with these answers of the tokenizer. -/
def ofAnswers (d : Dialect) (answers : Answers) : Rpn := ⟨d, answers, .empty, none, false, 0⟩

def ofSource (d : Dialect) (source : String) : Rpn := ofAnswers d (d.tokenize source)

/-- Keeps the outcome of a step of the yard; an error ends the reading. -/
def settle (r : Rpn) (outcome : Yard × Option ParseError) : Rpn :=
  match outcome with
  | (yard, none) => { r with yard }
  | (yard, some e) => { r with yard, error := some e, finished := true }

def take (r : Rpn) (token : Token) : Rpn :=
  { r with taken := r.taken + 1 }.settle (r.yard.shunt r.dialect token)

/-- Ends the reading where there is no token. -/
def close (r : Rpn) : Rpn := { r with finished := true }.settle r.yard.finish

/-- Tells whether the next answer needs no token. -/
def isReady (r : Rpn) : Bool := !r.yard.output.isEmpty || r.error.isSome || r.finished

/-- Takes tokens until the next answer needs none. -/
def fill : Answers → Rpn → Rpn
  | [], r => if r.isReady then { r with answers := [] } else { r with answers := [] }.close
  | none :: rest, r =>
    if r.isReady then { r with answers := none :: rest } else { r with answers := rest }.close
  | some token :: rest, r =>
    if r.isReady then { r with answers := some token :: rest } else fill rest (r.take token)

def yieldReady (r : Rpn) : Option Item × Rpn :=
  match r.yard.output, r.error with
  | part :: rest, _ => (some (.ok part), { r with yard := { r.yard with output := rest } })
  | [], some e => (some (.error e), { r with error := none })
  | [], none => (none, r)

def next (r : Rpn) : Option Item × Rpn := (fill r.answers r).yieldReady

/-- The number of items that a reading can yield before it asks for another token. -/
def due (r : Rpn) : Nat :=
  r.yard.load + (if r.error.isSome then 1 else 0) + (if r.finished then 0 else 1)

/-- A token makes at most one more item due. -/
theorem due_take_le {r : Rpn} (h : r.isReady = false) (token : Token) :
    (r.take token).due ≤ r.due + 1 := by
  have grown := Yard.load_shunt_le r.dialect r.yard token
  simp only [isReady, Bool.or_eq_false_iff] at h
  simp only [take, settle]
  split
  · next yard same =>
    rw [same] at grown
    simp only [due, h.1.2, h.2]
    simp only at grown ⊢
    omega
  · next yard e same =>
    rw [same] at grown
    simp [due, h.1.2, h.2] at grown ⊢
    omega

/-- The end of the tokens makes no more items due. -/
theorem due_close_le {r : Rpn} (h : r.isReady = false) : r.close.due ≤ r.due := by
  have kept := Yard.load_finish_le r.yard
  simp only [isReady, Bool.or_eq_false_iff] at h
  simp only [close, settle]
  split
  · next yard same =>
    rw [same] at kept
    simp [due, h.1.2, h.2] at kept ⊢
    omega
  · next yard e same =>
    rw [same] at kept
    simp [due, h.1.2, h.2] at kept ⊢
    omega

/-- The number of items that a reading can still yield at most. -/
def bound (r : Rpn) : Nat := r.answers.length + r.due

/-- Settling an outcome asks for no answer. -/
theorem answers_settle (r : Rpn) (outcome : Yard × Option ParseError) :
    (r.settle outcome).answers = r.answers := by
  unfold settle
  split <;> rfl

/-- The end of the tokens lets no more items be yielded. -/
theorem bound_close_le {r : Rpn} (h : r.isReady = false) : r.close.bound ≤ r.bound := by
  have kept := due_close_le h
  simp only [bound, close, answers_settle] at kept ⊢
  omega

/-- Filling a reading lets no more items be yielded than there are answers and items due. -/
theorem bound_fill_le (answers : Answers) (r : Rpn) :
    (fill answers r).bound ≤ answers.length + r.due := by
  induction answers generalizing r with
  | nil =>
    rw [fill]
    split
    · exact Nat.le_refl _
    · next waiting =>
      exact bound_close_le (r := { r with answers := [] }) (Bool.eq_false_iff.mpr waiting)
  | cons answer rest ih =>
    cases answer with
    | none =>
      rw [fill]
      split
      · exact Nat.le_refl _
      · next waiting =>
        have kept :=
          bound_close_le (r := { r with answers := rest }) (Bool.eq_false_iff.mpr waiting)
        have same : bound { r with answers := rest } = rest.length + r.due := rfl
        rw [List.length_cons]
        omega
    | some token =>
      rw [fill]
      split
      · exact Nat.le_refl _
      · next waiting =>
        have kept := ih (r.take token)
        have grown := due_take_le (Bool.eq_false_iff.mpr waiting) token
        rw [List.length_cons]
        omega

/-- An item that is yielded is one less to be yielded. -/
theorem bound_yieldReady {r r' : Rpn} {item : Item} (h : r.yieldReady = (some item, r')) :
    r'.bound < r.bound := by
  unfold yieldReady at h
  split at h
  · next part rest _ passed =>
    cases h
    simp only [bound, due, Yard.load, passed, List.length_cons]
    omega
  · next e _ failed =>
    cases h
    simp only [bound, due, failed]
    simp
  · cases h

/-- Every item lowers the bound. -/
theorem bound_next (r r' : Rpn) (item : Item) (h : r.next = (some item, r')) :
    r'.bound < r.bound :=
  Nat.lt_of_lt_of_le (bound_yieldReady h) (bound_fill_le r.answers r)

instance : FiniteSource Rpn where
  next := next
  bound := bound
  bound_next := bound_next

end Rpn

end Formula
