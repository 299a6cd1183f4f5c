/-!
# Stacks

A stack of values, kept with its top first. Taking several values at once either succeeds or leaves
the stack as it was.
-/

namespace Formula

/-- A stack has fewer elements than were asked for. -/
inductive StackError where
  | notEnoughElements (expected actual : Nat)
deriving DecidableEq

def StackError.message : StackError → String
  | .notEnoughElements expected actual =>
    s!"Not enough stack elements, expected at least {expected} but found {actual}."

/-- Values on top of each other. -/
structure Stack (α : Type) where
  /-- The values from the top down. -/
  fromTop : List α
deriving DecidableEq

namespace Stack

variable {α : Type}

def empty : Stack α := ⟨[]⟩

/-- The stack of these values, the last one on top. -/
def ofList (values : List α) : Stack α := ⟨values.reverse⟩

def size (s : Stack α) : Nat := s.fromTop.length

def isEmpty (s : Stack α) : Bool := s.fromTop.isEmpty

def push (s : Stack α) (value : α) : Stack α := ⟨value :: s.fromTop⟩

def peek? (s : Stack α) : Option α := s.fromTop.head?

/-- Checks that there are as many values as expected. -/
def check (s : Stack α) (expected : Nat) : Except StackError Unit :=
  if s.size < expected then .error (.notEnoughElements expected s.size) else .ok ()

/-- Takes the value on top. -/
def pop (s : Stack α) : Except StackError (α × Stack α) :=
  match s.fromTop with
  | [] => .error (.notEnoughElements 1 0)
  | value :: rest => .ok (value, ⟨rest⟩)

/-- Takes the topmost values and gives them in the order in which they were pushed. -/
def popSeveral (s : Stack α) (count : Nat) : Except StackError (List α × Stack α) :=
  (s.check count).map fun _ => ((s.fromTop.take count).reverse, ⟨s.fromTop.drop count⟩)

end Stack

end Formula
