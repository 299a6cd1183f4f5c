import Formula.Part

/-!
# Sources of items

A source yields items when it is asked, and goes to a new state each time it is. What it answers after
an error or after `none` is up to the source. One is finite when each item it yields lowers a bound.
-/

namespace Formula

/-- Something that can be asked for items. -/
class Source (σ : Type) where
  next : σ → Option Item × σ

/-- A source that yields no more items than its bound says. -/
class FiniteSource (σ : Type) extends Source σ where
  bound : σ → Nat
  bound_next : ∀ (s s' : σ) (item : Item), next s = (some item, s') → bound s' < bound s

/-- All items of a finite source, up to the first answer that is none. -/
def FiniteSource.items {σ : Type} [FiniteSource σ] (s : σ) : List Item :=
  match _h : Source.next s with
  | (none, _) => []
  | (some item, s') => item :: FiniteSource.items s'
termination_by FiniteSource.bound s
decreasing_by exact FiniteSource.bound_next _ _ _ _h

/-- A source that gives the answers of a list, and after its end none. -/
structure Listed where
  answers : List (Option Item)

namespace Listed

def next : Listed → Option Item × Listed
  | ⟨[]⟩ => (none, ⟨[]⟩)
  | ⟨answer :: rest⟩ => (answer, ⟨rest⟩)

instance : FiniteSource Listed where
  next := next
  bound s := s.answers.length
  bound_next := by
    rintro ⟨_ | ⟨answer, rest⟩⟩ s' item h
    · exact absurd h nofun
    · cases h
      exact Nat.lt_succ_self _

end Listed

/-- The items that are heard before the first answer that is none. -/
def heard : List (Option Item) → List Item
  | some item :: rest => item :: heard rest
  | _ => []

end Formula
