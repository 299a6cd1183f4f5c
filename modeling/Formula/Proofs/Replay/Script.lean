import Formula.Proofs.Yard.Reading
import Formula.Replay
import Mathlib.Data.ENat.Lattice

/-!
# What a source tells

A source answers one request after another, as it likes. It *tells* its parts up to the first answer that
is none, that answer, and nothing more: `Source.told`. How many parts it tells is its `extent`, which may
be infinite.
-/

namespace Formula.Source

variable {σ : Type} [Source σ]

/-- The source after it has been asked a number of times. -/
def after (s : σ) : Nat → σ
  | 0 => s
  | k + 1 => (Source.next (after s k)).2

/-- The answer of a source after it has been asked a number of times. -/
def answer (s : σ) (k : Nat) : Option Item := (Source.next (after s k)).1

/-- An answer is a part. -/
def IsPart (a : Option Item) : Prop := ∃ part, a = some (.ok part)

/-- The number of parts before the first answer that is none, if there is one. -/
noncomputable def extent (s : σ) : ℕ∞ := ⨅ (k : ℕ) (_ : ¬ IsPart (answer s k)), (k : ℕ∞)

open Classical in
/-- What a source tells: its answers up to the first that is no part, and then nothing. -/
noncomputable def told (s : σ) (k : Nat) : Option Item :=
  if (k : ℕ∞) ≤ extent s then answer s k else none

variable {s : σ} {k n : Nat}

/-- The extent is at least a number when as many answers are parts. -/
lemma le_extent_iff : (k : ℕ∞) ≤ extent s ↔ ∀ j < k, IsPart (answer s j) := by
  unfold extent
  rw [le_iInf₂_iff]
  constructor
  · intro least j lower
    by_contra no_part
    exact absurd (least j no_part) (by simpa using lower)
  · intro parts j no_part
    exact_mod_cast Nat.le_of_not_lt fun lower => no_part (parts j lower)

/-- The extent is where the parts end. -/
lemma extent_eq (parts : ∀ j < n, IsPart (answer s j)) (last : ¬ IsPart (answer s n)) :
    extent s = n := by
  refine le_antisymm ?_ (le_extent_iff.mpr parts)
  exact iInf₂_le n last

/-- Behind parts a source tells what it answers. -/
lemma told_of_parts (parts : ∀ j < k, IsPart (answer s j)) : told s k = answer s k := by
  rw [told, if_pos (le_extent_iff.mpr parts)]

/-- After an answer that is no part, nothing is told. -/
lemma told_of_lt (last : ¬ IsPart (answer s n)) (later : n < k) : told s k = none := by
  rw [told, if_neg]
  exact fun inside => last (le_extent_iff.mp inside n later)

end Formula.Source

namespace Formula.Listed

/-- A list of answers that has been asked some times has the later answers left. -/
lemma after_eq (answers : List (Option Item)) (k : Nat) :
    Source.after (⟨answers⟩ : Listed) k = ⟨answers.drop k⟩ := by
  induction k with
  | zero => rfl
  | succ k ih =>
    rw [Source.after, ih, ← List.drop_drop]
    cases answers.drop k <;> rfl

/-- A source that lists parts answers them one after another. -/
lemma answer_eq (parts : List Part) (k : Nat) :
    Source.answer (⟨parts.map (some <| .ok ·)⟩ : Listed) k = parts[k]?.map .ok := by
  have first (answers : List (Option Item)) :
      (Source.next (⟨answers⟩ : Listed)).1 = answers.head?.join := by
    cases answers <;> rfl
  rw [Source.answer, after_eq, first, List.head?_drop, List.getElem?_map]
  cases parts[k]? <;> rfl

/-- Of the answers of a list of parts, as many are parts as there are parts. -/
lemma isPart_iff (parts : List Part) (k : Nat) :
    Source.IsPart (Source.answer (⟨parts.map (some <| .ok ·)⟩ : Listed) k) ↔ k < parts.length := by
  simp [Source.IsPart, answer_eq, List.getElem?_eq_some_iff]

/-- The extent of a source that lists parts is their number. -/
lemma extent_eq (parts : List Part) :
    Source.extent (⟨parts.map (some <| .ok ·)⟩ : Listed) = parts.length :=
  Source.extent_eq (fun j inside => (isPart_iff parts j).mpr inside)
    fun beyond => absurd ((isPart_iff parts _).mp beyond) (Nat.lt_irrefl _)

/-- A list of parts tells its parts and then nothing. -/
lemma told_eq (parts : List Part) (k : Nat) :
    Source.told (⟨parts.map (some <| .ok ·)⟩ : Listed) k = parts[k]?.map .ok := by
  rw [Source.told, extent_eq, answer_eq]
  split
  · rfl
  · next beyond =>
    rw [List.getElem?_eq_none]
    · rfl
    · exact_mod_cast (not_le.mp beyond).le

/-- The items of a list of answers are those that are heard. -/
lemma items_eq_heard (answers : List (Option Item)) :
    FiniteSource.items (⟨answers⟩ : Listed) = heard answers := by
  induction answers with
  | nil =>
    have ends : Source.next (⟨[]⟩ : Listed) = (none, ⟨[]⟩) := rfl
    exact FiniteSource.items_of_none ends
  | cons answer rest ih =>
    have answers : Source.next (⟨answer :: rest⟩ : Listed) = (answer, ⟨rest⟩) := rfl
    cases answer with
    | none => exact FiniteSource.items_of_none answers
    | some item => rw [FiniteSource.items_of_some answers, ih, heard]

/-- The items of a list of parts are the parts. -/
lemma items_eq (parts : List Part) :
    FiniteSource.items (⟨parts.map (some <| .ok ·)⟩ : Listed) = parts.map .ok := by
  rw [items_eq_heard]
  induction parts with
  | nil => rfl
  | cons part rest ih => rw [List.map_cons, heard, ih, List.map_cons]

end Formula.Listed
