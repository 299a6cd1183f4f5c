import Formula.Proofs.Json.Numbers
import Formula.Proofs.Json.Strings

/-!
# Reading JSON

What a text denotes is what it is read as (`Denotes.value?`), as long as its arrays and objects do not nest
deeper than the reader goes (`Denotes.read?`).
-/

namespace Formula.Json

/-- Of one more there is one less left inside. -/
lemma exists_deeper {n d : Nat} (h : n + 1 ≤ d) : ∃ inner, d = inner + 1 ∧ n ≤ inner :=
  ⟨d - 1, by omega, by omega⟩

section Blanks

variable {blanks s : List Char} {c : Char}

/-- A text begins with a character that is not skipped. -/
def Starts (s : List Char) : Prop := ∃ c rest, s = c :: rest ∧ isSpace c = false

/-- What follows a text does not change how it starts. -/
lemma Starts.append {s : List Char} (starts : Starts s) (t : List Char) : Starts (s ++ t) := by
  obtain ⟨c, rest, rfl, visible⟩ := starts
  exact ⟨c, rest ++ t, rfl, visible⟩

/-- Blanks are skipped up to where a text starts. -/
lemma skip_blanks (blank : ∀ c ∈ blanks, isSpace c = true) (starts : Starts s) : skip (blanks ++ s) = s := by
  obtain ⟨c, rest, rfl, visible⟩ := starts
  rw [skip, List.dropWhile_append_of_pos blank]
  exact List.dropWhile_cons_of_neg (by simp [visible])

/-- Blanks that have been skipped are not skipped again. -/
lemma skip_skip (s : List Char) : skip (skip s) = skip s := List.dropWhile_idempotent _ s

/-- A text without the blanks before it is what is read of a spaced text. -/
lemma Spaced.skip_text {t : Spaced} (starts : Starts t.body) (r : List Char) :
    skip (t.text ++ r) = t.body ++ (t.after ++ r) := by
  rw [Spaced.text, List.append_assoc, List.append_assoc]
  exact skip_blanks t.isSpace_before (starts.append _)

end Blanks

section Entries

variable {α : Type} {entry : List Char → Option (α × List Char)} {close : Char}
variable {text : List Char} {texts : List (List Char)} {x : α} {xs : List α}

/-- A text holds an entry, which is read up to the comma or the closing mark that comes after it. -/
structure Holds (entry : List Char → Option (α × List Char)) (close : Char) (text : List Char) (x : α) :
    Prop where
  starts : ∃ c rest, skip text = c :: rest ∧ c ≠ close
  reads : ∀ mark r, mark = ',' ∨ mark = close →
    ∃ left, entry (skip (text ++ mark :: r)) = some (x, left) ∧ skip left = mark :: r

/-- There are fewer texts than characters when commas stand between them. -/
lemma length_le_intercalate (texts : List (List Char)) :
    texts.length ≤ (List.intercalate [','] texts).length + 1 := by
  induction texts with
  | nil => exact Nat.zero_le _
  | cons text texts ih =>
    cases texts with
    | nil => exact Nat.le_add_left _ _
    | cons next texts =>
      rw [List.intercalate_cons_cons]
      simp only [List.length_append, List.length_cons, List.length_nil] at ih ⊢
      omega

/-- Entries with commas between them are read up to the closing mark. -/
lemma entries_intercalate (each : List.Forall₂ (Holds entry close) texts xs) (no_comma : close ≠ ',')
    (some_text : texts ≠ []) {bound : Nat} (enough : texts.length ≤ bound) (r : List Char) :
    entries entry close bound (List.intercalate [','] texts ++ close :: r) = some (xs, r) := by
  induction each generalizing bound with
  | nil => exact absurd rfl some_text
  | @cons text x texts xs first rest ih =>
    obtain ⟨bound, rfl, fewer⟩ := exists_deeper enough
    cases rest with
    | nil =>
      obtain ⟨left, read, mark⟩ := first.reads close r (.inr rfl)
      simp [entries, read, mark, no_comma]
    | @cons next _ texts _ second rest =>
      obtain ⟨left, read, mark⟩ :=
        first.reads ',' (List.intercalate [','] (next :: texts) ++ close :: r) (.inl rfl)
      have later := ih (List.cons_ne_nil _ _) fewer
      rw [List.intercalate_cons_cons, List.append_assoc, List.append_assoc, List.singleton_append, entries]
      simp [read, mark, later]

/-- Entries are read between the marks around them. -/
lemma enclosed_intercalate (each : List.Forall₂ (Holds entry close) texts xs) (no_comma : close ≠ ',')
    (some_text : texts ≠ []) (r : List Char) :
    enclosed entry close (List.intercalate [','] texts ++ close :: r) = some (xs, r) := by
  have enough : texts.length ≤ (List.intercalate [','] texts ++ close :: r).length := by
    have fewer := length_le_intercalate texts
    rw [List.length_append, List.length_cons]
    omega
  have all := entries_intercalate each no_comma some_text enough r
  -- the first entry starts before the closing mark, so that there is one
  have first : ∃ c rest, skip (List.intercalate [','] texts ++ close :: r) = c :: rest ∧ c ≠ close := by
    cases each with
    | nil => exact absurd rfl some_text
    | @cons text _ texts _ first rest =>
      obtain ⟨c, tail, starts, no_close⟩ := first.starts
      have longer (s : List Char) : skip (text ++ s) = c :: (tail ++ s) := by
        rw [skip, List.dropWhile_append]
        rw [skip] at starts
        simp [starts]
      cases texts with
      | nil => exact ⟨c, _, by rw [List.intercalate_singleton, longer], no_close⟩
      | cons next texts =>
        exact ⟨c, _, by rw [List.intercalate_cons_cons, List.append_assoc, List.append_assoc, longer], no_close⟩
  obtain ⟨c, tail, starts, no_close⟩ := first
  generalize List.intercalate [','] texts ++ close :: r = s at all starts
  cases length : s.length with
  | zero =>
    rw [List.length_eq_zero_iff.mp length] at starts
    cases starts
  | succ bound =>
    rw [length] at all
    rw [enclosed, starts, length]
    dsimp only
    rw [if_neg no_close, ← starts, entries, skip_skip]
    exact all

/-- Between the marks there may be nothing but blanks. -/
lemma enclosed_blanks {blanks : List Char} (blank : ∀ c ∈ blanks, isSpace c = true)
    (visible : isSpace close = false) (r : List Char) :
    enclosed entry close (blanks ++ close :: r) = some ([], r) := by
  rw [enclosed, skip_blanks blank ⟨close, r, rfl, visible⟩]
  exact if_pos rfl

end Entries

variable {s : List Char} {v : Json}

/-- Blanks are no parts of numbers. -/
lemma endsNumber_of_blanks {after : List Char} (blank : ∀ c ∈ after, isSpace c = true) : EndsNumber after := by
  intro c first
  have space := blank c (List.mem_of_mem_head? first)
  simp only [isSpace, Bool.or_eq_true, beq_iff_eq] at space
  obtain ((rfl | rfl) | rfl) | rfl := space <;> decide

/-- Neither are commas and closing marks, with blanks before them or without. -/
lemma endsNumber_append {after r : List Char} {mark : Char} (blank : ∀ c ∈ after, isSpace c = true)
    (other : mark = ',' ∨ mark = ']' ∨ mark = '\x7d') : EndsNumber (after ++ mark :: r) := by
  cases after with
  | nil =>
    rintro c ⟨⟩
    rcases other with rfl | rfl | rfl <;> decide
  | cons d after => exact fun c first => endsNumber_of_blanks blank c first

/-- What denotes a value begins with no blank and no closing bracket. -/
lemma Denotes.exists_first {real? : List Char → Option Float} (h : Denotes real? s v) :
    ∃ c rest, s = c :: rest ∧ isSpace c = false ∧ c ≠ ']' := by
  cases h with
  | @number p _ stands =>
    obtain ⟨c, rest, starts, number⟩ := Json.exists_first p
    refine ⟨c, rest, starts, isSpace_of_number number, ?_⟩
    rintro rfl
    exact absurd number (by decide)
  | @bool value => cases value <;> exact ⟨_, _, rfl, by decide, by decide⟩
  | string inQuotes =>
    obtain ⟨tail, rfl, -⟩ := inQuotes.exists_tail
    exact ⟨_, _, rfl, by decide, by decide⟩
  | _ => exact ⟨_, _, rfl, by decide, by decide⟩

/-- What denotes a value begins with no blank. -/
lemma Denotes.starts {real? : List Char → Option Float} (h : Denotes real? s v) : Starts s := by
  obtain ⟨c, rest, starts, visible, -⟩ := h.exists_first
  exact ⟨c, rest, starts, visible⟩

section Nested

variable {d : Nat}

/-- What denotes a value is read as it, whatever comes behind. -/
def Reads (d : Nat) (s : List Char) (v : Json) : Prop :=
  ∀ r, EndsNumber r → value? d (s ++ r) = some (v, r)

/-- An item of an array is read if its value is. -/
lemma holds_item {item : Spaced} (denotes : Denotes Number.parseFinite? item.body v) (reads : Reads d item.body v) :
    Holds (value? d) ']' item.text v where
  starts := by
    obtain ⟨c, rest, starts, -, no_close⟩ := denotes.exists_first
    refine ⟨c, rest ++ item.after, ?_, no_close⟩
    have text := item.skip_text denotes.starts []
    rwa [List.append_nil, List.append_nil, starts] at text
  reads mark r other := by
    have ends : EndsNumber (item.after ++ mark :: r) :=
      endsNumber_append item.isSpace_after (other.imp_right .inl)
    refine ⟨item.after ++ mark :: r, ?_, skip_blanks item.isSpace_after ⟨mark, r, rfl, ?_⟩⟩
    · rw [item.skip_text denotes.starts]
      exact reads _ ends
    · rcases other with rfl | rfl <;> rfl

/-- A member of an object is read if its value is. -/
lemma holds_member {m : Member} (denotes : Denotes Number.parseFinite? m.value.body v)
    (reads : Reads d m.value.body v) : Holds (member? (value? d)) '\x7d' m.text (m.key, v) := by
  obtain ⟨tail, quoted, read⟩ := m.inQuotes.exists_tail
  have name_starts : Starts m.name.body := ⟨'"', tail, quoted, rfl⟩
  refine ⟨⟨'"', tail ++ (m.name.after ++ ':' :: m.value.text), ?_, by decide⟩, fun mark r other => ?_⟩
  · rw [Member.text, Spaced.skip_text name_starts, quoted]
    rfl
  · have colon : skip (m.name.after ++ ':' :: (m.value.text ++ mark :: r)) = ':' :: (m.value.text ++ mark :: r) :=
      skip_blanks m.name.isSpace_after ⟨':', _, rfl, rfl⟩
    have ends : EndsNumber (m.value.after ++ mark :: r) :=
      endsNumber_append m.value.isSpace_after (other.imp_right .inr)
    refine ⟨m.value.after ++ mark :: r, ?_, skip_blanks m.value.isSpace_after ⟨mark, r, rfl, ?_⟩⟩
    · rw [Member.text, List.append_assoc, Spaced.skip_text name_starts, quoted, List.cons_append,
        List.cons_append, member?, read]
      simp [colon, Spaced.skip_text denotes.starts, reads _ ends]
    · rcases other with rfl | rfl <;> rfl

/-- What a text denotes is what it is read as. -/
lemma Denotes.value? (h : Denotes Number.parseFinite? s v) (shallow : v.depth ≤ d) : Reads d s v := by
  induction h generalizing d with
  | null => exact fun _ _ => by simp [Json.value?]
  | @bool value => cases value <;> exact fun _ _ => by simp [boolText, Json.value?]
  | number stands => exact fun r ends => value?_of_stands stands d ends
  | @string s text inQuotes =>
    intro r _
    obtain ⟨tail, rfl, read⟩ := inQuotes.exists_tail
    rw [List.cons_append, Json.value?, read]
    exact congrArg (fun text => some (Json.string text, r)) String.ofList_toList
  | noItems blank =>
    intro r _
    obtain ⟨d, rfl, -⟩ := exists_deeper shallow
    rw [List.append_assoc, List.cons_append, List.singleton_append, Json.value?, enclosed_blanks blank rfl]
    rfl
  | @array items some_item each ih =>
    intro r _
    obtain ⟨d, rfl, deeper⟩ := exists_deeper shallow
    have inside : List.Forall₂ (Holds (Json.value? d) ']') (items.map (·.1.text)) (items.map (·.2)) := by
      rw [List.forall₂_map_left_iff, List.forall₂_map_right_iff, List.forall₂_same]
      intro item member
      exact holds_item (each item member)
        (ih item member ((depth_le_depthItems (List.mem_map_of_mem member)).trans deeper))
    rw [enclose, List.append_assoc, List.cons_append, List.singleton_append, Json.value?,
      enclosed_intercalate inside (by decide) (by simpa using some_item)]
    rfl
  | noMembers blank =>
    intro r _
    obtain ⟨d, rfl, -⟩ := exists_deeper shallow
    rw [List.append_assoc, List.cons_append, List.singleton_append, Json.value?, enclosed_blanks blank rfl]
    rfl
  | @object members some_member each ih =>
    intro r _
    obtain ⟨d, rfl, deeper⟩ := exists_deeper shallow
    have inside : List.Forall₂ (Holds (member? (Json.value? d)) '\x7d') (members.map (·.1.text))
        (members.map fun m => (m.1.key, m.2)) := by
      rw [List.forall₂_map_left_iff, List.forall₂_map_right_iff, List.forall₂_same]
      intro m member
      exact holds_member (each m member)
        (ih m member ((depth_le_depthMembers (List.mem_map_of_mem member)).trans deeper))
    rw [enclose, List.append_assoc, List.cons_append, List.singleton_append, Json.value?,
      enclosed_intercalate inside (by decide) (by simpa using some_member)]
    rfl

/-- A text that denotes a value which is not too deep is read as it, with blanks around it. -/
lemma Denotes.read? {t : Spaced} (h : Denotes Number.parseFinite? t.body v) (shallow : v.depth ≤ depthLimit) :
    Json.read? t.text = some v := by
  have text := t.skip_text h.starts []
  rw [List.append_nil, List.append_nil] at text
  have after : skip t.after = [] := List.dropWhile_eq_nil_iff.mpr t.isSpace_after
  rw [Json.read?, text, h.value? shallow _ (endsNumber_of_blanks t.isSpace_after)]
  exact if_pos after

end Nested

end Formula.Json
