import Formula.Proofs.Lexing.Partition
import Mathlib.Logic.Relation

/-!
# Scanning

A cursor keeps its place twice, as the rest of the source text and as the offset where the rest starts. Each
step of a cursor passes over a beginning of its rest or leaves it alone (`Passed.perform`), so the two agree
after any steps; `Cursor.keeps_place` says this with what each step gives.
-/

namespace Formula

namespace Text

/-- What is not longer than asked for is cut off as a whole. -/
lemma cut_of_le {n : Nat} {s : List Char} (h : byteLength s ≤ n) : cut n s = (s, []) := by
  induction s generalizing n with
  | nil => rfl
  | cons c s ih =>
    rw [byteLength_cons] at h
    rw [cut, if_pos (by omega), ih (by omega)]

/-- A text that can be cut after `n` bytes has as many. -/
lemma byteLength_of_cut? {n : Nat} {s : List Char} {halves : List Char × List Char}
    (h : cut? n s = some halves) : byteLength (cut n s).1 = n := by
  simp only [cut?, Option.ite_none_right_eq_some] at h
  exact h.1

end Text

namespace Lexer

namespace Cursor

/-- What a cursor can be asked for. -/
inductive Step where
  | advance (amount : Nat)
  | readText (text : List Char)
  | readClass (sought : Class)
  | skipBlanks

/-- Takes a step. A step that finds nothing leaves the cursor where it is. -/
def perform (c : Cursor) : Step → Option Token × Cursor
  | .advance amount => (some (c.advance amount).1, (c.advance amount).2)
  | .readText text => found (c.readText? text)
  | .readClass sought => found (c.readClass? sought.matchAt)
  | .skipBlanks => (none, c.skipBlanks)
where
  found : Option (Token × Cursor) → Option Token × Cursor
    | some (token, c') => (some token, c')
    | none => (none, c)

/-- Bytes can be passed over where they end between two characters, or where there are no more than these. -/
def Admits (c : Cursor) : Step → Prop
  | .advance amount => (∃ halves, Text.cut? amount c.rest = some halves) ∨ Text.byteLength c.rest ≤ amount
  | _ => True

/-- One step leads from a cursor to another. -/
def Leads (c c' : Cursor) : Prop := ∃ step, c.Admits step ∧ (c.perform step).2 = c'

variable {source before : List Char} {c c' : Cursor}

/-- To advance is to advance over the characters that fit. -/
lemma advance_eq (c : Cursor) (amount : Nat) :
    c.advance amount = c.advance (Text.byteLength (Text.cut amount c.rest).1) := by
  have whole := Text.cut_append amount c.rest
  have fits := Text.cut_byteLength (Text.cut amount c.rest).1 (Text.cut amount c.rest).2
  rw [whole] at fits
  rw [advance, advance, fits]

/-- A step ahead that is admitted passes as many bytes as it says, or all that are left. -/
lemma byteLength_cut_of_admits {amount : Nat} (h : c.Admits (.advance amount)) :
    Text.byteLength (Text.cut amount c.rest).1 = min amount (Text.byteLength c.rest) := by
  rcases h with ⟨halves, between⟩ | beyond
  · have counted := Text.byteLength_of_cut? between
    have whole := congrArg Text.byteLength (Text.cut_append amount c.rest)
    rw [Text.byteLength_append] at whole
    omega
  · rw [Text.cut_of_le beyond, min_eq_right beyond]

namespace Passed

/-- Every step passes over a beginning of the rest, and what it gives is the token there. -/
lemma perform (h : c.Passed source before) (step : Step) :
    ∃ text, (c.perform step).2.Passed source (before ++ text) ∧
      ∀ token ∈ (c.perform step).1, token = ⟨String.ofList text,
        ⟨Text.byteLength before, Text.byteLength (before ++ text)⟩⟩ := by
  have stays : c.Passed source (before ++ []) := by rwa [List.append_nil]
  cases step with
  | advance amount =>
    obtain ⟨c', advanced, passed⟩ := h.advance (Text.cut_append amount c.rest).symm
    rw [← advance_eq] at advanced
    rw [Cursor.perform, advanced]
    exact ⟨_, passed, fun token same => (Option.some.inj same).symm⟩
  | readText text =>
    rw [Cursor.perform, readText?]
    split
    · next fits =>
      obtain ⟨after, whole⟩ := List.isPrefixOf_iff_prefix.mp fits
      obtain ⟨c', advanced, passed⟩ := h.advance whole.symm
      rw [advanced]
      exact ⟨text, passed, fun token same => (Option.some.inj same).symm⟩
    · exact ⟨[], stays, nofun⟩
  | readClass sought =>
    rw [Cursor.perform]
    cases read : c.readClass? sought.matchAt with
    | none => exact ⟨[], stays, nofun⟩
    | some found =>
      obtain ⟨-, token_eq, passed⟩ := h.readClass? sought.matchAt_isPrefix read
      exact ⟨_, passed, fun token same => (Option.some.inj same).symm.trans token_eq⟩
  | skipBlanks => exact ⟨_, h.skipBlanks, nofun⟩

/-- Steps pass over more and more of the source. -/
lemma leads (h : c.Passed source before) (steps : Relation.ReflTransGen Leads c c') :
    ∃ more, c'.Passed source (before ++ more) := by
  induction steps with
  | refl => exact ⟨[], by rwa [List.append_nil]⟩
  | tail _ last ih =>
    obtain ⟨more, passed⟩ := ih
    obtain ⟨step, -, rfl⟩ := last
    obtain ⟨text, later, -⟩ := passed.perform step
    exact ⟨more ++ text, by rwa [← List.append_assoc]⟩

/-- The bytes before a cursor and those that are left are all bytes of the source. -/
lemma position_add (h : c.Passed source before) :
    c.position + Text.byteLength c.rest = Text.byteLength source := by
  rw [h.position, h.whole, Text.byteLength_append]

end Passed

/-- A step that finds nothing leaves the cursor where it is. -/
lemma perform_of_none {step : Step} (h : (c.perform step).1 = none)
    (no_blank : step = .skipBlanks → ∀ next ∈ c.peek?, Text.isBlank next = false) :
    (c.perform step).2 = c := by
  have unmoved (read : Option (Token × Cursor)) (nothing : (perform.found c read).1 = none) :
      (perform.found c read).2 = c := by
    cases read with
    | none => rfl
    | some found => cases nothing
  cases step with
  | advance amount => cases h
  | readText text => exact unmoved _ h
  | readClass sought => exact unmoved _ h
  | skipBlanks =>
    have nothing : Text.leadingBlanks c.rest = [] := by
      cases rest : c.rest with
      | nil => rfl
      | cons next others =>
        have first := no_blank rfl next (by simp [peek?, rest])
        simp [Text.leadingBlanks, first]
    simp [perform, skipBlanks, readClass?, nothing]

/-- A text is given just where it comes next. -/
lemma text_perform_readText (c : Cursor) (text : List Char) :
    (c.perform (.readText text)).1.map (·.text.toList) = if text <+: c.rest then some text else none := by
  rw [perform, readText?]
  by_cases fits : text <+: c.rest
  · obtain ⟨after, whole⟩ := fits
    rw [if_pos (List.isPrefixOf_iff_prefix.mpr ⟨after, whole⟩), if_pos ⟨after, whole⟩,
      advance_byteLength whole.symm]
    simp [perform.found]
  · rw [if_neg fits, if_neg (mt List.isPrefixOf_iff_prefix.mp fits)]
    rfl

/-- What a class matches is given, unless it is empty. -/
lemma text_perform_readClass (c : Cursor) (sought : Class) :
    (c.perform (.readClass sought)).1.map (·.text.toList) =
      if sought.matchAt c.rest = [] then none else some (sought.matchAt c.rest) := by
  obtain ⟨after, whole⟩ := sought.matchAt_isPrefix c.rest
  rw [perform, readClass?]
  simp only [advance_byteLength whole.symm]
  split
  · rfl
  · simp [perform.found]

/-- Skipping blanks passes over blanks and stops before the first character that is none. -/
lemma Passed.exists_blanks (h : c.Passed source before) :
    ∃ blanks, Span.slice? ⟨c.position, c.skipBlanks.position⟩ source = some blanks ∧ Blanks blanks ∧
      ∀ next ∈ c.skipBlanks.peek?, Text.isBlank next = false := by
  have passed := h.skipBlanks
  refine ⟨Text.leadingBlanks c.rest, ?_, fun _ => List.mem_takeWhile_imp, fun next same => ?_⟩
  · rw [h.position, passed.position, passed.whole, List.append_assoc]
    exact Span.slice?_append _ _ _
  · have first := List.head?_dropWhile_not Text.isBlank c.rest
    have rest : c.rest.dropWhile Text.isBlank = c.skipBlanks.rest := (rest_skipBlanks c).symm
    have head : c.skipBlanks.rest.head? = some next := same
    rw [rest, head] at first
    simpa using first

/-- After any steps, the rest of a cursor is the source text from its offset on, and no step takes the offset
back or beyond the end. A step that gives a token gives the text between the offsets before and after it, and
one that looks for something and does not find it leaves the cursor as it is. To advance takes the bytes asked
for, or those that are left; a text is found just where it comes next; and a class is found as it matches
there. Skipping blanks stops before the first character that is none. -/
theorem keeps_place (source : String) (c : Cursor) (reached : Relation.ReflTransGen Leads (ofSource source) c) :
    let whole := source.toList
    (∃ before, Text.cut? c.position whole = some (before, c.rest)) ∧
    (∀ c', Relation.ReflTransGen Leads c c' →
      c.position ≤ c'.position ∧ c'.position ≤ Text.byteLength whole) ∧
    (∀ step answer c', c.Admits step → c.perform step = (answer, c') →
      (∀ token, answer = some token → token.span = ⟨c.position, c'.position⟩ ∧
        token.span.slice? whole = some token.text.toList) ∧
      (answer = none → (step = .skipBlanks → ∀ next ∈ c.peek?, Text.isBlank next = false) → c' = c)) ∧
    (∀ amount, c.Admits (.advance amount) →
      (c.advance amount).2.position = min (c.position + amount) (Text.byteLength whole)) ∧
    (∀ text, (c.perform (.readText text)).1.map (·.text.toList) =
      if text <+: c.rest then some text else none) ∧
    (∀ sought, (c.perform (.readClass sought)).1.map (·.text.toList) =
      if Class.matchAt sought c.rest = [] then none else some (Class.matchAt sought c.rest)) ∧
    ∃ blanks, Span.slice? ⟨c.position, c.skipBlanks.position⟩ whole = some blanks ∧
      (∀ skipped ∈ blanks, Text.isBlank skipped = true) ∧
      ∀ next ∈ c.skipBlanks.peek?, Text.isBlank next = false := by
  intro whole
  obtain ⟨before, passed⟩ := (Passed.ofSource source).leads reached
  rw [List.nil_append] at passed
  refine ⟨⟨before, passed.cut?⟩, fun c' steps => ?_, fun step answer c' _ performed => ⟨?_, ?_⟩,
    fun amount admits => ?_, text_perform_readText c, text_perform_readClass c, passed.exists_blanks⟩
  · obtain ⟨more, later⟩ := passed.leads steps
    have offset := later.position
    have inside : _ = Text.byteLength whole := later.position_add
    rw [Text.byteLength_append, ← passed.position] at offset
    omega
  · rintro token rfl
    obtain ⟨text, later, given⟩ := passed.perform step
    rw [performed] at later given
    obtain rfl := given token rfl
    refine ⟨by rw [passed.position, later.position], ?_⟩
    have slice := Span.slice?_append before text c'.rest
    rw [← List.append_assoc, ← later.whole] at slice
    rw [slice, String.toList_ofList]
  · rintro rfl no_blank
    have unmoved := perform_of_none (congrArg Prod.fst performed) no_blank
    rwa [performed] at unmoved
  · have taken : (c.advance amount).2.position =
        c.position + Text.byteLength (Text.cut amount c.rest).1 := rfl
    have inside : _ = Text.byteLength whole := passed.position_add
    rw [taken, byteLength_cut_of_admits admits]
    omega

/-- In ` √2.5e`, the sign is passed over after a blank, in one step of three bytes; there is no name behind it, but
there is a number; and what is left can be passed over with more bytes than it has. -/
theorem keeps_place_root :
    let behind : Cursor := ⟨['2', '.', '5', 'e'], 4⟩
    Relation.ReflTransGen Leads (ofSource " √2.5e") behind ∧
      (∃ before, Text.cut? 4 " √2.5e".toList = some (before, ['2', '.', '5', 'e'])) ∧
      (behind.perform (.readClass .name)).2 = behind ∧
      (behind.perform (.readClass .literal)).1.map (·.text.toList) = some ['2', '.', '5'] ∧
      behind.Admits (.advance 9) ∧ (behind.advance 9).2.position = 8 ∧
      behind.perform (.advance 9) = (some ⟨"2.5e", ⟨4, 8⟩⟩, ⟨[], 8⟩) ∧
      Span.slice? ⟨4, 8⟩ " √2.5e".toList = some "2.5e".toList := by
  intro behind
  have blank : Leads (ofSource " √2.5e") ⟨['√', '2', '.', '5', 'e'], 1⟩ :=
    ⟨.skipBlanks, trivial, by decide⟩
  have sign : Leads ⟨['√', '2', '.', '5', 'e'], 1⟩ behind := ⟨.readText ['√'], trivial, by decide⟩
  have reached : Relation.ReflTransGen Leads (ofSource " √2.5e") behind := .tail (.single blank) sign
  have beyond : behind.Admits (.advance 9) := .inr (by decide)
  obtain ⟨place, -, steps, advances, -, classes, -⟩ := keeps_place " √2.5e" behind reached
  have no_name := (steps (.readClass .name) none behind trivial (by decide)).2 rfl nofun
  have last : behind.perform (.advance 9) = (some ⟨"2.5e", ⟨4, 8⟩⟩, ⟨[], 8⟩) := by decide
  have slice := ((steps (.advance 9) _ _ beyond last).1 _ rfl).2
  exact ⟨reached, place, no_name, (classes .literal).trans rfl, beyond, (advances 9 beyond).trans (by decide),
    last, slice⟩

end Cursor

end Lexer

end Formula
