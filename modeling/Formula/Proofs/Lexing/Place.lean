import Formula.Proofs.Lexing.Spaced

/-!
# Places in a source text

A cursor has passed a beginning of the source text: its offset counts the bytes of that beginning, and what
follows is its rest. Every step passes over whole characters, since what it passes over is found at the
beginning of the rest.
-/

namespace Formula

/-- A text can be cut after each of its beginnings. -/
lemma Text.cut?_byteLength (front rest : List Char) :
    cut? (byteLength front) (front ++ rest) = some (front, rest) := by
  rw [cut?, cut_byteLength, if_pos rfl]

/-- The text under the span between what comes before it and what comes after it. -/
lemma Span.slice?_append (before text after : List Char) :
    slice? ⟨Text.byteLength before, Text.byteLength (before ++ text)⟩ (before ++ (text ++ after)) =
      some text := by
  have length : Span.length ⟨Text.byteLength before, Text.byteLength (before ++ text)⟩ =
      Text.byteLength text := by
    simp [Span.length]
  rw [slice?, if_pos (by simp), Text.cut?_byteLength, length]
  simp [Text.cut?_byteLength]

namespace Lexer

variable {symbols : List (List Char)} {source before : List Char} {c c' : Cursor} {token : Token}

/-- A text that is not empty has a token at its beginning. -/
lemma lexemeAt_ne_nil {s : List Char} (h : s ≠ []) : lexemeAt symbols s ≠ [] := by
  unfold lexemeAt
  cases found : (candidates symbols s).find? (· ≠ []) with
  | some text => simpa using List.find?_some found
  | none =>
    have single : s.take 1 ≠ [] := by simpa using h
    have none_found := List.find?_eq_none.mp found (s.take 1) (by simp [candidates, Class.ofTokens, Class.matchAt])
    simp [single] at none_found

namespace Cursor

/-- A cursor has passed a beginning of a source text. -/
structure Passed (source before : List Char) (c : Cursor) : Prop where
  whole : source = before ++ c.rest
  position : c.position = Text.byteLength before

namespace Passed

/-- A cursor at the beginning has passed nothing. -/
lemma ofSource (source : String) : (Cursor.ofSource source).Passed source.toList [] := ⟨rfl, rfl⟩

/-- The place of a cursor is between two characters. -/
lemma cut? (h : c.Passed source before) : Text.cut? c.position source = some (before, c.rest) := by
  rw [h.whole, h.position, Text.cut?_byteLength]

/-- To advance over a beginning of the rest gives it as a token. -/
lemma advance {text after : List Char} (h : c.Passed source before) (fits : c.rest = text ++ after) :
    ∃ c', c.advance (Text.byteLength text) =
        (⟨String.ofList text, ⟨Text.byteLength before, Text.byteLength (before ++ text)⟩⟩, c') ∧
      c'.Passed source (before ++ text) := by
  refine ⟨⟨after, Text.byteLength (before ++ text)⟩, ?_, ?_, rfl⟩
  · rw [advance_byteLength fits, h.position, Text.byteLength_append]
  · rw [h.whole, fits, List.append_assoc]

/-- What a class matches is passed over. -/
lemma readClass? {classAt : List Char → List Char} (h : c.Passed source before)
    (starts : ∀ s, classAt s <+: s) (read : c.readClass? classAt = some (token, c')) :
    classAt c.rest ≠ [] ∧
      token = ⟨String.ofList (classAt c.rest),
        ⟨Text.byteLength before, Text.byteLength (before ++ classAt c.rest)⟩⟩ ∧
      c'.Passed source (before ++ classAt c.rest) := by
  obtain ⟨after, whole⟩ := starts c.rest
  obtain ⟨next, advanced, passed⟩ := h.advance whole.symm
  rw [Cursor.readClass?] at read
  simp only [advanced] at read
  split at read
  · cases read
  · next some_text =>
    cases read
    exact ⟨some_text, rfl, passed⟩

/-- A cursor that skips blanks has passed these too. -/
lemma skipBlanks (h : c.Passed source before) :
    c.skipBlanks.Passed source (before ++ Text.leadingBlanks c.rest) := by
  have starts (s : List Char) : Text.leadingBlanks s <+: s := List.takeWhile_prefix _
  unfold Cursor.skipBlanks
  cases read : c.readClass? Text.leadingBlanks with
  | some found => exact (h.readClass? starts read).2.2
  | none =>
    have nothing : Text.leadingBlanks c.rest = [] := by simpa [Cursor.readClass?] using read
    rw [nothing, List.append_nil]
    exact h

/-- The next token comes after blanks, and begins with no blank. -/
lemma next? (h : c.Passed source before) (next : c.next? symbols = some (token, c')) :
    ∃ text, (∃ first others, text = first :: others ∧ Text.isBlank first = false) ∧
      token = ⟨String.ofList text,
        ⟨Text.byteLength (before ++ Text.leadingBlanks c.rest),
          Text.byteLength (before ++ Text.leadingBlanks c.rest ++ text)⟩⟩ ∧
      c'.Passed source (before ++ Text.leadingBlanks c.rest ++ text) := by
  obtain ⟨some_text, same, passed⟩ :=
    h.skipBlanks.readClass? (lexemeAt_isPrefix symbols) next
  obtain ⟨first, others, starts⟩ := List.exists_cons_of_ne_nil some_text
  refine ⟨_, ⟨first, others, starts, ?_⟩, same, passed⟩
  -- the token begins as the rest does without its blanks
  obtain ⟨after, whole⟩ := lexemeAt_isPrefix symbols c.skipBlanks.rest
  rw [starts, rest_skipBlanks, List.cons_append] at whole
  have head := List.head?_dropWhile_not Text.isBlank c.rest
  have dropped : c.rest.dropWhile Text.isBlank = first :: (others ++ after) := whole.symm
  rw [dropped] at head
  exact head

end Passed

/-- Where there is no next token, only blanks are left. -/
lemma blanks_of_next? (h : c.next? symbols = none) : Blanks c.rest := by
  have nothing : c.skipBlanks.rest = [] := by
    by_contra some_rest
    simp [next?, readClass?, lexemeAt_ne_nil some_rest] at h
  rw [rest_skipBlanks] at nothing
  simpa [Blanks, Text.dropBlanks] using nothing

/-- The places at which a lexer looks for something. -/
inductive Reached (symbols : List (List Char)) (source : String) : Cursor → Prop where
  | start :
    Reached symbols source (ofSource source)
  | skipBlanks {c : Cursor} :
    Reached symbols source c →
    Reached symbols source c.skipBlanks
  | next? {c c' : Cursor} {token : Token} :
    Reached symbols source c →
    c.next? symbols = some (token, c') →
    Reached symbols source c'

/-- A cursor that is reached has passed a beginning of its source. -/
lemma Reached.exists_passed {source : String} (h : c.Reached symbols source) :
    ∃ before, c.Passed source.toList before := by
  induction h with
  | start => exact ⟨[], .ofSource source⟩
  | skipBlanks _ ih =>
    obtain ⟨before, passed⟩ := ih
    exact ⟨_, passed.skipBlanks⟩
  | next? _ next ih =>
    obtain ⟨before, passed⟩ := ih
    obtain ⟨text, -, -, later⟩ := passed.next? next
    exact ⟨_, later⟩

end Cursor

end Lexer

end Formula
