import Formula.Lexer.Class
import Formula.Span

/-!
# Cursors

A cursor is a place in a source text: the rest of the text and the byte offset where it starts. The
two change together, in `advance` alone, so the rest is always the source from that offset on.
-/

namespace Formula

/-- A piece of a source text with its place. -/
structure Token where
  text : String
  span : Span
deriving DecidableEq

namespace Lexer

/-- A place in a source text. -/
structure Cursor where
  rest : List Char
  position : Nat
deriving DecidableEq

namespace Cursor

def ofSource (source : String) : Cursor := ⟨source.toList, 0⟩

def isAtEnd (c : Cursor) : Bool := c.rest.isEmpty

def peek? (c : Cursor) : Option Char := c.rest.head?

/-- Passes over `amount` bytes, or over what is left if that is less, and returns them. -/
def advance (c : Cursor) (amount : Nat) : Token × Cursor :=
  let (text, rest) := Text.cut amount c.rest
  let stop := c.position + Text.byteLength text
  (⟨String.ofList text, ⟨c.position, stop⟩⟩, ⟨rest, stop⟩)

/-- Passes over a text if it comes next. -/
def readText? (c : Cursor) (text : List Char) : Option (Token × Cursor) :=
  if text.isPrefixOf c.rest then some (c.advance (Text.byteLength text)) else none

/-- Passes over what a token class matches here; an empty match counts as none. -/
def readClass? (c : Cursor) (classAt : List Char → List Char) : Option (Token × Cursor) :=
  let found := classAt c.rest
  if found = [] then none else some (c.advance (Text.byteLength found))

/-- Passes over the blanks that come next. -/
def skipBlanks (c : Cursor) : Cursor := ((c.readClass? Text.leadingBlanks).map (·.2)).getD c

/-- Passing over a beginning of the rest leaves what follows it. -/
theorem advance_byteLength {c : Cursor} {text after : List Char} (h : c.rest = text ++ after) :
    c.advance (Text.byteLength text) =
      (⟨String.ofList text, ⟨c.position, c.position + Text.byteLength text⟩⟩,
        ⟨after, c.position + Text.byteLength text⟩) := by
  simp [advance, h, Text.cut_byteLength]

/-- A match leaves less to read. -/
theorem readClass?_shorter {c c' : Cursor} {token : Token} {classAt : List Char → List Char}
    (starts : ∀ s, classAt s <+: s) (h : c.readClass? classAt = some (token, c')) :
    c'.rest.length < c.rest.length := by
  obtain ⟨after, whole⟩ := starts c.rest
  simp only [readClass?, advance_byteLength whole.symm] at h
  split at h
  · exact absurd h nofun
  · next taken =>
    cases h
    have counted := congrArg List.length whole
    rw [List.length_append] at counted
    have pos := List.length_pos_iff.mpr taken
    simp only
    omega

/-- Skipping blanks leaves the text without the blanks it begins with. -/
theorem rest_skipBlanks (c : Cursor) : c.skipBlanks.rest = Text.dropBlanks c.rest := by
  have whole := (Text.leadingBlanks_append_dropBlanks c.rest).symm
  simp only [skipBlanks, readClass?, advance_byteLength whole]
  split
  · next none =>
    rw [none, List.nil_append] at whole
    exact whole
  · rfl

end Cursor

end Lexer

end Formula
