import Formula.Text.Bytes

/-!
# Spans

A span is the part of a source text from one byte offset up to, but not including, another.
-/

namespace Formula

/-- The bytes from `start` up to `stop` of a source text. -/
structure Span where
  start : Nat
  stop : Nat
deriving DecidableEq, Inhabited

namespace Span

/-- The span of `length` bytes from `start` on. -/
def ofLength (start length : Nat) : Span := ⟨start, start + length⟩

/-- The number of bytes of a span, none if it ends before it starts. -/
def length (s : Span) : Nat := s.stop - s.start

def isEmpty (s : Span) : Bool := s.length == 0

/-- The text under a span, if it starts and ends at characters of the source. -/
def slice? (s : Span) (source : List Char) : Option (List Char) :=
  if s.start ≤ s.stop then do
    let (_, rest) ← Text.cut? s.start source
    let (text, _) ← Text.cut? s.length rest
    some text
  else
    none

/-- Shows a span as its two offsets. -/
def render (s : Span) : String := s!"{s.start}-{s.stop}"

end Span

end Formula
