import Formula.Proofs.Yard.Group

/-!
# Separated tokens

A separator after tokens that are read without an error lets pass what the end would let pass, and the yard
goes on from there as an empty one would, with all of it behind (`parse_separator`).
-/

namespace Formula

section Separation

variable {d : Dialect} {tokens rest : List Token} {rpn : List Part} {y y' : Yard}

namespace Yard

/-- Tokens after others are parsed by the yard that these have left. -/
lemma parse_append (h : y.shuntAll d tokens = (y', none)) :
    y.parse d (tokens ++ rest) = y'.parse d rest := by
  rw [parse, parse, shuntAll_append h]

/-- A separator leaves nothing waiting where no parenthesis is open, whatever was expected. -/
lemma shunt_separator (separates : d.operand? "," = none) (span : Span) (output : List Part)
    (waiting : List Operator) (expected : Bool) :
    Yard.shunt d ⟨output, waiting.map .operator, expected, 0⟩ ⟨",", span⟩ =
      (Yard.empty.behind (output ++ waiting.map .operator), none) := by
  have flushed := split_operators [] trivial waiting
  rw [List.append_nil] at flushed
  rw [shunt_of_move (Dialect.move_separator separates span expected)]
  simp only [make, releaseAll, release, flushed, behind, empty, List.append_nil]

/-- After tokens that fill a group and a separator, the other tokens are parsed as by themselves. -/
lemma parse_separator (h : Fills d tokens rpn) (separates : d.operand? "," = none) (span : Span) :
    Yard.empty.parse d (tokens ++ ⟨",", span⟩ :: rest) = (Yard.empty.behind rpn).parse d rest := by
  obtain ⟨passed, waiting, expected, rfl, run⟩ := h .empty rfl trivial
  have waits : Yard.empty.shuntAll d tokens = (⟨passed, waiting.map .operator, expected, 0⟩, none) := by
    simpa only [empty, List.nil_append, List.append_nil] using run
  have divided := shunt_separator separates span passed waiting expected
  rw [parse_append waits, parse, shuntAll_cons divided, parse]

/-- Parts that have passed before are yielded before. -/
lemma yielded_behind (parts : List Part) (y : Yard) (error : Option ParseError) :
    yielded (y.behind parts, error) = parts.map .ok ++ yielded (y, error) := by
  simp only [yielded, behind, List.map_append, List.append_assoc]

end Yard

end Separation

namespace Dialect

/-- Before a separator and after it, tokens are read as by themselves, where those before it have no error. -/
theorem read_separated (d : Dialect) (separates : d.operand? "," = none) (first second : List Token)
    (accepted : d.Accepts first) (span : Span) :
    d.read (first ++ ⟨",", span⟩ :: second) = (d.parts first).map .ok ++ d.read second := by
  have fills := fills_of_read accepted.read
  calc d.read (first ++ ⟨",", span⟩ :: second)
      = Yard.yielded (Yard.empty.parse d (first ++ ⟨",", span⟩ :: second)) := d.read_eq_yielded _
    _ = Yard.yielded ((Yard.empty.behind (d.parts first)).parse d second) := by
        rw [Yard.parse_separator fills separates]
    _ = (d.parts first).map .ok ++ Yard.yielded (Yard.empty.parse d second) := by
        rw [Yard.parse_behind, Yard.yielded_behind]
    _ = (d.parts first).map .ok ++ d.read second := by rw [read_eq_yielded]

/-- A negation waits for the separator in `- :a , :b * )`, and the error that follows keeps its place. -/
theorem read_separated_negative :
    let first : List Token := [⟨"-", ⟨0, 1⟩⟩, ⟨":a", ⟨2, 4⟩⟩]
    let second : List Token := [⟨":b", ⟨7, 9⟩⟩, ⟨"*", ⟨10, 11⟩⟩, ⟨")", ⟨12, 13⟩⟩]
    Dialect.math.operand? "," = none ∧ Dialect.math.Accepts first ∧
      Dialect.math.read (first ++ ⟨",", ⟨5, 6⟩⟩ :: second) =
        [.ok (.operand (.variable ":a")), .ok (.operator Library.negation),
          .ok (.operand (.variable ":b")), .ok (.operator Library.multiplication),
          .error (.mismatchedParentheses ⟨12, 13⟩)] := by
  intro first second
  have alone : Dialect.math.read first =
      [.operand (.variable ":a"), .operator Library.negation].map .ok := by
    rw [read_eq_yielded]
    rfl
  have accepted := accepts_of_read alone
  refine ⟨rfl, accepted, ?_⟩
  rw [read_separated .math rfl first second accepted ⟨5, 6⟩, parts, alone, read_eq_yielded]
  rfl

end Dialect

end Formula
