import Formula.Number.Numeral
import Formula.Text.Blank

/-!
# Token classes

Each class of tokens is given by the longest beginning of a text that belongs to it, where the empty
text stands for no match. All classes but blanks are made of ASCII characters.
-/

namespace Formula.Lexer

/-- Tells the characters of words: ASCII letters and the underscore. -/
def isWordChar (c : Char) : Bool := c.isAlpha || c == '_'

/-- Tells the characters that a variable name goes on with. -/
def isNameChar (c : Char) : Bool := isWordChar c || c.isDigit

/-- A variable: a colon, a word character, and characters of a name. -/
def variableAt : List Char → List Char
  | ':' :: c :: s => if isWordChar c then ':' :: c :: s.takeWhile isNameChar else []
  | _ => []

def wordAt (s : List Char) : List Char := s.takeWhile isWordChar

/-- A number without sign and exponent; a point belongs to it only if a digit follows. -/
def literalAt (s : List Char) : List Char :=
  let whole := Number.Numeral.digits s
  if whole = [] then []
  else
    match Number.Numeral.afterDigits s with
    | '.' :: r =>
      let fraction := Number.Numeral.digits r
      if fraction = [] then whole else whole ++ '.' :: fraction
    | _ => whole

/-- The whole of a text that is a numeral. -/
def numeralAt (s : List Char) : List Char := if (Number.Numeral.read? s).isSome then s else []

/-- Tells whether a text is one word from end to end. -/
def isWord (text : String) : Bool := !text.toList.isEmpty && text.toList.all isWordChar

/-- The whole of a text that is one word. -/
def wholeWordAt (s : List Char) : List Char := if s.all isWordChar then s else []

/-- A variable is read from the beginning of a text. -/
theorem variableAt_isPrefix (s : List Char) : variableAt s <+: s := by
  unfold variableAt
  split
  · split
    · exact (List.prefix_cons_inj _).mpr ((List.prefix_cons_inj _).mpr (List.takeWhile_prefix _))
    · exact List.nil_prefix
  · exact List.nil_prefix

/-- A word is read from the beginning of a text. -/
theorem wordAt_isPrefix (s : List Char) : wordAt s <+: s := List.takeWhile_prefix _

/-- A literal is read from the beginning of a text. -/
theorem literalAt_isPrefix (s : List Char) : literalAt s <+: s := by
  have digits : Number.Numeral.digits s <+: s := List.takeWhile_prefix _
  simp only [literalAt]
  split
  · exact List.nil_prefix
  · split
    · next r point =>
      split
      · exact digits
      · have whole : Number.Numeral.digits s ++ Number.Numeral.afterDigits s = s :=
          List.takeWhile_append_dropWhile
        rw [point] at whole
        conv => rhs; rw [← whole]
        exact (List.prefix_append_right_inj _).mpr
          ((List.prefix_cons_inj _).mpr (List.takeWhile_prefix _))
    · exact digits

end Formula.Lexer
