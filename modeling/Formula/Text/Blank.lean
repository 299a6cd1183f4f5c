/-!
# Blanks

The characters that separate the words of a text: those with the Unicode property `White_Space`,
twenty-five in all.
-/

namespace Formula.Text

/-- Tells the characters with the Unicode property `White_Space`. -/
def isBlank (c : Char) : Bool :=
  let n := c.toNat
  (0x9 ≤ n && n ≤ 0xD) || n == 0x20 || n == 0x85 || n == 0xA0 || n == 0x1680 ||
    (0x2000 ≤ n && n ≤ 0x200A) || n == 0x2028 || n == 0x2029 || n == 0x202F || n == 0x205F ||
    n == 0x3000

/-- The blanks that a text begins with. -/
def leadingBlanks (s : List Char) : List Char := s.takeWhile isBlank

/-- What is left of a text after the blanks it begins with. -/
def dropBlanks (s : List Char) : List Char := s.dropWhile isBlank

/-- Removes the blanks at both ends of a text. -/
def trim (s : List Char) : List Char := (dropBlanks (dropBlanks s).reverse).reverse

/-- A text is the blanks that it begins with and the rest. -/
theorem leadingBlanks_append_dropBlanks (s : List Char) : leadingBlanks s ++ dropBlanks s = s :=
  List.takeWhile_append_dropWhile

end Formula.Text
