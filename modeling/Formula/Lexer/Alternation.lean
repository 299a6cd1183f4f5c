import Formula.Text.Bytes

/-!
# Alternatives

Finding one of several given texts at the beginning of a text. The longest comes first, lengths
counted in bytes, and of equally long ones the one listed first.
-/

namespace Formula.Lexer

/-- Puts an option in front of the first one that is not longer. -/
def insertOption (option : List Char) : List (List Char) → List (List Char)
  | [] => [option]
  | other :: rest =>
    if Text.byteLength other ≤ Text.byteLength option then option :: other :: rest
    else other :: insertOption option rest

/-- Orders options by descending length and keeps the order of equally long ones. -/
def longestFirst (options : List (List Char)) : List (List Char) :=
  options.foldr insertOption []

/-- The order in which options are tried. Where there is none, the empty text is the only one. -/
def alternatives (options : List (List Char)) : List (List Char) :=
  if options = [] then [[]] else longestFirst options

/-- The first alternative that a text begins with. -/
def optionAt? (options : List (List Char)) (s : List Char) : Option (List Char) :=
  (alternatives options).find? (·.isPrefixOf s)

/-- The first alternative that is the whole text. -/
def wholeOption? (options : List (List Char)) (s : List Char) : Option (List Char) :=
  (alternatives options).find? (· == s)

end Formula.Lexer
