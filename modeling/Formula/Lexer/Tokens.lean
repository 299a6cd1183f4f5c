import Formula.Lexer.Alternation
import Formula.Lexer.Cursor

/-!
# Tokens

How a source text falls into tokens. After blanks comes a variable, else a word, else a number, else
the longest of the given symbols, else a single character: the first of these classes that matches
decides. `next?_shorter` says that every token takes something, so that the text runs out.
-/

namespace Formula.Lexer

/-- The longest of the symbols that a text begins with; an empty symbol never matches. -/
def symbolAt (symbols : List (List Char)) (s : List Char) : List Char :=
  match symbols.filter (· ≠ []) with
  | [] => []
  | symbols => (optionAt? symbols s).getD []

/-- The classes of texts that are looked for at a place. -/
inductive Class where
  | blanks
  | name
  | word
  | literal
  | numeral
  | wholeWord
  | symbol (symbols : List (List Char))
  | character
deriving DecidableEq

/-- What a class matches at the beginning of a text. -/
def Class.matchAt : Class → List Char → List Char
  | .blanks => Text.leadingBlanks
  | .name => variableAt
  | .word => wordAt
  | .literal => literalAt
  | .numeral => numeralAt
  | .wholeWord => wholeWordAt
  | .symbol symbols => symbolAt symbols
  | .character => (·.take 1)

/-- The classes of tokens, in the order of precedence. -/
def Class.ofTokens (symbols : List (List Char)) : List Class :=
  [.name, .word, .literal, .symbol symbols, .character]

/-- The matches of the token classes at the beginning of a text, in the order of precedence. -/
def candidates (symbols : List (List Char)) (s : List Char) : List (List Char) :=
  (Class.ofTokens symbols).map (·.matchAt s)

/-- The text of the token that a text begins with, which is empty only if the text is. -/
def lexemeAt (symbols : List (List Char)) (s : List Char) : List Char :=
  ((candidates symbols s).find? (· ≠ [])).getD []

/-- The next token and the place after it. -/
def Cursor.next? (symbols : List (List Char)) (c : Cursor) : Option (Token × Cursor) :=
  c.skipBlanks.readClass? (lexemeAt symbols)

/-- An option that is found is the beginning of the text. -/
theorem optionAt?_isPrefix {options : List (List Char)} {s option : List Char}
    (h : optionAt? options s = some option) : option <+: s := by
  rw [optionAt?] at h
  have fits := List.find?_some h
  exact List.isPrefixOf_iff_prefix.mp fits

/-- A symbol is read from the beginning of a text. -/
theorem symbolAt_isPrefix (symbols : List (List Char)) (s : List Char) :
    symbolAt symbols s <+: s := by
  unfold symbolAt
  split
  · exact List.nil_prefix
  · cases found : optionAt? (symbols.filter (· ≠ [])) s with
    | none => exact List.nil_prefix
    | some option => exact optionAt?_isPrefix found

/-- Every class matches at the beginning of a text only. -/
theorem Class.matchAt_isPrefix (sought : Class) (s : List Char) : sought.matchAt s <+: s := by
  -- a class of whole texts matches all of a text or nothing
  have all_or_nothing (p : Prop) [Decidable p] : (if p then s else []) <+: s := by
    split
    · exact List.prefix_rfl
    · exact List.nil_prefix
  cases sought with
  | blanks => exact List.takeWhile_prefix _
  | name => exact variableAt_isPrefix s
  | word => exact wordAt_isPrefix s
  | literal => exact literalAt_isPrefix s
  | numeral => exact all_or_nothing _
  | wholeWord => exact all_or_nothing _
  | symbol symbols => exact symbolAt_isPrefix symbols s
  | character => exact List.take_prefix 1 s

/-- Every match is a beginning of the text. -/
theorem isPrefix_of_mem_candidates {symbols : List (List Char)} {s found : List Char}
    (h : found ∈ candidates symbols s) : found <+: s := by
  obtain ⟨sought, -, rfl⟩ := List.mem_map.mp h
  exact sought.matchAt_isPrefix s

/-- A lexeme is read from the beginning of a text. -/
theorem lexemeAt_isPrefix (symbols : List (List Char)) (s : List Char) :
    lexemeAt symbols s <+: s := by
  unfold lexemeAt
  cases found : (candidates symbols s).find? (· ≠ []) with
  | none => exact List.nil_prefix
  | some text => exact isPrefix_of_mem_candidates (List.mem_of_find?_eq_some found)

/-- A token that is found leaves less to read. -/
theorem Cursor.next?_shorter {symbols : List (List Char)} {c c' : Cursor} {token : Token}
    (h : c.next? symbols = some (token, c')) : c'.rest.length < c.rest.length := by
  have shorter := readClass?_shorter (lexemeAt_isPrefix symbols) h
  rw [rest_skipBlanks] at shorter
  exact Nat.lt_of_lt_of_le shorter (List.dropWhile_suffix _).length_le

/-- The tokens from a place on. -/
def Cursor.tokens (symbols : List (List Char)) (c : Cursor) : List Token :=
  match _h : c.next? symbols with
  | none => []
  | some (token, c') => token :: c'.tokens symbols
termination_by c.rest.length
decreasing_by exact Cursor.next?_shorter _h

/-- The tokens of a source text, where the symbols are recognized beside the other classes. -/
def tokens (symbols : List String) (source : String) : List Token :=
  (Cursor.ofSource source).tokens (symbols.map String.toList)

end Formula.Lexer
