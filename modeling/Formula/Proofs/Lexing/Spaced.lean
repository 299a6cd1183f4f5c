import Formula.Lexer.Tokens
import Mathlib.Data.List.TakeWhile
import Mathlib.Tactic.Lemma

/-!
# Spaced words

A text of words with blanks between them falls into these words, if each word is a lexeme wherever a blank
or the end of the text comes after it.
-/

namespace Formula.Lexer

/-- All characters are blanks. -/
def Blanks (gap : List Char) : Prop := ∀ c ∈ gap, Text.isBlank c = true

instance : DecidablePred Blanks := fun gap => List.decidableBAll _ gap

/-- A text goes on with a blank, if it goes on. -/
def Stops (rest : List Char) : Prop := ∀ c ∈ rest.head?, Text.isBlank c = true

/-- Words with blanks between them, and perhaps before and after them. -/
inductive Spaced : List String → List Char → Prop where
  | nil {gap} :
    Blanks gap →
    Spaced [] gap
  | cons {gap word words rest} :
    Blanks gap →
    Stops rest →
    Spaced words rest →
    Spaced (word :: words) (gap ++ (word.toList ++ rest))

/-- A blank after each word. -/
def joined : List String → List Char
  | [] => []
  | word :: words => word.toList ++ (' ' :: joined words)

/-- Blanks may come before spaced words. -/
lemma Spaced.indent {gap : List Char} {words : List String} {text : List Char} (blanks : Blanks gap)
    (h : Spaced words text) : Spaced words (gap ++ text) := by
  cases h with
  | nil others => exact .nil (List.forall_mem_append.mpr ⟨blanks, others⟩)
  | cons others stops rest =>
    rw [← List.append_assoc]
    exact .cons (List.forall_mem_append.mpr ⟨blanks, others⟩) stops rest

/-- Words that are joined by blanks are spaced. -/
lemma spaced_joined (words : List String) : Spaced words (joined words) := by
  induction words with
  | nil => exact .nil (List.forall_mem_nil _)
  | cons word words ih =>
    have none : Blanks [] := List.forall_mem_nil _
    have blank : Blanks [' '] := List.forall_mem_singleton.mpr (by decide)
    have stops : Stops (' ' :: joined words) := by
      rintro c ⟨⟩
      decide
    exact .cons none stops (ih.indent blank)

/-- A word begins with no blank, and it is a lexeme where nothing or a blank comes after it. -/
structure IsLexeme (symbols : List (List Char)) (word : String) : Prop where
  starts : ∃ c rest, word.toList = c :: rest ∧ Text.isBlank c = false
  alone : ∀ rest, Stops rest → lexemeAt symbols (word.toList ++ rest) = word.toList

/-- Blanks before a text are dropped with those it begins with. -/
lemma dropBlanks_append {gap : List Char} (h : Blanks gap) (rest : List Char) :
    Text.dropBlanks (gap ++ rest) = Text.dropBlanks rest :=
  List.dropWhile_append_of_pos h

variable {symbols : List (List Char)}

/-- Where no token is found, there are none. -/
lemma Cursor.tokens_of_none {c : Cursor} (h : c.next? symbols = none) : c.tokens symbols = [] := by
  rw [tokens]
  split
  · rfl
  · next found =>
    rw [h] at found
    cases found

/-- A token that is found comes before those behind it. -/
lemma Cursor.tokens_of_some {c c' : Cursor} {token : Token}
    (h : c.next? symbols = some (token, c')) : c.tokens symbols = token :: c'.tokens symbols := by
  rw [tokens]
  split
  · next found =>
    rw [h] at found
    cases found
  · next found =>
    rw [h] at found
    cases found
    rfl

/-- The tokens from a place on, if there are at most `amount`. -/
def Cursor.tokensWithin? (symbols : List (List Char)) : Nat → Cursor → Option (List Token)
  | 0, c => if c.next? symbols = none then some [] else none
  | amount + 1, c =>
    match c.next? symbols with
    | none => some []
    | some (token, c') => (tokensWithin? symbols amount c').map (token :: ·)

/-- Tokens that are found within some number of steps are all of them. -/
lemma Cursor.tokens_of_within (amount : Nat) {c : Cursor} {found : List Token}
    (h : tokensWithin? symbols amount c = some found) : c.tokens symbols = found := by
  induction amount generalizing c found with
  | zero =>
    rw [tokensWithin?] at h
    split at h
    · next ended =>
      cases h
      exact tokens_of_none ended
    · cases h
  | succ amount ih =>
    rw [tokensWithin?] at h
    split at h
    · next ended =>
      cases h
      exact tokens_of_none ended
    · next token c' next =>
      obtain ⟨others, within, rfl⟩ := Option.map_eq_some_iff.mp h
      rw [tokens_of_some next, ih within]

/-- Where only blanks are left, there is no token. -/
lemma Cursor.next?_of_blanks {c : Cursor} (h : Blanks c.rest) : c.next? symbols = none := by
  have nothing : c.skipBlanks.rest = [] := by
    rw [rest_skipBlanks, ← List.append_nil c.rest, dropBlanks_append h]
    rfl
  have none : lexemeAt symbols [] = [] := List.prefix_nil.mp (lexemeAt_isPrefix symbols [])
  rw [next?, readClass?, nothing, none]
  rfl

/-- A lexeme is the next token after blanks. -/
lemma Cursor.next?_of_lexeme {c : Cursor} {gap rest : List Char} {word : String}
    (whole : c.rest = gap ++ (word.toList ++ rest)) (blanks : Blanks gap) (stops : Stops rest)
    (lexeme : IsLexeme symbols word) :
    ∃ token c', c.next? symbols = some (token, c') ∧ token.text = word ∧ c'.rest = rest := by
  obtain ⟨first, others, starts, no_blank⟩ := lexeme.starts
  have skipped : c.skipBlanks.rest = word.toList ++ rest := by
    rw [rest_skipBlanks, whole, dropBlanks_append blanks, starts]
    simp [Text.dropBlanks, no_blank]
  have some_word : word.toList ≠ [] := by simp [starts]
  have next : c.next? symbols = some (c.skipBlanks.advance (Text.byteLength word.toList)) := by
    rw [next?, readClass?, skipped, lexeme.alone rest stops]
    simp only [some_word, ↓reduceIte]
  rw [advance_byteLength skipped] at next
  exact ⟨_, _, next, String.ofList_toList, rfl⟩

/-- Spaced words are the texts of the tokens. -/
lemma Cursor.tokens_of_spaced {words : List String} {text : List Char} (h : Spaced words text)
    (lexemes : ∀ word ∈ words, IsLexeme symbols word) {c : Cursor} (whole : c.rest = text) :
    (c.tokens symbols).map Token.text = words := by
  induction h generalizing c with
  | nil blanks =>
    subst whole
    rw [tokens_of_none (next?_of_blanks blanks)]
    rfl
  | @cons gap word words rest blanks stops spaced ih =>
    obtain ⟨token, c', next, same, left⟩ :=
      next?_of_lexeme whole blanks stops (lexemes word List.mem_cons_self)
    rw [tokens_of_some next, List.map_cons, same,
      ih (fun other member => lexemes other (List.mem_cons_of_mem _ member)) left]

end Formula.Lexer
