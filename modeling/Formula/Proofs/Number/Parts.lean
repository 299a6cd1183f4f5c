import Formula.Proofs.Lexing.Operands

/-!
# The parts of a numeral

A JSON number is an optional minus, a literal, and an optional exponent. Such a text is a numeral
(`Parts.read?_text`), and the decimal that it is can be told from its parts.
-/

namespace Formula.Number.Numeral

/-- Writes a sign, if there is one; its value tells whether it is a minus. -/
def signText : Option Bool → List Char
  | none => []
  | some true => ['-']
  | some false => ['+']

/-- The sign that a text begins with. -/
lemma exists_sign (s : List Char) :
    ∃ minus : Option Bool, (sign s).1 = decide (minus = some true) ∧ s = signText minus ++ (sign s).2 := by
  unfold sign
  split
  · exact ⟨some true, rfl, rfl⟩
  · exact ⟨some false, rfl, rfl⟩
  · exact ⟨none, rfl, rfl⟩

/-- An exponent: a mark, an optional sign, and digits. -/
structure Exponent where
  mark : Char
  /-- Whether the sign is a minus, if there is a sign. -/
  minus : Option Bool
  digits : List Char
  isMark : mark = 'e' ∨ mark = 'E'
  digits_ne_nil : digits ≠ []
  isDigit_digits : ∀ c ∈ digits, c.isDigit = true

namespace Exponent

variable (e : Exponent) {rest : List Char}

def text : List Char := e.mark :: (signText e.minus ++ e.digits)

/-- The power of ten that an exponent stands for. -/
def power : Int := if e.minus = some true then -(value e.digits : Int) else value e.digits

/-- The sign of an exponent is read whatever follows its digits. -/
lemma sign_append (rest : List Char) :
    sign (signText e.minus ++ (e.digits ++ rest)) =
      (decide (e.minus = some true), e.digits ++ rest) := by
  cases e.minus with
  | none =>
    obtain ⟨c, others, starts⟩ := List.exists_cons_of_ne_nil e.digits_ne_nil
    have digit := e.isDigit_digits c (by simp [starts])
    rw [starts]
    refine Lexer.sign_of_ne ?_ ?_ _ <;> rintro rfl <;> exact absurd digit (by decide)
  | some minus => cases minus <;> rfl

/-- The digits of an exponent are read where no other digit follows them. -/
lemma digits_append (ends : ∀ c ∈ rest.head?, c.isDigit = false) :
    Numeral.digits (e.digits ++ rest) = e.digits :=
  Lexer.takeWhile_append_of_ends e.isDigit_digits ends

/-- Behind the digits of an exponent comes what follows it. -/
lemma afterDigits_append (ends : ∀ c ∈ rest.head?, c.isDigit = false) :
    afterDigits (e.digits ++ rest) = rest :=
  Lexer.dropWhile_append_of_ends e.isDigit_digits ends

/-- An exponent is read as its power of ten. -/
lemma exponent?_text : exponent? e.text = some e.power := by
  have sign := e.sign_append []
  have after : afterDigits (e.digits ++ []) = [] := e.afterDigits_append nofun
  rw [List.append_nil] at sign after
  simp only [text, exponent?, sign, after]
  rw [if_pos ⟨e.isMark, e.digits_ne_nil, trivial⟩]
  simp only [decide_eq_true_eq]
  rfl

/-- The mark of an exponent is neither digit nor point. -/
lemma ends_text : ∀ c ∈ e.text.head?, c.isDigit = false ∧ c ≠ '.' := by
  rintro c ⟨⟩
  rcases e.isMark with mark | mark <;> rw [mark] <;> decide

end Exponent

/-- The parts of a number of JSON. -/
structure Parts where
  negative : Bool
  literal : Lexer.Literal
  exponent : Option Exponent
  /-- A zero in front stands alone. -/
  noLeadingZero : literal.whole.head? = some '0' → literal.whole.length = 1

namespace Parts

variable (p : Parts)

def exponentText : List Char := p.exponent.elim [] Exponent.text

/-- A number without its sign. -/
def unsigned : List Char := p.literal.text.toList ++ p.exponentText

def text : List Char := if p.negative then '-' :: p.unsigned else p.unsigned

/-- The power of ten that is written after a number. -/
def power : Option Int := p.exponent.map Exponent.power

/-- The decimal that a number is. -/
def decimal : Decimal where
  negative := p.negative
  digits := value (p.literal.whole ++ p.literal.fraction)
  exponent := p.power.getD 0 - p.literal.fraction.length

/-- A number without its sign begins with a digit. -/
lemma exists_digit : ∃ c rest, p.unsigned = c :: rest ∧ c.isDigit = true := by
  obtain ⟨c, rest, starts, digit⟩ := p.literal.starts
  exact ⟨c, rest ++ p.exponentText, by rw [unsigned, starts]; rfl, digit⟩

/-- Where an exponent or the end of the text comes, a literal has ended. -/
lemma ends_exponentText : ∀ c ∈ p.exponentText.head?, c.isDigit = false ∧ c ≠ '.' := by
  unfold exponentText
  cases p.exponent with
  | none => exact nofun
  | some e => exact e.ends_text

/-- The power of ten that is read after a literal is the one that is written, or zero. -/
lemma exponent?_exponentText : exponent? p.exponentText = some (p.power.getD 0) := by
  unfold exponentText power
  cases p.exponent with
  | none => rfl
  | some e => exact e.exponent?_text

/-- A number of JSON is a numeral. -/
lemma read?_text : read? p.text = some p.decimal := by
  have sign : sign p.text = (p.negative, p.unsigned) := by
    unfold text
    split
    · next minus => rw [minus]; rfl
    · next plus =>
      obtain ⟨c, rest, starts, digit⟩ := p.exists_digit
      rw [Bool.eq_false_iff.mpr plus, starts]
      refine Lexer.sign_of_ne ?_ ?_ _ <;> rintro rfl <;> exact absurd digit (by decide)
  have significand := p.literal.significand_append p.ends_exponentText
  simp only [read?, sign, unsigned, significand, p.literal.whole_ne_nil, p.exponent?_exponentText]
  rfl

end Parts

end Formula.Number.Numeral
