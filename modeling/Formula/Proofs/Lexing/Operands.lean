import Formula.Dialect
import Formula.Proofs.Lexing.Cutting

/-!
# Operands among lexemes

The classes of tokens agree with the operands that tokens stand for: what the lexer takes for a number is one
(`exists_literal`, `Literal.parse?_text`), a name with its colon is a variable, and a word is no number.
-/

namespace Formula.Lexer

/-- The number that a literal stands for: the nearest one to the decimal that its digits are. -/
def Literal.number (l : Literal) : Float :=
  Number.Decimal.toFloat ⟨false, Number.Numeral.value (l.whole ++ l.fraction), -l.fraction.length⟩

section Significand

variable {whole fraction rest : List Char}

/-- Digits before and after a point are read as such. -/
lemma significand_of_point (whole_digits : ∀ c ∈ whole, c.isDigit = true)
    (fraction_digits : ∀ c ∈ fraction, c.isDigit = true) (ends : ∀ c ∈ rest.head?, c.isDigit = false) :
    Number.Numeral.significand (whole ++ '.' :: (fraction ++ rest)) = (whole, fraction, rest) := by
  have point : ∀ c ∈ ('.' :: (fraction ++ rest)).head?, c.isDigit = false := by
    rintro c ⟨⟩
    rfl
  simp only [Number.Numeral.significand, Number.Numeral.digits, Number.Numeral.afterDigits,
    takeWhile_append_of_ends whole_digits point, dropWhile_append_of_ends whole_digits point,
    takeWhile_append_of_ends fraction_digits ends, dropWhile_append_of_ends fraction_digits ends]

/-- Digits without a point are read as such. -/
lemma significand_of_no_point (whole_digits : ∀ c ∈ whole, c.isDigit = true)
    (ends : ∀ c ∈ rest.head?, c.isDigit = false ∧ c ≠ '.') :
    Number.Numeral.significand (whole ++ rest) = (whole, [], rest) := by
  have no_digit : ∀ c ∈ rest.head?, c.isDigit = false := fun c next => (ends c next).1
  have after : Number.Numeral.afterDigits (whole ++ rest) = rest :=
    dropWhile_append_of_ends whole_digits no_digit
  rw [Number.Numeral.significand, after, Number.Numeral.digits,
    takeWhile_append_of_ends whole_digits no_digit]
  split
  · exact absurd rfl (ends '.' rfl).2
  · rfl

end Significand

section Literal

variable {rest : List Char} (l : Literal)

/-- What comes behind the whole part begins with no digit. -/
lemma Literal.ends_point (ends : ∀ c ∈ rest.head?, c.isDigit = false) :
    ∀ c ∈ ((if l.fraction = [] then [] else '.' :: l.fraction) ++ rest).head?, c.isDigit = false := by
  split
  · exact ends
  · rintro c ⟨⟩
    decide

/-- A text that begins with a literal begins with its whole part and goes on with its fraction. -/
lemma Literal.text_append (rest : List Char) :
    l.text.toList ++ rest = l.whole ++ ((if l.fraction = [] then [] else '.' :: l.fraction) ++ rest) := by
  rw [text, String.toList_ofList, List.append_assoc]

/-- The first digits of a literal are its whole part. -/
lemma Literal.digits_append (ends : ∀ c ∈ rest.head?, c.isDigit = false) :
    Number.Numeral.digits (l.text.toList ++ rest) = l.whole := by
  rw [l.text_append, Number.Numeral.digits,
    takeWhile_append_of_ends l.isDigit_whole (l.ends_point ends)]

/-- Behind the digits of a literal comes its fraction. -/
lemma Literal.afterDigits_append (ends : ∀ c ∈ rest.head?, c.isDigit = false) :
    Number.Numeral.afterDigits (l.text.toList ++ rest) =
      (if l.fraction = [] then [] else '.' :: l.fraction) ++ rest := by
  rw [l.text_append, Number.Numeral.afterDigits,
    dropWhile_append_of_ends l.isDigit_whole (l.ends_point ends)]

/-- A literal is digits and a fraction, where neither a digit nor a point comes after it. -/
lemma Literal.significand_append (ends : ∀ c ∈ rest.head?, c.isDigit = false ∧ c ≠ '.') :
    Number.Numeral.significand (l.text.toList ++ rest) = (l.whole, l.fraction, rest) := by
  rw [l.text_append]
  split
  · next no_point =>
    rw [List.nil_append, no_point]
    exact significand_of_no_point l.isDigit_whole ends
  · exact significand_of_point l.isDigit_whole l.isDigit_fraction fun c next => (ends c next).1

end Literal

/-- What begins with no sign is read without one. -/
lemma sign_of_ne {c : Char} (minus : c ≠ '-') (plus : c ≠ '+') (s : List Char) :
    Number.Numeral.sign (c :: s) = (false, c :: s) := by
  unfold Number.Numeral.sign
  split
  · next same =>
    cases same
    exact absurd rfl minus
  · next same =>
    cases same
    exact absurd rfl plus
  · rfl

/-- A literal is a number. -/
lemma Literal.parse?_text (l : Literal) : Number.parse? l.text = some l.number := by
  have unsigned : Number.Numeral.sign l.text.toList = (false, l.text.toList) := by
    obtain ⟨c, rest, starts, digit⟩ := l.starts
    rw [starts]
    apply sign_of_ne
    · rintro rfl
      exact absurd digit (by decide)
    · rintro rfl
      exact absurd digit (by decide)
  have significand : Number.Numeral.significand (l.text.toList ++ []) = (l.whole, l.fraction, []) :=
    l.significand_append nofun
  rw [List.append_nil] at significand
  have read : Number.Numeral.read? l.text.toList =
      some ⟨false, Number.Numeral.value (l.whole ++ l.fraction), -l.fraction.length⟩ := by
    simp [Number.Numeral.read?, unsigned, significand, l.whole_ne_nil, Number.Numeral.exponent?]
  rw [Number.parse?, read]
  rfl

/-- What is taken for a number is a literal. -/
lemma exists_literal {s : List Char} (h : literalAt s ≠ []) :
    ∃ l : Literal, l.text.toList = literalAt s := by
  rw [literalAt_eq] at h ⊢
  split at h
  · exact absurd rfl h
  · next some_digit =>
    rw [if_neg some_digit]
    obtain ⟨fraction, digits, same⟩ : ∃ fraction : List Char, (∀ c ∈ fraction, c.isDigit = true) ∧
        fractionAt (Number.Numeral.afterDigits s) = if fraction = [] then [] else '.' :: fraction := by
      unfold fractionAt
      split
      · next r _ => exact ⟨Number.Numeral.digits r, fun _ => List.mem_takeWhile_imp, rfl⟩
      · exact ⟨[], nofun, rfl⟩
    refine ⟨⟨Number.Numeral.digits s, fraction, some_digit, fun _ => List.mem_takeWhile_imp, digits⟩, ?_⟩
    rw [Literal.text, String.toList_ofList, same]

/-- A name with its colon is no number. -/
lemma Name.parse?_text (n : Name) : Number.parse? n.text = none := by
  rw [Number.parse?, text, String.toList_ofList]
  rfl

/-- A name with its colon is a variable. -/
lemma Name.standardOperand?_text (n : Name) : standardOperand? n.text = some (.variable n.text) := by
  rw [standardOperand?, text, String.toList_ofList]
  rfl

/-- A word is no number. -/
lemma parse?_of_isWord {word : String} (h : isWord word = true) : Number.parse? word = none := by
  obtain ⟨c, others, starts, word_char⟩ := exists_of_isWord h
  have no_digit : c.isDigit = false := by
    by_contra digit
    rw [isWordChar_of_isDigit (by simpa using digit)] at word_char
    cases word_char
  have significand : Number.Numeral.significand (c :: others) = ([], [], c :: others) := by
    have no_digits : Number.Numeral.digits (c :: others) = [] := by simp [Number.Numeral.digits, no_digit]
    have after : Number.Numeral.afterDigits (c :: others) = c :: others := by
      simp [Number.Numeral.afterDigits, no_digit]
    rw [Number.Numeral.significand, after, no_digits]
    split
    · next same =>
      cases same
      exact absurd word_char (by decide)
    · rfl
  have unsigned : Number.Numeral.sign (c :: others) = (false, c :: others) :=
    sign_of_ne (ne_of_isWordChar word_char (by decide)) (ne_of_isWordChar word_char (by decide)) others
  rw [Number.parse?, starts, Number.Numeral.read?, unsigned]
  simp [significand]

end Formula.Lexer
