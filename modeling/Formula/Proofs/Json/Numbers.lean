import Formula.Codec
import Formula.Proofs.Json.Grammar
import Formula.Proofs.Number.Printing

/-!
# JSON numbers

A number is read up to its end as the value that it stands for (`value?_of_stands`), and integers and finite
reals are written as numbers that can be told apart (`integer?_partsOf`, `exists_parts_real`).
-/

namespace Formula.Number.Numeral.Parts

variable {p : Parts} {v : Json}

/-- The JSON value that the reader makes of a number: digits alone are an integer if they can be one. -/
def json? (p : Parts) : Option Json :=
  if p.literal.fraction = [] ∧ p.power = none then Json.whole? p.negative (value p.literal.whole)
  else Json.real? p.decimal

/-- The float of a number is the one nearest to its decimal, if that is finite. -/
lemma parseFinite?_text (p : Parts) : parseFinite? p.text = p.decimal.toFinite? := by
  rw [parseFinite?, p.read?_text]
  rfl

/-- Where there is neither fraction nor exponent, the decimal is a whole number. -/
lemma decimal_eq_of_whole (whole : p.literal.fraction = [] ∧ p.power = none) :
    p.decimal = ⟨p.negative, value p.literal.whole, 0⟩ := by
  rw [decimal, whole.1, whole.2, List.append_nil]
  rfl

/-- The reader makes an integer of a number that is one. -/
lemma json?_of_integer {n : Int} (integer : p.integer? = some n) : p.json? = some (.integer n) := by
  rw [integer?, Option.ite_none_right_eq_some] at integer
  obtain ⟨⟨no_fraction, no_power, no_zero, least, below⟩, same⟩ := integer
  have fits : ¬((p.negative = true ∧ value p.literal.whole = 0) ∨ n < Json.leastInteger ∨
      Json.integerLimit ≤ n) := by
    rintro (⟨minus, zero⟩ | less | more)
    · exact no_zero ⟨minus, by rw [if_pos minus, zero]; rfl⟩
    · cases same
      exact absurd least (Int.not_le.mpr less)
    · cases same
      exact absurd below (Int.not_lt.mpr more)
  rw [json?, if_pos ⟨no_fraction, no_power⟩, Json.whole?]
  cases same
  exact if_neg fits

/-- The reader makes a real of a number that is no integer. -/
lemma json?_of_real (no_integer : p.integer? = none) : p.json? = Json.real? p.decimal := by
  rw [json?]
  split
  · next whole =>
    rw [integer?] at no_integer
    rw [decimal_eq_of_whole whole, Json.whole?]
    generalize value p.literal.whole = n at no_integer ⊢
    refine if_pos ?_
    by_contra fits
    refine Option.some_ne_none _ ((if_pos ⟨whole.1, whole.2, ?_⟩).symm.trans no_integer)
    cases minus : p.negative with
    | true =>
      simp only [minus, ↓reduceIte, true_and] at fits ⊢
      omega
    | false =>
      simp only [minus, Bool.false_eq_true, ↓reduceIte, false_and, false_or, not_false_eq_true, true_and] at fits ⊢
      omega
  · rfl

/-- The reader makes of a number the value that it stands for. -/
lemma Stands.json?_eq (stands : p.Stands parseFinite? v) : p.json? = some v := by
  cases stands with
  | integer integer => exact json?_of_integer integer
  | @real x no_integer read _ =>
    rw [parseFinite?_text] at read
    rw [json?_of_real no_integer, Json.real?, read]
    rfl

end Formula.Number.Numeral.Parts

namespace Formula.Json

open Number.Numeral

/-- What comes after a number without being a part of it. -/
def EndsNumber (rest : List Char) : Prop :=
  ∀ c ∈ rest.head?, c.isDigit = false ∧ c ≠ '.' ∧ c ≠ 'e' ∧ c ≠ 'E'

section Reading

variable {rest : List Char} (p : Parts)

/-- The exponent of a number is read up to its end, and so is none. -/
lemma exponent?_exponentText (ends : EndsNumber rest) :
    exponent? (p.exponentText ++ rest) = some (p.power, rest) := by
  unfold Parts.exponentText Parts.power
  cases p.exponent with
  | none =>
    cases rest with
    | nil => rfl
    | cons c rest =>
      obtain ⟨-, -, no_mark, no_capital⟩ := ends c rfl
      simp [exponent?, no_mark, no_capital]
  | some e =>
    have no_digit : ∀ c ∈ rest.head?, c.isDigit = false := fun c next => (ends c next).1
    simp only [Option.elim_some, Exponent.text, List.cons_append, List.append_assoc, exponent?, e.isMark,
      e.sign_append, e.digits_append no_digit, e.afterDigits_append no_digit, e.digits_ne_nil, ↓reduceIte,
      decide_eq_true_eq]
    rfl

/-- A literal has ended where its exponent or the end of the number comes. -/
lemma ends_exponentText_append (ends : EndsNumber rest) :
    ∀ c ∈ (p.exponentText ++ rest).head?, c.isDigit = false ∧ c ≠ '.' := by
  intro c next
  cases none_or_more : p.exponentText with
  | nil =>
    rw [none_or_more] at next
    obtain ⟨no_digit, no_point, -⟩ := ends c next
    exact ⟨no_digit, no_point⟩
  | cons d others =>
    rw [none_or_more] at next
    exact p.ends_exponentText c (by rw [none_or_more]; exact next)

/-- A point and digits are read as a fraction, and nothing is read as none. -/
lemma fraction?_append {fraction : List Char} (digits : ∀ c ∈ fraction, c.isDigit = true)
    (ends : ∀ c ∈ rest.head?, c.isDigit = false ∧ c ≠ '.') :
    fraction? ((if fraction = [] then [] else '.' :: fraction) ++ rest) = some (fraction, rest) := by
  split
  · next no_point =>
    rw [no_point, List.nil_append]
    unfold fraction?
    split
    · exact absurd rfl (ends '.' rfl).2
    · rfl
  · next point =>
    have no_digit : ∀ c ∈ rest.head?, c.isDigit = false := fun c next => (ends c next).1
    simp only [List.cons_append, fraction?, Number.Numeral.digits, afterDigits,
      Lexer.takeWhile_append_of_ends digits no_digit, Lexer.dropWhile_append_of_ends digits no_digit,
      point, ↓reduceIte]

/-- Reads a number whose sign has been read. -/
def unsigned? (negative : Bool) (s : List Char) : Option (Json × List Char) := do
  let whole := digits s
  if whole = [] ∨ (whole.head? = some '0' ∧ 1 < whole.length) then none
  else
    let (fraction, r) ← fraction? (afterDigits s)
    let (power, r) ← exponent? r
    let number ←
      if fraction = [] ∧ power = none then whole? negative (value whole)
      else real? ⟨negative, value (whole ++ fraction), power.getD 0 - fraction.length⟩
    some (number, r)

/-- After a minus comes the number without its sign. -/
lemma number?_minus (s : List Char) : number? ('-' :: s) = unsigned? true s := rfl

/-- What begins with no minus is a number without a sign. -/
lemma number?_of_ne {c : Char} (no_minus : c ≠ '-') (s : List Char) :
    number? (c :: s) = unsigned? false (c :: s) := by
  unfold number?
  split
  · next negative r same =>
    split at same
    · next minus =>
      cases minus
      exact absurd rfl no_minus
    · cases same
      rfl

/-- A number whose sign has been read is read up to its end. -/
lemma unsigned?_append (ends : EndsNumber rest) :
    unsigned? p.negative (p.unsigned ++ rest) = p.json?.map (·, rest) := by
  have ends_literal := ends_exponentText_append p ends
  have no_digit : ∀ c ∈ (p.exponentText ++ rest).head?, c.isDigit = false :=
    fun c next => (ends_literal c next).1
  have allowed : ¬(p.literal.whole = [] ∨ p.literal.whole.head? = some '0' ∧ 1 < p.literal.whole.length) := by
    rintro (nothing | ⟨zero, more⟩)
    · exact p.literal.whole_ne_nil nothing
    · rw [p.noLeadingZero zero] at more
      exact absurd more (by decide)
  simp only [unsigned?, Parts.unsigned, List.append_assoc, p.literal.digits_append no_digit, if_neg allowed,
    p.literal.afterDigits_append no_digit, fraction?_append p.literal.isDigit_fraction ends_literal,
    exponent?_exponentText p ends, Option.bind_eq_bind, Option.bind_some, Parts.json?, Parts.decimal]
  split <;> exact Option.map_eq_bind.symm

/-- A number is read up to its end. -/
lemma number?_text (ends : EndsNumber rest) : number? (p.text ++ rest) = p.json?.map (·, rest) := by
  rw [← unsigned?_append p ends, Parts.text]
  split
  · next minus => rw [minus, List.cons_append, number?_minus]
  · next plus =>
    obtain ⟨c, others, starts, digit⟩ := p.exists_digit
    rw [Bool.eq_false_iff.mpr plus, starts, List.cons_append, number?_of_ne]
    rintro rfl
    exact absurd digit (by decide)

/-- A number begins with a minus or a digit. -/
lemma exists_first (p : Parts) : ∃ c rest, p.text = c :: rest ∧ (c = '-' ∨ c.isDigit = true) := by
  obtain ⟨c, rest, starts, digit⟩ := p.exists_digit
  unfold Parts.text
  split
  · exact ⟨'-', _, rfl, .inl rfl⟩
  · exact ⟨c, rest, starts, .inr digit⟩

/-- What a number begins with is no blank. -/
lemma isSpace_of_number {c : Char} (number : c = '-' ∨ c.isDigit = true) : isSpace c = false := by
  rcases number with rfl | digit
  · rfl
  · have range := Lexer.toNat_of_isDigit digit
    simp only [isSpace, Bool.or_eq_false_iff, beq_eq_false_iff_ne]
    refine ⟨⟨⟨?_, ?_⟩, ?_⟩, ?_⟩ <;> rintro rfl <;> exact absurd digit (by decide)

/-- A value that begins like a number is one. -/
lemma value?_of_number {c : Char} (number : c = '-' ∨ c.isDigit = true) (d : Nat) (s : List Char) :
    value? d (c :: s) = number? (c :: s) := by
  have other {d : Char} (no_number : ¬(d = '-' ∨ d.isDigit = true)) {r : List Char} : c :: s ≠ d :: r := by
    intro same
    cases same
    exact no_number number
  rw [value?]
  · exact fun _ => other (by decide)
  · exact fun _ => other (by decide)
  · exact fun _ => other (by decide)
  · exact fun _ => other (by decide)
  · exact fun _ _ _ => other (by decide)
  · exact fun _ _ _ => other (by decide)

/-- A number is read up to its end as the value that it stands for. -/
lemma value?_of_stands {p : Parts} {v : Json} (stands : p.Stands Number.parseFinite? v) (d : Nat)
    {rest : List Char} (ends : EndsNumber rest) : value? d (p.text ++ rest) = some (v, rest) := by
  obtain ⟨c, tail, starts, number⟩ := exists_first p
  have read_text := number?_text p ends
  rw [starts, List.cons_append] at read_text ⊢
  rw [value?_of_number number, read_text, stands.json?_eq]
  rfl

end Reading

section Writing

/-- The number that an integer is written as: digits alone, with a minus if it is negative. -/
def partsOf (n : Int) : Parts where
  negative := decide (n < 0)
  literal := .ofDigits (Nat.toDigits 10 n.natAbs) Nat.toDigits_ne_nil fun _ => Number.isDigit_toDigits
  exponent := none
  noLeadingZero := Number.length_of_head?_toDigits

/-- An integer is written as digits alone. -/
lemma writeInteger_eq (n : Int) : writeInteger n = (partsOf n).text := by
  simp [partsOf, writeInteger, Parts.text, Parts.unsigned, Parts.exponentText]

/-- An integer is the integer that is written for it. -/
lemma integer?_partsOf {n : Int} (least : leastInteger ≤ n) (below : n < integerLimit) :
    (partsOf n).integer? = some n := by
  have value : (if decide (n < 0) = true then -(n.natAbs : Int) else n.natAbs) = n := by
    simp only [decide_eq_true_eq]
    split <;> omega
  have digits : Number.Numeral.value (partsOf n).literal.whole = n.natAbs := Number.value_toDigits _
  have sign : (partsOf n).negative = decide (n < 0) := rfl
  rw [Parts.integer?, digits, sign, value]
  refine if_pos ⟨rfl, rfl, ?_, least, below⟩
  rw [decide_eq_true_eq]
  omega

/-- A finite real is written with a fraction or an exponent, and its text is read back as it. -/
lemma exists_parts_real {x : Float} (finite : Number.IsFinite x) :
    ∃ p : Parts, p.integer? = none ∧ writeReal x = p.text ∧ Number.parseFinite? p.text = some x := by
  obtain ⟨p, text, value, no_integer, -⟩ := Number.Format.json.exists_parts finite
  obtain ⟨negative, units, view⟩ := finite
  refine ⟨p, if_neg fun integer => no_integer rfl ⟨integer.1, integer.2.1⟩, text, ?_⟩
  rw [p.parseFinite?_text, Number.Decimal.toFinite?, value]
  simp only [view]

end Writing

end Formula.Json
