import Formula.Proofs.Lexing.Regular
import Formula.Proofs.Number.Parts

/-!
# Numerals as a language

The texts that are numerals from end to end are a regular language (`isSome_parse?_iff`): an optional sign,
digits with an optional point and optional digits after it, or a point and digits, and an optional exponent.
-/

open scoped Computability

namespace Formula.Lexer.Regular

open Number.Numeral

def optionalSign : Language Char := 1 + {['+']} + {['-']}

/-- Digits, perhaps with a point and perhaps digits after it; or a point and digits. -/
def significands : Language Char :=
  digit * digit∗ * (1 + {['.']} * digit∗) + {['.']} * (digit * digit∗)

/-- Nothing, or a mark, an optional sign, and digits. -/
def exponents : Language Char := 1 + ({['e']} + {['E']}) * optionalSign * (digit * digit∗)

def numerals : Language Char := optionalSign * significands * exponents

variable {s t r : List Char}

/-- The language of optional signs is that of their texts. -/
lemma mem_optionalSign : s ∈ optionalSign ↔ ∃ minus, s = signText minus := by
  constructor
  · rintro ((rfl | rfl) | rfl)
    · exact ⟨none, rfl⟩
    · exact ⟨some false, rfl⟩
    · exact ⟨some true, rfl⟩
  · rintro ⟨_ | _ | _, rfl⟩
    · exact .inl (.inl rfl)
    · exact .inl (.inr rfl)
    · exact .inr rfl

/-- A significand has digits on one side of its point at least, or else it has digits and no point. -/
lemma mem_significands : s ∈ significands ↔ ∃ whole fraction : List Char,
    (∀ c ∈ whole, c.isDigit = true) ∧ (∀ c ∈ fraction, c.isDigit = true) ∧
      ¬(whole = [] ∧ fraction = []) ∧
      (s = whole ++ '.' :: fraction ∨ fraction = [] ∧ s = whole) := by
  constructor
  · rintro (⟨whole, digits, tail, point, rfl⟩ | ⟨_, rfl, fraction, digits, rfl⟩)
    · obtain ⟨some_digit, digits⟩ := consists_digit.mem_plus.mp digits
      rcases point with rfl | ⟨_, rfl, fraction, more, rfl⟩
      · exact ⟨whole, [], digits, nofun, fun h => some_digit h.1, .inr ⟨rfl, List.append_nil whole⟩⟩
      · exact ⟨whole, fraction, digits, consists_digit.mem_kstar.mp more, fun h => some_digit h.1, .inl rfl⟩
    · obtain ⟨some_digit, digits⟩ := consists_digit.mem_plus.mp digits
      exact ⟨[], fraction, nofun, digits, fun h => some_digit h.2, .inl rfl⟩
  · rintro ⟨whole, fraction, whole_digits, fraction_digits, some_digit, rfl | ⟨rfl, rfl⟩⟩
    · by_cases none : whole = []
      · subst none
        have plus := consists_digit.mem_plus.mpr ⟨fun h => some_digit ⟨rfl, h⟩, fraction_digits⟩
        exact .inr ⟨['.'], rfl, fraction, plus, rfl⟩
      · exact .inl ⟨whole, consists_digit.mem_plus.mpr ⟨none, whole_digits⟩, '.' :: fraction,
          .inr ⟨['.'], rfl, fraction, consists_digit.mem_kstar.mpr fraction_digits, rfl⟩, rfl⟩
    · exact .inl ⟨s, consists_digit.mem_plus.mpr ⟨fun h => some_digit ⟨h, rfl⟩, whole_digits⟩, [], .inl rfl,
        List.append_nil s⟩

/-- The language of exponents is that of their texts, and nothing. -/
lemma mem_exponents : s ∈ exponents ↔ s = [] ∨ ∃ e : Exponent, s = e.text := by
  constructor
  · rintro (rfl | ⟨_, ⟨_, mark, _, sign, rfl⟩, digits, all, rfl⟩)
    · exact .inl rfl
    · obtain ⟨minus, rfl⟩ := mem_optionalSign.mp sign
      obtain ⟨some_digit, all⟩ := consists_digit.mem_plus.mp all
      rcases mark with rfl | rfl
      · exact .inr ⟨⟨'e', minus, digits, .inl rfl, some_digit, all⟩, List.append_assoc ..⟩
      · exact .inr ⟨⟨'E', minus, digits, .inr rfl, some_digit, all⟩, List.append_assoc ..⟩
  · rintro (rfl | ⟨e, rfl⟩)
    · exact .inl rfl
    · have mark : [e.mark] ∈ ({['e']} + {['E']} : Language Char) := by
        rcases e.isMark with mark | mark <;> rw [mark]
        · exact .inl rfl
        · exact .inr rfl
      exact .inr ⟨_, ⟨_, mark, _, mem_optionalSign.mpr ⟨e.minus, rfl⟩, rfl⟩, e.digits,
        consists_digit.mem_plus.mpr ⟨e.digits_ne_nil, e.isDigit_digits⟩, List.append_assoc ..⟩

/-- What ends a numeral is read as an exponent if it is one. -/
lemma isSome_exponent?_iff : (exponent? s).isSome = true ↔ s ∈ exponents := by
  rw [mem_exponents]
  cases s with
  | nil => exact iff_of_true rfl (.inl rfl)
  | cons mark s =>
    obtain ⟨minus, negative, signed⟩ := exists_sign s
    constructor
    · intro read
      simp only [exponent?, Option.isSome_ite] at read
      obtain ⟨isMark, some_digit, nothing⟩ := read
      have all : digits (sign s).2 = (sign s).2 := by
        have whole : digits (sign s).2 ++ afterDigits (sign s).2 = (sign s).2 :=
          List.takeWhile_append_dropWhile
        rwa [nothing, List.append_nil] at whole
      refine .inr ⟨⟨mark, minus, (sign s).2, isMark, some_digit, List.takeWhile_eq_self_iff.mp all⟩, ?_⟩
      exact congrArg (mark :: ·) signed
    · rintro (none | ⟨e, same⟩)
      · cases none
      · rw [same, e.exponent?_text]
        rfl

/-- An exponent begins with neither a digit nor a point. -/
lemma head?_of_mem_exponents (member : r ∈ exponents) : ∀ c ∈ r.head?, c.isDigit = false ∧ c ≠ '.' := by
  rcases mem_exponents.mp member with rfl | ⟨e, rfl⟩
  · exact nofun
  · exact e.ends_text

/-- What comes before an exponent is read as a significand if it is one. -/
lemma exists_significand_append (member : t ∈ significands)
    (ends : ∀ c ∈ r.head?, c.isDigit = false ∧ c ≠ '.') :
    ∃ whole fraction, significand (t ++ r) = (whole, fraction, r) ∧ ¬(whole = [] ∧ fraction = []) := by
  obtain ⟨whole, fraction, whole_digits, fraction_digits, some_digit, rfl | ⟨rfl, rfl⟩⟩ :=
    mem_significands.mp member
  · refine ⟨whole, fraction, ?_, some_digit⟩
    rw [List.append_assoc, List.cons_append]
    exact significand_of_point whole_digits fraction_digits fun c next => (ends c next).1
  · exact ⟨t, [], significand_of_no_point whole_digits ends, some_digit⟩

/-- What is read as a significand is one. -/
lemma exists_mem_significands (some_digit : ¬((significand s).1 = [] ∧ (significand s).2.1 = [])) :
    ∃ t ∈ significands, s = t ++ (significand s).2.2 := by
  have whole : s = digits s ++ afterDigits s := List.takeWhile_append_dropWhile.symm
  have all (s : List Char) : ∀ c ∈ digits s, c.isDigit = true := fun _ => List.mem_takeWhile_imp
  unfold significand at some_digit ⊢
  split at some_digit
  · next tail point =>
    have rest : s = (digits s ++ '.' :: digits tail) ++ afterDigits tail := by
      have within : digits tail ++ afterDigits tail = tail := List.takeWhile_append_dropWhile
      rw [List.append_assoc, List.cons_append, within, ← point]
      exact whole
    exact ⟨_, mem_significands.mpr ⟨digits s, digits tail, all s, all tail, some_digit, .inl rfl⟩, rest⟩
  · exact ⟨_, mem_significands.mpr ⟨digits s, [], all s, nofun, some_digit, .inr ⟨rfl, rfl⟩⟩, whole⟩

/-- A significand begins with no sign. -/
lemma sign_append (minus : Option Bool) (member : t ∈ significands) :
    sign (signText minus ++ (t ++ r)) = (decide (minus = some true), t ++ r) := by
  have head : ∃ c rest, t = c :: rest ∧ (c.isDigit = true ∨ c = '.') := by
    obtain ⟨whole, fraction, digits, -, some_digit, same⟩ := mem_significands.mp member
    cases whole with
    | nil =>
      rcases same with rfl | ⟨none, rfl⟩
      · exact ⟨'.', fraction, rfl, .inr rfl⟩
      · exact absurd ⟨rfl, none⟩ some_digit
    | cons c others =>
      have digit := digits c List.mem_cons_self
      rcases same with rfl | ⟨-, rfl⟩
      · exact ⟨c, others ++ '.' :: fraction, rfl, .inl digit⟩
      · exact ⟨c, others, rfl, .inl digit⟩
  obtain ⟨c, rest, rfl, first⟩ := head
  have no_sign {d : Char} (no_digit : d.isDigit = false) (no_point : d ≠ '.') : c ≠ d := by
    rintro rfl
    rcases first with digit | point
    · rw [no_digit] at digit
      cases digit
    · exact no_point point
  cases minus with
  | none => exact sign_of_ne (no_sign rfl (by decide)) (no_sign rfl (by decide)) _
  | some minus => cases minus <;> rfl

/-- Just the numerals are read as decimals. -/
lemma isSome_read?_iff : (read? s).isSome = true ↔ s ∈ numerals := by
  constructor
  · intro read
    obtain ⟨minus, -, signed⟩ := exists_sign s
    simp only [read?] at read
    split at read
    · cases read
    · next some_digit =>
      rw [Option.isSome_map, isSome_exponent?_iff] at read
      obtain ⟨t, member, same⟩ := exists_mem_significands some_digit
      refine ⟨_, ⟨_, mem_optionalSign.mpr ⟨minus, rfl⟩, t, member, rfl⟩, _, read, ?_⟩
      dsimp only
      rw [List.append_assoc, ← same, ← signed]
  · rintro ⟨_, ⟨_, sign, t, member, rfl⟩, r, exponent, rfl⟩
    obtain ⟨minus, rfl⟩ := mem_optionalSign.mp sign
    obtain ⟨whole, fraction, read, some_digit⟩ :=
      exists_significand_append member (head?_of_mem_exponents exponent)
    dsimp only
    rw [List.append_assoc, read?, sign_append minus member]
    simp only [read, if_neg some_digit, Option.isSome_map]
    exact isSome_exponent?_iff.mpr exponent

/-- Just the numerals are read as numbers. -/
lemma isSome_parse?_iff {text : String} :
    (Number.parse? text).isSome = true ↔ text.toList ∈ numerals := by
  rw [Number.parse?, Option.isSome_map]
  exact isSome_read?_iff

end Formula.Lexer.Regular
