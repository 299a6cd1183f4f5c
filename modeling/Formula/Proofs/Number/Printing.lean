import Formula.Proofs.Number.Finite
import Formula.Proofs.Number.Parts
import Formula.Proofs.Number.Rounding

/-!
# Printed numbers

Whatever way of writing is taken, a finite float is written as a number with the decimal value that reads
back as it (`Format.exists_parts`): its digits in scientific form stand around a point
(`Scientific.WellFormed.exists_positional`) or before an exponent (`Scientific.WellFormed.exists_exponential`).
-/

namespace Formula.Number

open Numeral

section Digits

variable {n : Nat}

/-- The value of the digits of a number is the number. -/
lemma value_toDigits (n : Nat) : value (Nat.toDigits 10 n) = n := Nat.ofDigitChars_ten_toDigits

/-- Zeros behind digits multiply their value by a power of ten. -/
lemma value_append_zeros (digits : List Char) (k : Nat) :
    value (digits ++ List.replicate k '0') = value digits * 10 ^ k := by
  rw [value, Nat.ofDigitChars_append, Nat.ofDigitChars_replicate_zero, Nat.mul_comm]
  rfl

/-- Zeros before digits leave their value as it is. -/
lemma value_zeros_append (k : Nat) (digits : List Char) :
    value (List.replicate k '0' ++ digits) = value digits := by
  rw [value, Nat.ofDigitChars_append, Nat.ofDigitChars_replicate_zero]
  rfl

/-- The digits of a whole number are digits. -/
lemma isDigit_toDigits {c : Char} (member : c ∈ Nat.toDigits 10 n) : c.isDigit = true :=
  Nat.isDigit_of_mem_toDigits (by decide) (by decide) member

/-- Zeros are digits. -/
lemma isDigit_zeros {c : Char} {k : Nat} (member : c ∈ List.replicate k '0') : c.isDigit = true := by
  rw [List.eq_of_mem_replicate member]
  rfl

/-- A positive number has no zero in front. -/
lemma head?_toDigits (pos : 0 < n) : (Nat.toDigits 10 n).head? ≠ some '0' := by
  induction n using Nat.base_induction 10 (by decide) with
  | single m small =>
    rw [Nat.toDigits_of_lt_base small]
    simpa using pos.ne'
  | digit m k small positive ih =>
    rw [← Nat.toDigits_append_toDigits (by decide) positive small,
      List.head?_append_of_ne_nil _ Nat.toDigits_ne_nil]
    exact ih positive

/-- A whole number has no zero in front. -/
lemma length_of_head?_toDigits (zero : (Nat.toDigits 10 n).head? = some '0') :
    (Nat.toDigits 10 n).length = 1 := by
  rcases Nat.eq_zero_or_pos n with rfl | pos
  · rfl
  · exact absurd zero (head?_toDigits pos)

end Digits

namespace Scientific

variable (s : Scientific)

/-- Digits, the first of them not zero unless the number is. -/
structure WellFormed : Prop where
  digits_ne_nil : s.digits ≠ []
  isDigit_digits : ∀ c ∈ s.digits, c.isDigit = true
  zero : s.digits.head? = some '0' → s.leading = 0 ∧ s.digits.length = 1

/-- The magnitude bits of the float nearest to a number in scientific form. -/
def bits : Nat := decimalBits (value s.digits) (s.leading + 1 - s.digits.length)

/-- The digits of a whole number are those that are kept and zeros. -/
lemma exists_zeros (all : List Char) :
    ∃ k, all = (all.reverse.dropWhile (· == '0')).reverse ++ List.replicate k '0' := by
  have zeros : all.reverse.takeWhile (· == '0') =
      List.replicate (all.reverse.takeWhile (· == '0')).length '0' :=
    List.eq_replicate_of_mem fun c member => by simpa using List.mem_takeWhile_imp member
  refine ⟨(all.reverse.takeWhile (· == '0')).length, ?_⟩
  rw [← List.reverse_replicate, ← zeros, ← List.reverse_append, List.takeWhile_append_dropWhile,
    List.reverse_reverse]

/-- A decimal in scientific form is well formed, and it is the same number. -/
lemma ofDecimal_spec (n : Nat) (exponent : Int) :
    (ofDecimal n exponent).WellFormed ∧ (ofDecimal n exponent).bits = decimalBits n exponent := by
  rcases Nat.eq_zero_or_pos n with rfl | pos
  · have zero : ofDecimal 0 exponent = ⟨['0'], 0⟩ := rfl
    rw [zero, decimalBits_zero]
    refine ⟨⟨List.cons_ne_nil _ _, List.forall_mem_singleton.mpr rfl, fun _ => ⟨rfl, rfl⟩⟩, ?_⟩
    exact decimalBits_zero _
  · obtain ⟨k, all⟩ := exists_zeros (Nat.toDigits 10 n)
    unfold ofDecimal
    dsimp only
    generalize ((Nat.toDigits 10 n).reverse.dropWhile (· == '0')).reverse = kept at all ⊢
    have number : n = value kept * 10 ^ k := by rw [← value_append_zeros, ← all, value_toDigits]
    have some_digit : kept ≠ [] := by
      rintro rfl
      exact pos.ne' (number.trans (Nat.zero_mul _))
    rw [if_neg some_digit]
    refine ⟨⟨some_digit, fun c member => ?_, fun zero => ?_⟩, ?_⟩
    · have within : c ∈ Nat.toDigits 10 n := by
        rw [all]
        exact List.mem_append_left _ member
      exact isDigit_toDigits within
    · have head : (Nat.toDigits 10 n).head? = some '0' := by
        rw [all, List.head?_append_of_ne_nil _ some_digit]
        exact zero
      exact absurd head (head?_toDigits pos)
    · have length := congrArg List.length all
      rw [List.length_append, List.length_replicate] at length
      have power : exponent + (Nat.toDigits 10 n).length - 1 + 1 - kept.length = exponent + k := by
        omega
      rw [bits, power, ← decimalBits_mul_pow, ← number]

/-- Zeros between the point and the digits put them where their power of ten is. -/
lemma bits_below (small : s.leading < 0) :
    decimalBits (value ('0' :: (List.replicate (-s.leading - 1).toNat '0' ++ s.digits)))
      (-(List.replicate (-s.leading - 1).toNat '0' ++ s.digits).length) = s.bits := by
  have zeros : '0' :: (List.replicate (-s.leading - 1).toNat '0' ++ s.digits) =
      List.replicate ((-s.leading - 1).toNat + 1) '0' ++ s.digits := by
    rw [List.replicate_succ, List.cons_append]
  rw [bits, zeros, value_zeros_append, List.length_append, List.length_replicate]
  congr 1
  omega

/-- So does a point among the digits. -/
lemma bits_within (large : ¬s.leading < 0) (inside : s.leading.toNat + 1 < s.digits.length) :
    decimalBits (value (s.digits.take (s.leading.toNat + 1) ++ s.digits.drop (s.leading.toNat + 1)))
      (-(s.digits.drop (s.leading.toNat + 1)).length) = s.bits := by
  rw [bits, List.take_append_drop, List.length_drop]
  congr 1
  omega

/-- So do zeros between the digits and the point, whatever zeros come after the point. -/
lemma bits_beyond (large : ¬s.leading < 0) (outside : s.digits.length ≤ s.leading.toNat + 1) (k : Nat) :
    decimalBits (value (s.digits ++ List.replicate (s.leading.toNat + 1 - s.digits.length) '0' ++
      List.replicate k '0')) (-k) = s.bits := by
  rw [List.append_assoc, List.replicate_append_replicate, value_append_zeros, decimalBits_mul_pow, bits]
  congr 1
  omega

variable {s}

/-- The digits up to a point, filled up with zeros, are the whole part of a literal. -/
lemma WellFormed.exists_whole (h : s.WellFormed) {fraction : List Char}
    (digits : ∀ c ∈ fraction, c.isDigit = true) :
    ∃ l : Lexer.Literal, l.whole = s.digits.take (s.leading.toNat + 1) ++
        List.replicate (s.leading.toNat + 1 - s.digits.length) '0' ∧ l.fraction = fraction ∧
      (l.whole.head? = some '0' → l.whole.length = 1) := by
  have positive := List.length_pos_iff.mpr h.digits_ne_nil
  have some_digit : s.digits.take (s.leading.toNat + 1) ≠ [] := by
    rw [← List.length_pos_iff, List.length_take]
    omega
  refine ⟨⟨_, fraction, List.append_ne_nil_of_left_ne_nil some_digit _, fun c member => ?_, digits⟩, rfl, rfl,
    fun zero => ?_⟩
  · rcases List.mem_append.mp member with digit | zero
    · exact h.isDigit_digits c (List.mem_of_mem_take digit)
    · exact isDigit_zeros zero
  · rw [List.head?_append_of_ne_nil _ some_digit, List.head?_take, if_neg (Nat.succ_ne_zero _)] at zero
    obtain ⟨leading, single⟩ := h.zero zero
    rw [List.length_append, List.length_take, List.length_replicate, leading, single]
    rfl

/-- Digits around a point are a literal, and it is the same number. -/
lemma WellFormed.exists_positional (h : s.WellFormed) (wholeFraction : Bool) :
    ∃ l : Lexer.Literal, s.positional wholeFraction = l.text.toList ∧
      (l.whole.head? = some '0' → l.whole.length = 1) ∧
      (wholeFraction = true → l.fraction ≠ []) ∧
      decimalBits (value (l.whole ++ l.fraction)) (-l.fraction.length) = s.bits := by
  unfold positional
  split
  · next small =>
    have some_fraction : List.replicate (-s.leading - 1).toNat '0' ++ s.digits ≠ [] :=
      List.append_ne_nil_of_right_ne_nil _ h.digits_ne_nil
    refine ⟨⟨['0'], _, List.cons_ne_nil _ _, List.forall_mem_singleton.mpr rfl, fun c member => ?_⟩,
      ?_, fun _ => rfl, fun _ => some_fraction, s.bits_below small⟩
    · rcases List.mem_append.mp member with zero | digit
      · exact isDigit_zeros zero
      · exact h.isDigit_digits c digit
    · rw [Lexer.Literal.text, String.toList_ofList, if_neg some_fraction]
      rfl
  · next large =>
    dsimp only
    split
    · next some_fraction =>
      have inside : s.leading.toNat + 1 < s.digits.length := by
        rwa [ne_eq, List.drop_eq_nil_iff, not_le] at some_fraction
      obtain ⟨l, whole, fraction, no_zero⟩ :=
        h.exists_whole fun c member => h.isDigit_digits c (List.mem_of_mem_drop member)
      refine ⟨l, ?_, no_zero, fun _ => fraction ▸ some_fraction, ?_⟩
      · rw [Lexer.Literal.text, String.toList_ofList, whole, fraction, if_neg some_fraction]
      · rw [whole, fraction, Nat.sub_eq_zero_of_le inside.le, List.replicate_zero, List.append_nil]
        exact s.bits_within large inside
    · next no_fraction =>
      have outside : s.digits.length ≤ s.leading.toNat + 1 := by
        rwa [ne_eq, not_not, List.drop_eq_nil_iff] at no_fraction
      have same := s.bits_beyond large outside
      split
      · next point =>
        have zero : ∀ c ∈ ['0'], c.isDigit = true := List.forall_mem_singleton.mpr rfl
        obtain ⟨l, whole, fraction, no_zero⟩ := h.exists_whole zero
        refine ⟨l, ?_, no_zero, fun _ => fraction ▸ List.cons_ne_nil _ _, ?_⟩
        · rw [Lexer.Literal.text, String.toList_ofList, whole, fraction]
          rfl
        · rw [whole, fraction, List.take_of_length_le outside]
          exact same 1
      · next no_point =>
        obtain ⟨l, whole, fraction, no_zero⟩ := h.exists_whole (List.forall_mem_nil _)
        refine ⟨l, ?_, no_zero, fun point => absurd point no_point, ?_⟩
        · rw [Lexer.Literal.text, String.toList_ofList, whole, fraction, if_pos rfl, List.append_nil]
        · rw [whole, fraction, List.take_of_length_le outside]
          exact same 0

/-- The exponent that is written for the power of ten of the first digit. -/
def exponent (s : Scientific) (exponentPlus : Bool) : Exponent where
  mark := 'e'
  minus := if s.leading < 0 then some true else if exponentPlus then some false else none
  digits := Nat.toDigits 10 s.leading.natAbs
  isMark := .inl rfl
  digits_ne_nil := Nat.toDigits_ne_nil
  isDigit_digits _ := isDigit_toDigits

/-- The exponent is written with a letter, a sign where there is one, and digits. -/
lemma text_exponent (s : Scientific) (exponentPlus : Bool) :
    (s.exponent exponentPlus).text =
      (if s.leading < 0 then ['e', '-'] else if exponentPlus then ['e', '+'] else ['e']) ++
        Nat.toDigits 10 s.leading.natAbs := by
  unfold Exponent.text exponent
  dsimp only
  split
  · rfl
  · split <;> rfl

/-- The exponent that is written is the power of ten of the first digit. -/
lemma power_exponent (s : Scientific) (exponentPlus : Bool) : (s.exponent exponentPlus).power = s.leading := by
  unfold Exponent.power exponent
  rw [value_toDigits]
  dsimp only
  by_cases negative : s.leading < 0
  · rw [if_pos negative, if_pos rfl]
    omega
  · rw [if_neg negative, if_neg (by split <;> decide)]
    omega

/-- The first digit, a point and the others, and an exponent are the same number. -/
lemma WellFormed.exists_exponential (h : s.WellFormed) (exponentPlus : Bool) :
    ∃ (l : Lexer.Literal) (e : Exponent), s.exponential exponentPlus = l.text.toList ++ e.text ∧
      (l.whole.head? = some '0' → l.whole.length = 1) ∧
      decimalBits (value (l.whole ++ l.fraction)) (e.power - l.fraction.length) = s.bits := by
  obtain ⟨c, rest, starts⟩ := List.exists_cons_of_ne_nil h.digits_ne_nil
  have digits := h.isDigit_digits
  rw [starts] at digits
  obtain ⟨first, others⟩ := List.forall_mem_cons.mp digits
  refine ⟨⟨[c], rest, List.cons_ne_nil _ _, List.forall_mem_singleton.mpr first, others⟩,
    s.exponent exponentPlus, ?_, fun _ => rfl, ?_⟩
  · rw [exponential, starts, text_exponent, Lexer.Literal.text, String.toList_ofList, List.append_assoc]
    rfl
  · rw [bits, power_exponent, starts, List.length_cons]
    congr 1
    push_cast
    ring

end Scientific

/-- The way in which a magnitude is written depends on the power of ten of its first digit. -/
lemma Format.magnitude_eq (f : Format) (bits : Nat) :
    f.magnitude bits =
      let s := Scientific.ofDecimal (shortest f.tie bits).1 (shortest f.tie bits).2
      if f.positional s.leading then s.positional f.wholeFraction else s.exponential f.exponentPlus := by
  -- what finds the digits is made a variable first, since the pair that it gives is evaluated otherwise
  generalize opened : Format.magnitude = magnitude
  delta Format.magnitude at opened
  generalize shortest = find at opened ⊢
  subst opened
  beta_reduce
  obtain ⟨digits, exponent⟩ := find f.tie bits
  rfl

/-- A finite float is written as its magnitude, behind a sign if it is negative. -/
lemma Format.write_eq (f : Format) {x : Float} (finite : IsFinite x) :
    (f.write x).toList =
      if isNegative x then '-' :: f.magnitude (magnitudeBits x) else f.magnitude (magnitudeBits x) := by
  rw [Format.write, finite.view_eq, String.toList_ofList]

/-- A decimal with the sign of a float and rounded to its magnitude bits is the float. -/
lemma toFloat_of_bits {d : Decimal} {x : Float} (sign : d.negative = isNegative x)
    (bits : decimalBits d.digits d.exponent = magnitudeBits x) : d.toFloat = x := by
  rw [Decimal.toFloat, sign, bits, ofMagnitude_magnitudeBits]

/-- A finite float is written as a number with a decimal value that reads back as it. -/
lemma Format.exists_parts (f : Format) {x : Float} (finite : IsFinite x) :
    ∃ p : Parts, (f.write x).toList = p.text ∧ p.decimal.toFloat = x ∧
      (f.wholeFraction = true → ¬(p.literal.fraction = [] ∧ p.power = none)) ∧
      ((∀ leading, f.positional leading = true) → p.exponent = none) := by
  have bits := decimalBits_shortest f.tie (isFinite_iff.mp finite)
  rw [f.write_eq finite, f.magnitude_eq]
  generalize shortest f.tie (magnitudeBits x) = d at bits ⊢
  obtain ⟨h, same⟩ := Scientific.ofDecimal_spec d.1 d.2
  rw [bits] at same
  generalize Scientific.ofDecimal d.1 d.2 = s at h same ⊢
  dsimp only
  by_cases positional : f.positional s.leading = true
  · obtain ⟨l, text, no_zero, point, value⟩ := h.exists_positional f.wholeFraction
    refine ⟨⟨isNegative x, l, none, no_zero⟩, ?_, toFloat_of_bits rfl ?_, fun whole both => point whole both.1,
      fun _ => rfl⟩
    · rw [if_pos positional, text, Parts.text, Parts.unsigned, Parts.exponentText, Option.elim_none,
        List.append_nil]
    · rw [← same, ← value]
      exact congrArg _ (Int.zero_sub _)
  · obtain ⟨l, e, text, no_zero, value⟩ := h.exists_exponential f.exponentPlus
    refine ⟨⟨isNegative x, l, some e, no_zero⟩, ?_, toFloat_of_bits rfl (value.trans same),
      fun _ both => absurd both.2 (Option.some_ne_none _), fun always => absurd (always s.leading) positional⟩
    rw [if_neg positional, text, Parts.text, Parts.unsigned, Parts.exponentText, Option.elim_some]

end Formula.Number
