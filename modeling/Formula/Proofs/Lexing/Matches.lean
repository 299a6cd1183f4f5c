import Formula.Proofs.Lexing.Numerals
import Formula.Proofs.Lexing.Options

/-!
# Patterns of classes

Every class of texts but that of single characters is given by a pattern (`Class.pattern?`). The first match of
such a pattern begins where a text begins, and it is what the class matches there (`Class.search_of_pattern?`).
So a cursor that reads the match of a pattern, wherever it begins, reads the class, and the match never begins
behind the cursor (`Cursor.readMatch_search`).
-/

open scoped Computability

namespace Formula.Lexer

namespace Pattern

/-- `[0-9]` -/
def digits : List (Char × Char) := [('0', '9')]

/-- `[a-zA-Z_]` -/
def letters : List (Char × Char) := [('a', 'z'), ('A', 'Z'), ('_', '_')]

/-- `[+-]` -/
def signs : List (Char × Char) := [('+', '+'), ('-', '-')]

/-- `\s` -/
def blanks : List (Char × Char) :=
  [('\t', '\r'), (' ', ' '), ('\u0085', '\u0085'), ('\u00a0', '\u00a0'), ('\u1680', '\u1680'),
    ('\u2000', '\u200a'), ('\u2028', '\u2029'), ('\u202f', '\u202f'), ('\u205f', '\u205f'), ('\u3000', '\u3000')]

/-- One character of a set at least, and as many as there are. -/
def plus (ranges : List (Char × Char)) : Pattern := sequence (oneOf ranges) (many ranges)

/-- What a pattern matches, or else nothing. -/
def optional (p : Pattern) : Pattern := choice p empty

/-- `(?:[0-9]+(?:\.[0-9]*)?|\.[0-9]+)` -/
def significand : Pattern :=
  choice (sequence (plus digits) (optional (sequence (character '.') (many digits))))
    (sequence (character '.') (plus digits))

/-- `(?:[eE][+-]?[0-9]+)?` -/
def exponent : Pattern :=
  optional (sequenceOf [oneOf [('e', 'e'), ('E', 'E')], optional (oneOf signs), plus digits])

/-- A sign, a significand, and an exponent. -/
def numeral : Pattern := sequenceOf [optional (oneOf signs), significand, exponent]

end Pattern

open Pattern in
/-- The pattern of a class, if there is one. -/
def Class.pattern? : Class → Option Pattern
  -- `^\s*`
  | .blanks => some (sequenceOf [opening, many Pattern.blanks])
  -- `^:[a-zA-Z_][a-zA-Z0-9_]*`
  | .name => some (sequenceOf [opening, Pattern.character ':', oneOf letters, many (letters ++ digits)])
  -- `^[a-zA-Z_]+`
  | .word => some (sequenceOf [opening, plus letters])
  -- `^[0-9]+(?:\.[0-9]+)?`
  | .literal =>
    some (sequenceOf [opening, plus digits, optional (sequenceOf [Pattern.character '.', plus digits])])
  -- `^[+-]?(?:[0-9]+(?:\.[0-9]*)?|\.[0-9]+)(?:[eE][+-]?[0-9]+)?$`
  | .numeral => some (sequenceOf [opening, Pattern.numeral, ending])
  -- `^[a-zA-Z_]+$`
  | .wholeWord => some (sequenceOf [opening, plus letters, ending])
  -- the symbols in a group, the longest first, behind `^`
  | .symbol symbols =>
    match symbols.filter (· ≠ []) with
    | [] => none
    | options => some (sequenceOf [opening, choiceOf ((alternatives options).map ofText)])
  | .character => none

section Sets

variable {ranges : List (Char × Char)} {c : Char}

/-- A character is within a set if its number is within a range. -/
lemma isWithin_iff : isWithin ranges c = true ↔ ∃ r ∈ ranges, r.1.toNat ≤ c.toNat ∧ c.toNat ≤ r.2.toNat := by
  simp only [isWithin, List.any_eq_true, Bool.and_eq_true, decide_eq_true_eq]
  exact Iff.rfl

/-- The digits are a set. -/
lemma isWithin_digits : isWithin Pattern.digits = Char.isDigit := by
  funext c
  rw [Bool.eq_iff_iff, isWithin_iff, Char.isDigit_iff_toNat]
  simp [Pattern.digits]

/-- The letters and the underscore are a set. -/
lemma isWithin_letters : isWithin Pattern.letters = isWordChar := by
  funext c
  rw [Bool.eq_iff_iff, isWithin_iff]
  simp only [Pattern.letters, List.exists_mem_cons_iff, List.not_mem_nil, false_and, exists_false, or_false]
  constructor
  · rintro (lower | upper | underscore)
    · exact isWordChar_of_toNat (.inr (.inl lower))
    · exact isWordChar_of_toNat (.inl upper)
    · exact isWordChar_of_toNat (.inr (.inr (le_antisymm underscore.2 underscore.1)))
  · intro word
    rcases toNat_of_isWordChar word with upper | lower | underscore
    · exact .inr (.inl upper)
    · exact .inl lower
    · exact .inr (.inr ⟨underscore.ge, underscore.le⟩)

/-- The characters of names are a set. -/
lemma isWithin_letters_digits : isWithin (Pattern.letters ++ Pattern.digits) = isNameChar := by
  funext c
  rw [isWithin, List.any_append]
  change (isWithin Pattern.letters c || isWithin Pattern.digits c) = isNameChar c
  rw [isWithin_letters, isWithin_digits]
  rfl

/-- The blanks are a set. -/
lemma isWithin_blanks : isWithin Pattern.blanks = Text.isBlank := by
  funext c
  rw [Bool.eq_iff_iff, isWithin_iff]
  simp only [Pattern.blanks, List.exists_mem_cons_iff, List.not_mem_nil, false_and, exists_false, or_false]
  simp only [Text.isBlank, Bool.or_eq_true, Bool.and_eq_true, decide_eq_true_eq, beq_iff_eq, Char.reduceToNat]
  omega

end Sets

namespace Pattern

section First

variable {p q : Pattern} {pieces : List Pattern} {ranges : List (Char × Char)} {before s x y : List Char}

/-- The longest beginning of a text is the text. -/
lemma head?_beginnings (s : List Char) : (beginnings s).head? = some s := by
  induction s with
  | nil => rfl
  | cons c s ih => rw [beginnings, List.head?_append, List.head?_map, ih, Option.map_some, Option.some_or]

/-- As many characters of a set are tried first as there are. -/
lemma head?_finds_many : ((many ranges).finds before s).head? = some (s.takeWhile (isWithin ranges)) := by
  rw [finds, head?_beginnings]

/-- The first match of a sequence is the first of its first part with the first of the rest behind it, if there is
one. -/
lemma head?_finds_sequence (first : (p.finds before s).head? = some x)
    (second : (q.finds (before ++ x) (s.drop x.length)).head? = some y) :
    ((sequence p q).finds before s).head? = some (x ++ y) := by
  obtain ⟨others, found⟩ := List.head?_eq_some_iff.mp first
  rw [finds, found, List.flatMap_cons, List.head?_append, List.head?_map, second, Option.map_some, Option.some_or]

/-- Where there is no match of the first part, there is none of a sequence. -/
lemma finds_sequence_of_nil (none : p.finds before s = []) : (sequence p q).finds before s = [] := by
  rw [finds, none, List.flatMap_nil]

/-- What is optional is tried first. -/
lemma head?_finds_optional :
    (p.optional.finds before s).head? = some ((p.finds before s).head?.getD []) := by
  rw [optional, finds, List.head?_append, finds]
  cases (p.finds before s).head? <;> rfl

/-- Characters of a set are found where there is one. -/
lemma head?_finds_plus : ((plus ranges).finds before s).head? =
    if s.takeWhile (isWithin ranges) = [] then none else some (s.takeWhile (isWithin ranges)) := by
  cases s with
  | nil => simp [plus]
  | cons c s =>
    by_cases within : isWithin ranges c = true
    · rw [List.takeWhile_cons_of_pos within, if_neg (List.cons_ne_nil _ _)]
      exact head?_finds_sequence (x := [c]) (by simp [within]) head?_finds_many
    · rw [List.takeWhile_cons_of_neg within, if_pos rfl, plus, finds_sequence_of_nil (by simp [within])]
      rfl

end First

section Whole

variable {p q : Pattern} {ranges : List (Char × Char)} {before s found : List Char}

/-- No anchor is in a pattern. -/
def isFree : Pattern → Bool
  | opening => false
  | ending => false
  | sequence p q => p.isFree && q.isFree
  | choice p q => p.isFree && q.isFree
  | _ => true

/-- The texts that a pattern without anchors matches. -/
def language : Pattern → Language Char
  | empty => 1
  | opening => 1
  | ending => 1
  | character c => {[c]}
  | oneOf ranges => {w | ∃ c, isWithin ranges c = true ∧ w = [c]}
  | many ranges => {w | ∃ c, isWithin ranges c = true ∧ w = [c]}∗
  | sequence p q => p.language * q.language
  | choice p q => p.language + q.language

/-- The beginnings of a text are all that it begins with. -/
lemma mem_beginnings : found ∈ beginnings s ↔ found <+: s := by
  induction s generalizing found with
  | nil => simp [beginnings]
  | cons c s ih =>
    cases found with
    | nil => simp [beginnings]
    | cons d found => simpa [beginnings, ih, List.cons_prefix_cons, and_comm] using fun _ => eq_comm

/-- A set of characters is a language of single characters. -/
lemma consists_oneOf (ranges : List (Char × Char)) :
    Regular.Consists (oneOf ranges).language (isWithin ranges) := fun _ => Iff.rfl

/-- A text begins with characters of a set just as far as it consists of them. -/
lemma isPrefix_takeWhile_iff {within : Char → Bool} :
    found <+: s.takeWhile within ↔ (∀ c ∈ found, within c = true) ∧ found <+: s := by
  constructor
  · intro start
    exact ⟨fun c member => List.mem_takeWhile_imp (start.subset member), start.trans (List.takeWhile_prefix _)⟩
  · rintro ⟨all, start⟩
    exact isPrefix_takeWhile all start

/-- A pattern without anchors finds every text of its language that the rest begins with. -/
lemma mem_finds (free : p.isFree = true) : found ∈ p.finds before s ↔ found ∈ p.language ∧ found <+: s := by
  induction p generalizing before s found with
  | empty =>
    rw [finds, List.mem_singleton, language, Language.mem_one]
    exact ⟨fun same => ⟨same, same ▸ List.nil_prefix⟩, And.left⟩
  | opening => cases free
  | ending => cases free
  | character c =>
    have starts : [c] <+: s ↔ s.head? = some c := by cases s <;> simp [List.cons_prefix_cons, eq_comm]
    have single : found ∈ (character c).language ↔ found = [c] := Iff.rfl
    rw [finds, single]
    split
    · next first =>
      rw [List.mem_singleton]
      exact ⟨fun same => ⟨same, same ▸ starts.mpr first⟩, And.left⟩
    · next other => exact ⟨nofun, fun ⟨same, start⟩ => absurd (starts.mp (same ▸ start)) other⟩
  | oneOf ranges =>
    rw [finds, consists_oneOf ranges found]
    constructor
    · rcases s with _ | ⟨d, s⟩
      · exact nofun
      · by_cases within : isWithin ranges d = true
        · simpa [within] using fun same => ⟨⟨d, within, same⟩, by rw [same]; exact ⟨s, rfl⟩⟩
        · simp [within]
    · rintro ⟨⟨c, within, rfl⟩, rest, rfl⟩
      simp [within]
  | many ranges =>
    rw [finds, mem_beginnings, isPrefix_takeWhile_iff, language]
    exact and_congr_left' (consists_oneOf ranges).mem_kstar.symm
  | sequence p q ihp ihq =>
    obtain ⟨free_p, free_q⟩ := Bool.and_eq_true_iff.mp free
    simp only [finds, List.mem_flatMap, List.mem_map, ihp free_p, ihq free_q, language, Language.mem_mul]
    constructor
    · rintro ⟨x, ⟨first, start⟩, y, ⟨second, behind⟩, rfl⟩
      obtain ⟨rest, rfl⟩ := start
      rw [List.drop_left] at behind
      exact ⟨⟨x, first, y, second, rfl⟩, (List.prefix_append_right_inj x).mpr behind⟩
    · rintro ⟨⟨x, first, y, second, rfl⟩, rest, rfl⟩
      refine ⟨x, ⟨first, ?_⟩, y, ⟨second, ?_⟩, rfl⟩
      · rw [List.append_assoc]
        exact List.prefix_append _ _
      · rw [List.append_assoc, List.drop_left]
        exact List.prefix_append _ _
  | choice p q ihp ihq =>
    obtain ⟨free_p, free_q⟩ := Bool.and_eq_true_iff.mp free
    rw [finds, List.mem_append, ihp free_p, ihq free_q, language, Language.mem_add, or_and_right]

/-- What all of a text may be, is what is found in it up to its end. -/
lemma mem_finds_ending (free : p.isFree = true) :
    found ∈ (sequenceOf [p, ending]).finds before s ↔ found = s ∧ s ∈ p.language := by
  rw [finds_sequenceOf_ending, List.mem_filter, mem_finds free, decide_eq_true_eq, List.drop_eq_nil_iff]
  constructor
  · rintro ⟨⟨member, start⟩, reaches⟩
    obtain rfl := start.eq_of_length_le reaches
    exact ⟨rfl, member⟩
  · rintro ⟨rfl, member⟩
    exact ⟨⟨member, List.prefix_rfl⟩, le_rfl⟩

/-- A pattern between anchors is found in a text of its language: the match is the text. -/
lemma search_of_mem_language (free : p.isFree = true) (member : s ∈ p.language) :
    (sequenceOf [opening, p, ending]).search s = some ([], s) := by
  rw [search_sequenceOf_opening]
  cases first : ((sequenceOf [p, ending]).finds [] s).head? with
  | none =>
    rw [List.head?_eq_none_iff] at first
    have within := (@mem_finds_ending p [] s s free).mpr ⟨rfl, member⟩
    rw [first] at within
    cases within
  | some found =>
    obtain ⟨rfl, -⟩ := (mem_finds_ending free).mp (List.mem_of_mem_head? first)
    rfl

/-- In any other text it is not found. -/
lemma search_of_not_mem_language (free : p.isFree = true) (other : s ∉ p.language) :
    (sequenceOf [opening, p, ending]).search s = none := by
  have nothing : (sequenceOf [p, ending]).finds [] s = [] :=
    List.eq_nil_iff_forall_not_mem.mpr fun found member => other ((mem_finds_ending free).mp member).2
  rw [search_sequenceOf_opening, nothing]
  rfl

end Whole

section Languages

/-- Single characters that are told by the same test are the same language. -/
lemma eq_of_consists {l m : Language Char} {p : Char → Bool} (h : Regular.Consists l p)
    (h' : Regular.Consists m p) : l = m := by
  ext w
  exact (h w).trans (h' w).symm

/-- One digit. -/
lemma language_digits : (oneOf digits).language = Regular.digit :=
  eq_of_consists (isWithin_digits ▸ consists_oneOf digits) Regular.consists_digit

/-- One of two characters. -/
lemma language_oneOf_pair (a b : Char) : (oneOf [(a, a), (b, b)]).language = {[a]} + {[b]} := by
  ext w
  have single (a c : Char) : a.toNat ≤ c.toNat ∧ c.toNat ≤ a.toNat ↔ c = a := by
    constructor
    · exact fun h => Char.toNat_inj.mp (le_antisymm h.2 h.1)
    · rintro rfl
      exact ⟨le_rfl, le_rfl⟩
  have one (c : Char) : isWithin [(a, a), (b, b)] c = true ↔ c = a ∨ c = b := by
    rw [isWithin_iff]
    simp only [List.exists_mem_cons_iff, List.not_mem_nil, false_and, exists_false, or_false, single]
  constructor
  · rintro ⟨c, within, rfl⟩
    rcases (one c).mp within with rfl | rfl
    · exact .inl rfl
    · exact .inr rfl
  · rintro (rfl | rfl)
    · exact ⟨a, (one a).mpr (.inl rfl), rfl⟩
    · exact ⟨b, (one b).mpr (.inr rfl), rfl⟩

/-- Digits, of which there is one at least. -/
lemma language_plus_digits : (plus digits).language = Regular.digit * Regular.digit∗ :=
  congrArg (fun l : Language Char => l * l∗) language_digits

/-- A plus, a minus, or nothing. -/
lemma language_optional_signs : (optional (oneOf signs)).language = Regular.optionalSign := by
  change (oneOf signs).language + 1 = Regular.optionalSign
  rw [signs, language_oneOf_pair, Regular.optionalSign, add_comm, add_assoc]

/-- The language of significands. -/
lemma language_significand : significand.language = Regular.significands := by
  change (plus digits).language * ({['.']} * (oneOf digits).language∗ + 1) + {['.']} * (plus digits).language = _
  rw [language_plus_digits, language_digits, add_comm _ 1, Regular.significands]

/-- The language of exponents. -/
lemma language_exponent : exponent.language = Regular.exponents := by
  change (oneOf [('e', 'e'), ('E', 'E')]).language *
    ((optional (oneOf signs)).language * ((plus digits).language * 1)) + 1 = _
  rw [language_oneOf_pair, language_optional_signs, language_plus_digits, mul_one, ← mul_assoc, add_comm _ 1,
    Regular.exponents]

/-- The language of numerals. -/
lemma language_numeral : numeral.language = Regular.numerals := by
  change (optional (oneOf signs)).language * (significand.language * (exponent.language * 1)) = _
  rw [language_optional_signs, language_significand, language_exponent, mul_one, ← mul_assoc, Regular.numerals]

end Languages

end Pattern

namespace Class

open Pattern

variable {s : List Char}

/-- The first match of the pattern of blanks. -/
lemma search_blanks : (sequenceOf [opening, many Pattern.blanks]).search s = some ([], Text.leadingBlanks s) := by
  rw [search_sequenceOf_opening, finds_sequenceOf_singleton, head?_finds_many, isWithin_blanks]
  rfl

/-- The first match of the pattern of words. -/
lemma search_word : (sequenceOf [opening, plus letters]).search s =
    if wordAt s = [] then none else some ([], wordAt s) := by
  rw [search_sequenceOf_opening, finds_sequenceOf_singleton, head?_finds_plus, isWithin_letters,
    apply_ite (Option.map _)]
  rfl

/-- The first match of the pattern of names. -/
lemma search_name :
    (sequenceOf [opening, Pattern.character ':', oneOf letters, many (letters ++ digits)]).search s =
      if variableAt s = [] then none else some ([], variableAt s) := by
  rw [search_sequenceOf_opening]
  rcases s with _ | ⟨colon, _ | ⟨c, s⟩⟩
  · rfl
  · by_cases same : colon = ':' <;> simp [sequenceOf, same, variableAt]
  by_cases same : colon = ':'
  · subst same
    by_cases word : isWordChar c = true
    · have within : isWithin letters c = true := isWithin_letters ▸ word
      have others : ((sequenceOf [many (letters ++ digits)]).finds [':', c] s).head? =
          some (s.takeWhile isNameChar) := by
        rw [finds_sequenceOf_singleton, head?_finds_many, isWithin_letters_digits]
      have letter : ((sequenceOf [oneOf letters, many (letters ++ digits)]).finds [':'] (c :: s)).head? =
          some ([c] ++ s.takeWhile isNameChar) := head?_finds_sequence (by simp [within]) others
      have all := @head?_finds_sequence (Pattern.character ':')
        (sequenceOf [oneOf letters, many (letters ++ digits)]) [] (':' :: c :: s) [':'] _ (by simp) letter
      have name : variableAt (':' :: c :: s) = [':'] ++ ([c] ++ s.takeWhile isNameChar) := by
        simp [variableAt, word]
      rw [name, if_neg (by simp)]
      exact congrArg (Option.map ([], ·)) all
    · have within : isWithin letters c = false := by rw [isWithin_letters]; simpa using word
      simp [sequenceOf, within, variableAt, word]
  · simp [sequenceOf, same, variableAt_of_ne same]

/-- A point and digits are what is optional behind the digits of a literal. -/
lemma head?_finds_fraction (before s : List Char) :
    ((sequenceOf [Pattern.character '.', plus digits]).finds before s).head?.getD [] = fractionAt s := by
  rcases s with _ | ⟨c, s⟩
  · rfl
  by_cases point : c = '.'
  · subst point
    have fraction := @head?_finds_plus digits (before ++ ['.']) s
    rw [isWithin_digits] at fraction
    rw [fractionAt, Number.Numeral.digits]
    split at fraction
    · next nothing =>
      rw [if_pos nothing]
      have none_found := List.head?_eq_none_iff.mp fraction
      simp [sequenceOf, none_found]
    · next some_digit =>
      rw [if_neg some_digit]
      rw [← finds_sequenceOf_singleton] at fraction
      have all := @head?_finds_sequence (Pattern.character '.') (sequenceOf [plus digits]) before ('.' :: s) ['.'] _
        (by simp) fraction
      exact congrArg (Option.getD · []) all
  · unfold fractionAt
    simp [sequenceOf, point]

/-- The first match of the pattern of literals. -/
lemma search_literal :
    (sequenceOf [opening, plus digits, optional (sequenceOf [Pattern.character '.', plus digits])]).search s =
      if literalAt s = [] then none else some ([], literalAt s) := by
  have whole := @head?_finds_plus digits [] s
  rw [isWithin_digits] at whole
  rw [search_sequenceOf_opening, literalAt_eq]
  split at whole
  · next nothing =>
    have none_found := List.head?_eq_none_iff.mp whole
    have digits_eq : Number.Numeral.digits s = [] := nothing
    rw [digits_eq, if_pos rfl, if_pos rfl, sequenceOf, List.foldr_cons, finds_sequence_of_nil none_found]
    rfl
  · next some_digit =>
    have digits_ne : Number.Numeral.digits s ≠ [] := some_digit
    have both : Number.Numeral.digits s ++ Number.Numeral.afterDigits s = s := List.takeWhile_append_dropWhile
    have after : s.drop (Number.Numeral.digits s).length = Number.Numeral.afterDigits s :=
      (congrArg (List.drop _) both.symm).trans List.drop_left
    have rest : ((sequenceOf [optional (sequenceOf [Pattern.character '.', plus digits])]).finds
        ([] ++ Number.Numeral.digits s) (s.drop (Number.Numeral.digits s).length)).head? =
          some (fractionAt (Number.Numeral.afterDigits s)) := by
      rw [finds_sequenceOf_singleton, head?_finds_optional, head?_finds_fraction, after]
    have all := head?_finds_sequence whole rest
    have some_text := List.append_ne_nil_of_left_ne_nil digits_ne (fractionAt (Number.Numeral.afterDigits s))
    rw [if_neg digits_ne, if_neg some_text]
    exact congrArg (Option.map ([], ·)) all

/-- The first match of the pattern of numerals. -/
lemma search_numeral : (sequenceOf [opening, Pattern.numeral, ending]).search s =
    if (Number.Numeral.read? s).isSome then some ([], s) else none := by
  split
  · next read =>
    refine search_of_mem_language rfl ?_
    rw [language_numeral]
    exact Regular.isSome_read?_iff.mp read
  · next other =>
    refine search_of_not_mem_language rfl ?_
    rw [language_numeral]
    exact mt Regular.isSome_read?_iff.mpr other

/-- The first match of the pattern of whole words. -/
lemma search_wholeWord : (sequenceOf [opening, plus letters, ending]).search s =
    if s ≠ [] ∧ s.all isWordChar then some ([], s) else none := by
  have mem : s ∈ (plus letters).language ↔ s ≠ [] ∧ s.all isWordChar := by
    rw [← isWithin_letters, List.all_eq_true]
    exact (consists_oneOf letters).mem_plus
  split
  · next word => exact search_of_mem_language rfl (mem.mpr word)
  · next other => exact search_of_not_mem_language rfl (mt mem.mp other)

/-- The first match of the pattern of options. -/
lemma search_options (options : List (List Char)) :
    (sequenceOf [opening, choiceOf ((alternatives options).map ofText)]).search s =
      (optionAt? options s).map ([], ·) := by
  rw [search_sequenceOf_opening, finds_sequenceOf_singleton, finds_choiceOf_ofText (alternatives_ne_nil options),
    List.head?_filter, optionAt?]

section Symbols

variable {symbols : List (List Char)} (some_symbol : symbols.filter (· ≠ []) ≠ [])
include some_symbol

/-- Symbols have a pattern where one of them is not empty. -/
lemma pattern?_symbol : (symbol symbols).pattern? =
    some (sequenceOf [opening, choiceOf ((alternatives (symbols.filter (· ≠ []))).map ofText)]) := by
  rw [pattern?]
  split
  · next nothing => exact absurd nothing some_symbol
  · rfl

/-- The symbol that a text begins with is an option that it begins with. -/
lemma symbolAt_eq : symbolAt symbols s = (optionAt? (symbols.filter (· ≠ [])) s).getD [] := by
  rw [symbolAt]
  split
  · next nothing => exact absurd nothing some_symbol
  · rfl

end Symbols

/-- The first match of the pattern of a class begins where a text begins, and it is what the class matches. Where
there is no match, the class matches nothing. -/
lemma search_of_pattern? {sought : Class} {p : Pattern} (given : sought.pattern? = some p) (s : List Char) :
    p.search s = some ([], sought.matchAt s) ∨ p.search s = none ∧ sought.matchAt s = [] := by
  have found_or_none {found : List Char} :
      (if found = [] then none else some (([] : List Char), found)) = some ([], found) ∨
        (if found = [] then none else some (([] : List Char), found)) = none ∧ found = [] := by
    by_cases nothing : found = []
    · exact .inr ⟨if_pos nothing, nothing⟩
    · exact .inl (if_neg nothing)
  cases sought with
  | blanks =>
    cases given
    exact .inl search_blanks
  | name =>
    cases given
    rw [search_name]
    exact found_or_none
  | word =>
    cases given
    rw [search_word]
    exact found_or_none
  | literal =>
    cases given
    rw [search_literal]
    exact found_or_none
  | numeral =>
    cases given
    rw [search_numeral, matchAt, numeralAt]
    split
    · exact .inl rfl
    · exact .inr ⟨rfl, rfl⟩
  | wholeWord =>
    cases given
    rw [search_wholeWord, matchAt, wholeWordAt]
    by_cases all : s.all isWordChar = true
    · rw [if_pos all]
      by_cases nothing : s = []
      · exact .inr ⟨if_neg fun both => both.1 nothing, nothing⟩
      · exact .inl (if_pos ⟨nothing, all⟩)
    · rw [if_neg all]
      exact .inr ⟨if_neg fun both => all both.2, rfl⟩
  | symbol symbols =>
    by_cases nothing : symbols.filter (· ≠ []) = []
    · rw [pattern?, nothing] at given
      cases given
    · rw [pattern?_symbol nothing] at given
      cases given
      rw [search_options, matchAt, symbolAt_eq nothing]
      cases optionAt? (symbols.filter (· ≠ [])) s with
      | none => exact .inr ⟨rfl, rfl⟩
      | some option => exact .inl rfl
  | character => cases given

end Class

namespace Cursor

/-- Passes over the match that a search gives in the rest, where an empty match counts as none. There is no answer if
the match begins behind the cursor. -/
def readMatch (search : List Char → Option (List Char × List Char)) (c : Cursor) :
    Option (Option (Token × Cursor)) :=
  match search c.rest with
  | none => some none
  | some (before, found) =>
    if before ≠ [] then none
    else some (if found = [] then none else some (c.advance (Text.byteLength found)))

/-- A pattern without its anchor is found behind the cursor. -/
example : (ofSource "1a").readMatch (Pattern.plus Pattern.letters).search = none := by decide

/-- The match of the pattern of a class never begins behind the cursor, and to read it is to read the class. -/
theorem readMatch_search {sought : Class} {p : Pattern} (given : sought.pattern? = some p) (c : Cursor) :
    c.readMatch p.search = some (c.readClass? sought.matchAt) := by
  rw [readMatch, readClass?]
  rcases Class.search_of_pattern? given c.rest with found | ⟨none, nothing⟩
  · rw [found]
    exact if_neg fun behind => behind rfl
  · rw [none, nothing]
    rfl

/-- The same holds of the group of symbols that a lawful engine compiles. -/
theorem readMatch_alternation {e : Engine} (lawful : e.Lawful) {symbols : List (List Char)}
    (some_symbol : symbols.filter (· ≠ []) ≠ []) :
    ∃ compiled, e.alternation (symbols.filter (· ≠ [])) Engine.start = some compiled ∧
      ∀ c : Cursor, c.readMatch (e.find? compiled) = some (c.readClass? (symbolAt symbols)) := by
  obtain ⟨compiled, compiles, finds⟩ := lawful.find?_start (symbols.filter (· ≠ []))
  refine ⟨compiled, compiles, fun c => ?_⟩
  have found : e.find? compiled = (Pattern.sequenceOf [.opening,
      .choiceOf ((alternatives (symbols.filter (· ≠ []))).map .ofText)]).search := by
    funext s
    rw [finds, Class.search_options]
  rw [found]
  exact readMatch_search (Class.pattern?_symbol some_symbol) c

end Cursor

end Formula.Lexer
