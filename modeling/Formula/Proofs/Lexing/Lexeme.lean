import Formula.Proofs.Lexing.Spaced

/-!
# Lexemes

Which words are lexemes wherever a blank or the end of a text comes after them: names with a colon, words,
literals, and single characters where no symbol is longer.
-/

namespace Formula.Lexer

section Character

variable {c : Char}

/-- The characters of words are letters and the underscore. -/
lemma toNat_of_isWordChar (h : isWordChar c = true) :
    (65 ≤ c.toNat ∧ c.toNat ≤ 90) ∨ (97 ≤ c.toNat ∧ c.toNat ≤ 122) ∨ c.toNat = 95 := by
  rcases Bool.or_eq_true_iff.mp h with letter | underscore
  · rcases Bool.or_eq_true_iff.mp letter with upper | lower
    · exact .inl (of_decide_eq_true upper)
    · obtain ⟨low, high⟩ := Bool.and_eq_true_iff.mp lower
      exact .inr (.inl ⟨of_decide_eq_true low, of_decide_eq_true high⟩)
  · exact .inr (.inr (congrArg Char.toNat (eq_of_beq underscore)))

/-- The letters and the underscore are in the ranges of a word, by their numbers. -/
lemma isWordChar_of_toNat
    (h : (65 ≤ c.toNat ∧ c.toNat ≤ 90) ∨ (97 ≤ c.toNat ∧ c.toNat ≤ 122) ∨ c.toNat = 95) :
    isWordChar c = true := by
  rcases h with upper | ⟨low, high⟩ | underscore
  · exact Bool.or_eq_true_iff.mpr (.inl (Bool.or_eq_true_iff.mpr (.inl (decide_eq_true upper))))
  · have lower := Bool.and_eq_true_iff.mpr ⟨decide_eq_true low, decide_eq_true high⟩
    exact Bool.or_eq_true_iff.mpr (.inl (Bool.or_eq_true_iff.mpr (.inr lower)))
  · have same : c.toNat = Char.toNat '_' := underscore
    rw [Char.toNat_inj.mp same]
    rfl

/-- The numbers of the digits are in their range. -/
lemma toNat_of_isDigit (h : c.isDigit = true) : 48 ≤ c.toNat ∧ c.toNat ≤ 57 :=
  Char.isDigit_iff_toNat.mp h

/-- No character of a name is blank. -/
lemma isBlank_of_isNameChar (h : isNameChar c = true) : Text.isBlank c = false := by
  have range : 48 ≤ c.toNat ∧ c.toNat ≤ 122 := by
    rcases Bool.or_eq_true_iff.mp h with word | digit
    · have := toNat_of_isWordChar word
      omega
    · have := toNat_of_isDigit digit
      omega
  simp only [Text.isBlank, Bool.or_eq_false_iff, Bool.and_eq_false_iff, decide_eq_false_iff_not,
    beq_eq_false_iff_ne]
  omega

/-- Names may hold what words hold. -/
lemma isNameChar_of_isWordChar (h : isWordChar c = true) : isNameChar c = true := by
  rw [isNameChar, h, Bool.true_or]

/-- Names may hold digits. -/
lemma isNameChar_of_isDigit (h : c.isDigit = true) : isNameChar c = true := by
  rw [isNameChar, h, Bool.or_true]

/-- Words hold no digits. -/
lemma isWordChar_of_isDigit (h : c.isDigit = true) : isWordChar c = false := by
  by_contra word
  have letter := toNat_of_isWordChar (by simpa using word)
  have digit := toNat_of_isDigit h
  omega

end Character

section Taking

variable {p : Char → Bool} {word rest : List Char}

/-- A run of characters of a kind ends before what does not begin with one. -/
lemma takeWhile_append_of_ends (all : ∀ c ∈ word, p c = true) (ends : ∀ c ∈ rest.head?, p c = false) :
    (word ++ rest).takeWhile p = word := by
  rw [List.takeWhile_append_of_pos all]
  cases rest with
  | nil => exact List.append_nil word
  | cons c rest => rw [List.takeWhile_cons_of_neg (by simp [ends c rfl]), List.append_nil]

/-- Behind all characters of a kind comes what does not begin with one. -/
lemma dropWhile_append_of_ends (all : ∀ c ∈ word, p c = true) (ends : ∀ c ∈ rest.head?, p c = false) :
    (word ++ rest).dropWhile p = rest := by
  rw [List.dropWhile_append_of_pos all]
  cases rest with
  | nil => rfl
  | cons c rest => rw [List.dropWhile_cons_of_neg (by simp [ends c rfl])]

/-- What consists of characters of names ends before a blank. -/
lemma Stops.ends (stops : Stops rest) (names : ∀ c, p c = true → isNameChar c = true) :
    ∀ c ∈ rest.head?, p c = false := by
  intro c next
  by_contra taken
  have blank := stops c next
  rw [isBlank_of_isNameChar (names c (by simpa using taken))] at blank
  cases blank

end Taking

section Candidates

variable {symbols : List (List Char)} {s : List Char}

/-- What begins with a variable is read as one. -/
lemma lexemeAt_of_variable (h : variableAt s ≠ []) : lexemeAt symbols s = variableAt s := by
  simp [lexemeAt, candidates, Class.ofTokens, Class.matchAt, h]

/-- What is no variable is read as a word if it is one. -/
lemma lexemeAt_of_word (no_variable : variableAt s = []) (h : wordAt s ≠ []) :
    lexemeAt symbols s = wordAt s := by
  simp [lexemeAt, candidates, Class.ofTokens, Class.matchAt, no_variable, h]

/-- What is no variable and no word is read as a literal if it is one. -/
lemma lexemeAt_of_literal (no_variable : variableAt s = []) (no_word : wordAt s = [])
    (h : literalAt s ≠ []) : lexemeAt symbols s = literalAt s := by
  simp [lexemeAt, candidates, Class.ofTokens, Class.matchAt, no_variable, no_word, h]

/-- A variable begins with a colon. -/
lemma variableAt_of_ne {c : Char} (h : c ≠ ':') : variableAt (c :: s) = [] := by
  unfold variableAt
  split
  · next same =>
    cases same
    exact absurd rfl h
  · rfl

/-- Inserting an option adds it to the others. -/
lemma mem_insertOption {option other : List Char} {options : List (List Char)} :
    other ∈ insertOption option options ↔ other = option ∨ other ∈ options := by
  induction options with
  | nil => simp [insertOption]
  | cons first rest ih =>
    rw [insertOption]
    split
    · simp
    · simp only [List.mem_cons, ih]
      exact or_left_comm

/-- Sorting keeps the options. -/
lemma mem_longestFirst {option : List Char} {options : List (List Char)} :
    option ∈ longestFirst options ↔ option ∈ options := by
  induction options with
  | nil => simp [longestFirst]
  | cons first rest ih =>
    rw [longestFirst, List.foldr_cons, mem_insertOption, List.mem_cons]
    exact or_congr_right ih

/-- The symbol that a text begins with is one of the symbols, if there is one. -/
lemma symbolAt_eq_nil_or_mem (symbols : List (List Char)) (s : List Char) :
    symbolAt symbols s = [] ∨ symbolAt symbols s ∈ symbols := by
  unfold symbolAt
  split
  · exact .inl rfl
  · next some_symbol =>
    cases found : optionAt? (symbols.filter (· ≠ [])) s with
    | none => exact .inl rfl
    | some option =>
      have member := List.mem_of_find?_eq_some found
      rw [alternatives, if_neg some_symbol, mem_longestFirst] at member
      exact .inr (List.mem_filter.mp member |>.1)

/-- Where no symbol is longer than a character, a character that begins no other class is a lexeme. -/
lemma lexemeAt_of_single {c : Char} (short : symbols.all (·.length ≤ 1) = true)
    (no_colon : c ≠ ':') (no_name : isNameChar c = false) : lexemeAt symbols (c :: s) = [c] := by
  obtain ⟨no_word, no_digit⟩ := Bool.or_eq_false_iff.mp no_name
  have word : wordAt (c :: s) = [] := by simp [wordAt, no_word]
  have literal : literalAt (c :: s) = [] := by simp [literalAt, Number.Numeral.digits, no_digit]
  have symbol : symbolAt symbols (c :: s) = [] ∨ symbolAt symbols (c :: s) = [c] := by
    rcases symbolAt_eq_nil_or_mem symbols (c :: s) with none | member
    · exact .inl none
    · have length := of_decide_eq_true (List.all_eq_true.mp short _ member)
      obtain ⟨after, whole⟩ := symbolAt_isPrefix symbols (c :: s)
      -- a beginning of `c :: s` with at most one character is empty or `c`
      generalize symbolAt symbols (c :: s) = found at length whole ⊢
      rcases found with _ | ⟨first, _ | ⟨second, others⟩⟩
      · exact .inl rfl
      · cases whole
        exact .inr rfl
      · simp at length
  rcases symbol with symbol | symbol <;>
    simp [lexemeAt, candidates, Class.ofTokens, Class.matchAt, variableAt_of_ne no_colon, word, literal, symbol]

end Candidates

/-- A name with a colon before it. -/
structure Name where
  head : Char
  tail : List Char
  isWordChar_head : isWordChar head = true
  isNameChar_tail : ∀ c ∈ tail, isNameChar c = true

def Name.text (n : Name) : String := String.ofList (':' :: n.head :: n.tail)

/-- Digits, perhaps with a point and digits after it. -/
structure Literal where
  whole : List Char
  /-- The digits after the point; without any, there is no point. -/
  fraction : List Char
  whole_ne_nil : whole ≠ []
  isDigit_whole : ∀ c ∈ whole, c.isDigit = true
  isDigit_fraction : ∀ c ∈ fraction, c.isDigit = true

def Literal.text (l : Literal) : String :=
  String.ofList (l.whole ++ if l.fraction = [] then [] else '.' :: l.fraction)

/-- The literal of some digits without a point. -/
def Literal.ofDigits (whole : List Char) (some_digit : whole ≠ []) (digits : ∀ c ∈ whole, c.isDigit = true) :
    Literal :=
  ⟨whole, [], some_digit, digits, List.forall_mem_nil _⟩

/-- Without a point there are only the digits. -/
@[simp]
lemma Literal.text_ofDigits {whole : List Char} {some_digit : whole ≠ []} {digits : ∀ c ∈ whole, c.isDigit = true} :
    (ofDigits whole some_digit digits).text = String.ofList whole :=
  congrArg String.ofList (List.append_nil whole)

variable {symbols : List (List Char)}

/-- A variable is a token by itself. -/
lemma Name.isLexeme (n : Name) : IsLexeme symbols n.text where
  starts := ⟨':', n.head :: n.tail, String.toList_ofList, by decide⟩
  alone rest stops := by
    have taken := takeWhile_append_of_ends n.isNameChar_tail (stops.ends fun _ name => name)
    have found : variableAt (n.text.toList ++ rest) = n.text.toList := by
      simp [text, variableAt, n.isWordChar_head, taken]
    rw [lexemeAt_of_variable (by rw [found, text]; simp), found]

/-- A word is some characters of words. -/
lemma isWord_iff {word : String} :
    isWord word = true ↔ word.toList ≠ [] ∧ ∀ c ∈ word.toList, isWordChar c = true := by
  simp only [isWord, Bool.and_eq_true, Bool.not_eq_true', List.isEmpty_eq_false_iff, List.all_eq_true]

/-- A word has a first character. -/
lemma exists_of_isWord {word : String} (h : isWord word = true) :
    ∃ c others, word.toList = c :: others ∧ isWordChar c = true := by
  obtain ⟨some_char, all⟩ := isWord_iff.mp h
  obtain ⟨c, others, starts⟩ := List.exists_cons_of_ne_nil some_char
  exact ⟨c, others, starts, all c (by simp [starts])⟩

/-- A character of words differs from those that are none. -/
lemma ne_of_isWordChar {c d : Char} (word : isWordChar c = true) (other : isWordChar d = false) :
    c ≠ d := by
  rintro rfl
  rw [word] at other
  cases other

/-- A word is a token by itself. -/
lemma isLexeme_of_isWord {word : String} (h : isWord word = true) : IsLexeme symbols word := by
  obtain ⟨c, others, starts, word_char⟩ := exists_of_isWord h
  refine ⟨⟨c, others, starts, isBlank_of_isNameChar (isNameChar_of_isWordChar word_char)⟩, ?_⟩
  intro rest stops
  have taken : wordAt (word.toList ++ rest) = word.toList :=
    takeWhile_append_of_ends (isWord_iff.mp h).2 (stops.ends fun _ => isNameChar_of_isWordChar)
  rw [lexemeAt_of_word _ (by rw [taken]; exact (isWord_iff.mp h).1), taken]
  rw [starts]
  exact variableAt_of_ne (ne_of_isWordChar word_char (by decide))

/-- Tells whether a text is a single character that begins no other class. -/
def isSingle (text : String) : Bool :=
  match text.toList with
  | [c] => !Text.isBlank c && c != ':' && !isNameChar c
  | _ => false

/-- A single character that begins no other class is a lexeme, where no symbol is longer. -/
lemma isLexeme_of_isSingle {word : String} (h : isSingle word = true)
    (short : symbols.all (·.length ≤ 1) = true) : IsLexeme symbols word := by
  unfold isSingle at h
  split at h
  · next c single =>
    simp only [Bool.and_eq_true, Bool.not_eq_true', bne_iff_ne] at h
    obtain ⟨⟨no_blank, no_colon⟩, no_name⟩ := h
    refine ⟨⟨c, [], single, no_blank⟩, fun rest _ => ?_⟩
    rw [single]
    exact lexemeAt_of_single short no_colon no_name
  · cases h

/-- A literal begins with a digit. -/
lemma Literal.starts (l : Literal) :
    ∃ c rest, l.text.toList = c :: rest ∧ c.isDigit = true := by
  obtain ⟨c, others, starts⟩ := List.exists_cons_of_ne_nil l.whole_ne_nil
  refine ⟨c, others ++ if l.fraction = [] then [] else '.' :: l.fraction, ?_,
    l.isDigit_whole c (by simp [starts])⟩
  rw [text, String.toList_ofList, starts, List.cons_append]

/-- A literal is read as far as the blank after it. -/
lemma Literal.literalAt_append (l : Literal) {rest : List Char} (stops : Stops rest) :
    literalAt (l.text.toList ++ rest) = l.text.toList := by
  rw [text, String.toList_ofList]
  have rest_ends := stops.ends (p := Char.isDigit) fun _ => isNameChar_of_isDigit
  by_cases no_point : l.fraction = []
  · have digits := takeWhile_append_of_ends l.isDigit_whole rest_ends
    have after := dropWhile_append_of_ends l.isDigit_whole rest_ends
    simp only [no_point, ↓reduceIte, List.append_nil, literalAt, Number.Numeral.digits,
      Number.Numeral.afterDigits, digits, after, l.whole_ne_nil]
    split
    · -- a point is no blank, so none comes after the digits
      exact absurd (stops '.' rfl) (by decide)
    · rfl
  · have point_ends : ∀ c ∈ ('.' :: (l.fraction ++ rest)).head?, c.isDigit = false := by
      rintro c ⟨⟩
      decide
    have digits := takeWhile_append_of_ends l.isDigit_whole point_ends
    have after := dropWhile_append_of_ends l.isDigit_whole point_ends
    have fraction := takeWhile_append_of_ends l.isDigit_fraction rest_ends
    simp only [no_point, ↓reduceIte, List.append_assoc, List.cons_append, literalAt,
      Number.Numeral.digits, Number.Numeral.afterDigits, digits, after, fraction, l.whole_ne_nil]

/-- A literal is a token by itself. -/
lemma Literal.isLexeme (l : Literal) : IsLexeme symbols l.text := by
  obtain ⟨c, others, starts, digit⟩ := l.starts
  have no_colon : c ≠ ':' := by
    rintro rfl
    revert digit
    decide
  refine ⟨⟨c, others, starts, isBlank_of_isNameChar (isNameChar_of_isDigit digit)⟩, ?_⟩
  intro rest stops
  have found := l.literalAt_append stops
  rw [lexemeAt_of_literal _ _ (by rw [found, starts]; nofun), found]
  · rw [starts]
    exact variableAt_of_ne no_colon
  · rw [starts]
    simp [wordAt, isWordChar_of_isDigit digit]

end Formula.Lexer
