import Formula.Proofs.Lexing.Longest
import Formula.Proofs.Lexing.Place
import Mathlib.Data.List.Infix

/-!
# Cutting a text

Where a text is cut behind its first token, or anywhere later, the token stays the same: each class of tokens
is *steady*, and so is the first match of several steady classes. A lexeme holds no blank, so a text that goes
on with a blank can be cut before it. Hence a token is a lexeme by itself, whatever came after it where it was
found.
-/

namespace Formula.Lexer

/-- What a class finds, it finds again where the text is cut behind it. -/
def Steady (classAt : List Char → List Char) : Prop :=
  ∀ s s' : List Char, s' <+: s → classAt s <+: s' → classAt s' = classAt s

section Classes

/-- Taking the characters of a kind is steady. -/
lemma steady_takeWhile (p : Char → Bool) : Steady (·.takeWhile p) := by
  rintro s _ start ⟨more, rfl⟩
  have later : more <+: s.dropWhile p := by
    have whole : s.takeWhile p ++ more <+: s.takeWhile p ++ s.dropWhile p := by
      rwa [List.takeWhile_append_dropWhile]
    exact (List.prefix_append_right_inj _).mp whole
  refine takeWhile_append_of_ends (fun c => List.mem_takeWhile_imp) fun c next => ?_
  -- what comes after the match begins as what the class left
  obtain ⟨rest, left⟩ := later
  cases more with
  | nil => cases next
  | cons first others =>
    cases next
    have head := List.head?_dropWhile_not p s
    rw [← left] at head
    exact head

/-- Digits are found again where a text is cut behind them. -/
lemma steady_digits : Steady Number.Numeral.digits := steady_takeWhile Char.isDigit

/-- A point and the digits after it, if there are any. -/
def fractionAt : List Char → List Char
  | '.' :: s => if Number.Numeral.digits s = [] then [] else '.' :: Number.Numeral.digits s
  | _ => []

/-- A literal is digits and what is found of a fraction behind them. -/
lemma literalAt_eq (s : List Char) : literalAt s =
    if Number.Numeral.digits s = [] then []
    else Number.Numeral.digits s ++ fractionAt (Number.Numeral.afterDigits s) := by
  simp only [literalAt]
  split
  · rfl
  · split
    · next point =>
      rw [point, fractionAt]
      split
      · rw [List.append_nil]
      · rfl
    · next no_point =>
      rw [fractionAt]
      · rw [List.append_nil]
      · exact no_point

/-- A fraction is found again where a text is cut behind it. -/
lemma steady_fractionAt : Steady fractionAt := by
  intro s s' start inside
  cases s' with
  | nil => exact (List.prefix_nil.mp inside).symm
  | cons c t' =>
    obtain ⟨rest, rfl⟩ := start
    by_cases point : c = '.'
    · subst point
      have digits : Number.Numeral.digits t' = Number.Numeral.digits (t' ++ rest) := by
        refine steady_digits _ _ (List.prefix_append _ _) ?_
        simp only [List.cons_append, fractionAt] at inside
        split at inside
        · next none =>
          rw [none]
          exact List.nil_prefix
        · exact (List.prefix_cons_inj _).mp inside
      rw [List.cons_append, fractionAt, fractionAt, digits]
    · have none (t : List Char) : fractionAt (c :: t) = [] := by
        unfold fractionAt
        split
        · next same => exact absurd (List.cons.inj same).1 point
        · rfl
      rw [List.cons_append, none, none]

/-- A literal is found again where a text is cut behind it. -/
lemma steady_literalAt : Steady literalAt := by
  intro s s' start inside
  have digits : Number.Numeral.digits s' = Number.Numeral.digits s := by
    refine steady_digits s s' start (List.IsPrefix.trans ?_ inside)
    rw [literalAt_eq]
    split
    · next none => rw [none]
    · exact List.prefix_append _ _
  have whole (t : List Char) : Number.Numeral.digits t ++ Number.Numeral.afterDigits t = t :=
    List.takeWhile_append_dropWhile
  rw [literalAt_eq s, ← whole s', digits] at inside
  rw [← whole s, ← whole s', digits, List.prefix_append_right_inj] at start
  rw [literalAt_eq, literalAt_eq, digits]
  split
  · rfl
  · next some_digit =>
    rw [if_neg some_digit, List.prefix_append_right_inj] at inside
    rw [steady_fractionAt _ _ start inside]

/-- A variable is found again where a text is cut behind it. -/
lemma steady_variableAt : Steady variableAt := by
  intro s s' start inside
  obtain ⟨rest, rfl⟩ := start
  rcases s' with _ | ⟨first, _ | ⟨second, t⟩⟩
  · exact (List.prefix_nil.mp inside).symm
  · -- a variable has two characters at least
    have short := inside.length_le
    unfold variableAt at short ⊢
    split
    · next same => cases same
    · split
      · next same =>
        split
        · next word =>
          rw [same] at short
          simp [word] at short
        · rfl
      · rfl
  · by_cases starts : first = ':' ∧ isWordChar second = true
    · obtain ⟨rfl, word⟩ := starts
      simp only [List.cons_append, variableAt, word, ↓reduceIte, List.prefix_cons_inj] at inside ⊢
      have name := steady_takeWhile isNameChar (t ++ rest) t (List.prefix_append _ _) inside
      exact congrArg (':' :: second :: ·) name
    · have none (u : List Char) : variableAt (first :: second :: u) = [] := by
        unfold variableAt
        split
        · next same =>
          cases same
          rw [if_neg fun word => starts ⟨rfl, word⟩]
        · rfl
      rw [List.cons_append, List.cons_append, none, none]

/-- Taking a number of characters is steady. -/
lemma steady_take (n : Nat) : Steady (·.take n) := by
  intro s s' start inside
  have there := start.take n
  have back := List.IsPrefix.take inside n
  rw [List.take_take, Nat.min_self] at back
  exact there.eq_of_length_le back.length_le

end Classes

/-- The first match of several classes that is not empty. -/
def firstMatch (classes : List (List Char → List Char)) (s : List Char) : List Char :=
  ((classes.map (· s)).find? (· ≠ [])).getD []

/-- The first class decides where it finds something, and else the others do. -/
lemma firstMatch_cons (classAt : List Char → List Char) (classes : List (List Char → List Char))
    (s : List Char) :
    firstMatch (classAt :: classes) s = if classAt s = [] then firstMatch classes s else classAt s := by
  simp only [firstMatch, List.map_cons, List.find?_cons]
  split <;> simp_all

/-- The first match is steady: where the text is cut behind it, it is found, and no earlier class matches. -/
lemma steady_firstMatch {classes : List (List Char → List Char)}
    (h : ∀ classAt ∈ classes, Steady classAt) : Steady (firstMatch classes) := by
  induction classes with
  | nil => exact fun _ _ _ _ => rfl
  | cons classAt classes ih =>
    intro s s' start inside
    have first := h classAt List.mem_cons_self s s' start
    have others := ih (fun other member => h other (List.mem_cons_of_mem _ member)) s s' start
    rw [firstMatch_cons] at inside
    rw [firstMatch_cons, firstMatch_cons]
    split at inside
    · next none =>
      rw [first (none ▸ List.nil_prefix), if_pos none, if_pos none, others inside]
    · next found =>
      rw [first inside, if_neg found, if_neg found]

variable {symbols : List (List Char)} {s s' rest text : List Char}

/-- Where a text is cut behind its first lexeme, the lexeme stays the same. -/
lemma lexemeAt_of_cut (start : s' <+: s) (inside : lexemeAt symbols s <+: s') :
    lexemeAt symbols s' = lexemeAt symbols s := by
  have steady : Steady (firstMatch ((Class.ofTokens symbols).map Class.matchAt)) := by
    refine steady_firstMatch ?_
    simp only [Class.ofTokens, List.map_cons, List.map_nil, List.forall_mem_cons]
    exact ⟨steady_variableAt, steady_takeWhile isWordChar, steady_literalAt,
      fun _ _ => symbolAt_of_cut, steady_take 1, List.forall_mem_nil _⟩
  exact steady s s' start inside

/-- No character is a blank. -/
def Unbroken (s : List Char) : Prop := ∀ c ∈ s, Text.isBlank c = false

instance : DecidablePred Unbroken := fun s => List.decidableBAll _ s

section Unbroken

variable {p : Char → Bool}

/-- No blank stands among characters that may occur in names. -/
lemma unbroken_takeWhile (names : ∀ c, p c = true → isNameChar c = true) (s : List Char) :
    Unbroken (s.takeWhile p) :=
  fun c member => isBlank_of_isNameChar (names c (List.mem_takeWhile_imp member))

/-- No blank stands among digits. -/
lemma unbroken_digits (s : List Char) : Unbroken (Number.Numeral.digits s) :=
  unbroken_takeWhile (fun _ => isNameChar_of_isDigit) s

/-- No blank stands in a literal. -/
lemma unbroken_literalAt (s : List Char) : Unbroken (literalAt s) := by
  have fraction (t : List Char) : Unbroken (fractionAt t) := by
    unfold fractionAt
    split
    · split
      · exact List.forall_mem_nil _
      · exact List.forall_mem_cons.mpr ⟨by decide, unbroken_digits _⟩
    · exact List.forall_mem_nil _
  rw [literalAt_eq]
  split
  · exact List.forall_mem_nil _
  · exact List.forall_mem_append.mpr ⟨unbroken_digits s, fraction _⟩

/-- No blank stands in a variable. -/
lemma unbroken_variableAt (s : List Char) : Unbroken (variableAt s) := by
  unfold variableAt
  split
  · split
    · next word =>
      refine List.forall_mem_cons.mpr ⟨by decide, List.forall_mem_cons.mpr ⟨?_, ?_⟩⟩
      · exact isBlank_of_isNameChar (isNameChar_of_isWordChar word)
      · exact unbroken_takeWhile (fun _ name => name) _
    · exact List.forall_mem_nil _
  · exact List.forall_mem_nil _

/-- Where no symbol holds a blank, neither does a lexeme. -/
lemma unbroken_lexemeAt (unbroken : ∀ symbol ∈ symbols, Unbroken symbol)
    (starts : ∀ c ∈ s.head?, Text.isBlank c = false) : Unbroken (lexemeAt symbols s) := by
  have matched : ∀ found ∈ candidates symbols s, Unbroken found := by
    simp only [candidates, Class.ofTokens, List.map_cons, List.map_nil, List.forall_mem_cons, Class.matchAt]
    refine ⟨unbroken_variableAt s, unbroken_takeWhile (fun _ => isNameChar_of_isWordChar) s,
      unbroken_literalAt s, ?_, ?_, List.forall_mem_nil _⟩
    · rcases symbolAt_eq_nil_or_mem symbols s with none | member
      · rw [none]
        exact List.forall_mem_nil _
      · exact unbroken _ member
    · cases s with
      | nil => exact List.forall_mem_nil _
      | cons c s => exact List.forall_mem_singleton.mpr (starts c rfl)
  unfold lexemeAt
  cases found : (candidates symbols s).find? (· ≠ []) with
  | none => exact List.forall_mem_nil _
  | some lexeme => exact matched lexeme (List.mem_of_find?_eq_some found)

/-- What holds no blank ends before the first one. -/
lemma Unbroken.isPrefix_of_stops (unbroken : Unbroken text) (stops : Stops rest)
    (start : text <+: s ++ rest) : text <+: s := by
  rcases List.prefix_or_prefix_of_prefix start (List.prefix_append s rest) with within | ⟨more, rfl⟩
  · exact within
  · obtain ⟨after, whole⟩ := (List.prefix_append_right_inj s).mp start
    cases more with
    | nil => rw [List.append_nil]
    | cons c others =>
      -- the text would go on with the blank
      have blank := stops c (by rw [← whole]; rfl)
      rw [unbroken c (by simp)] at blank
      cases blank

end Unbroken

/-- The first lexeme is the same whatever comes after a blank. -/
lemma lexemeAt_append_of_stops (unbroken : ∀ symbol ∈ symbols, Unbroken symbol) (stops : Stops rest)
    (some_text : s ≠ []) (starts : ∀ c ∈ s.head?, Text.isBlank c = false) :
    lexemeAt symbols (s ++ rest) = lexemeAt symbols s := by
  have starts' : ∀ c ∈ (s ++ rest).head?, Text.isBlank c = false := by
    rwa [List.head?_append_of_ne_nil _ some_text]
  have inside := (unbroken_lexemeAt unbroken starts').isPrefix_of_stops stops
    (lexemeAt_isPrefix symbols (s ++ rest))
  exact (lexemeAt_of_cut (List.prefix_append s rest) inside).symm

/-- What is found as a token anywhere is a lexeme by itself. -/
lemma isLexeme_of_lexemeAt (unbroken : ∀ symbol ∈ symbols, Unbroken symbol) {first : Char}
    {others : List Char} (found : lexemeAt symbols s = first :: others)
    (no_blank : Text.isBlank first = false) : IsLexeme symbols (String.ofList (first :: others)) where
  starts := ⟨first, others, String.toList_ofList, no_blank⟩
  alone rest stops := by
    have alone : lexemeAt symbols (lexemeAt symbols s) = lexemeAt symbols s :=
      lexemeAt_of_cut (lexemeAt_isPrefix symbols s) List.prefix_rfl
    rw [found] at alone
    have starts : ∀ c ∈ (first :: others).head?, Text.isBlank c = false := by
      rintro c ⟨⟩
      exact no_blank
    rw [String.toList_ofList, lexemeAt_append_of_stops unbroken stops (List.cons_ne_nil _ _) starts,
      alone]

end Formula.Lexer
