import Formula.Proofs.Extension
import Mathlib.Computability.Language

/-!
# Token classes as languages

Each class of tokens is a regular language, and finds the longest beginning of a text that is in it: `Finds`
says so of each of the five classes. Hence a token is the longest match of the first class that has one
(`tokens_firstLongest`), and it does not matter in which order the symbols are listed.
-/

open scoped Computability

namespace Formula.Lexer

/-- The longest beginning of a text that is in a language. -/
structure IsLongest (l : Language Char) (s w : List Char) : Prop where
  mem : w ∈ l
  isPrefix : w <+: s
  length_le : ∀ v ∈ l, v <+: s → v.length ≤ w.length

/-- The longest match of the first language in which a text has one. -/
inductive FirstLongest (s w : List Char) : List (Language Char) → Prop where
  | here {l ls} :
    IsLongest l s w →
    FirstLongest s w (l :: ls)
  | later {l ls} :
    (∀ v ∈ l, ¬ v <+: s) →
    FirstLongest s w ls →
    FirstLongest s w (l :: ls)

/-- There is only one longest match. -/
lemma IsLongest.unique {l : Language Char} {s w w' : List Char} (h : IsLongest l s w)
    (h' : IsLongest l s w') : w = w' := by
  have same := le_antisymm (h'.length_le w h.mem h.isPrefix) (h.length_le w' h'.mem h'.isPrefix)
  exact (List.prefix_of_prefix_length_le h.isPrefix h'.isPrefix same.le).eq_of_length same

/-- There is only one longest match of the first language that has one. -/
lemma FirstLongest.unique {ls : List (Language Char)} {s w w' : List Char} (h : FirstLongest s w ls)
    (h' : FirstLongest s w' ls) : w = w' := by
  induction h with
  | here longest =>
    cases h' with
    | here longest' => exact longest.unique longest'
    | later none _ => exact absurd longest.isPrefix (none _ longest.mem)
  | later none _ ih =>
    cases h' with
    | here longest' => exact absurd longest'.isPrefix (none _ longest'.mem)
    | later _ first => exact ih first

/-- What consists of some characters is within all of them that a text begins with. -/
lemma isPrefix_takeWhile {p : Char → Bool} {w s : List Char} (all : ∀ c ∈ w, p c = true)
    (start : w <+: s) : w <+: s.takeWhile p := by
  obtain ⟨rest, rfl⟩ := start
  rw [List.takeWhile_append_of_pos all]
  exact List.prefix_append _ _

namespace Regular

/-- One character, of those from one to another. -/
def range (first last : Char) : Language Char := {w | ∃ c, first ≤ c ∧ c ≤ last ∧ w = [c]}

/-- A letter or an underscore. -/
def letter : Language Char := range 'A' 'Z' + range 'a' 'z' + {['_']}

def digit : Language Char := range '0' '9'

/-- A colon, a letter, and any letters and digits. -/
def names : Language Char := {[':']} * letter * (letter + digit)∗

/-- Letters. -/
def words : Language Char := letter * letter∗

/-- Digits, and perhaps a point and more digits. -/
def literals : Language Char := digit * digit∗ * (1 + {['.']} * (digit * digit∗))

/-- Some symbols, but for the empty one. -/
def signs (symbols : List (List Char)) : Language Char := {w | w ∈ symbols ∧ w ≠ []}

/-- Any single character. -/
def characters : Language Char := {w | ∃ c, w = [c]}

/-- The classes of tokens, the first of which comes first. -/
def classes (symbols : List (List Char)) : List (Language Char) :=
  [names, words, literals, signs symbols, characters]

/-- A language consists of single characters. -/
def Consists (l : Language Char) (p : Char → Bool) : Prop := ∀ w, w ∈ l ↔ ∃ c, p c = true ∧ w = [c]

/-- The language of digits consists of the digits. -/
lemma consists_digit : Consists digit Char.isDigit := by
  intro w
  simp only [Char.isDigit_iff_toNat]
  constructor
  · rintro ⟨c, low, high, rfl⟩
    exact ⟨c, ⟨low, high⟩, rfl⟩
  · rintro ⟨c, ⟨low, high⟩, rfl⟩
    exact ⟨c, low, high, rfl⟩

/-- The language of letters consists of the characters of words. -/
lemma consists_letter : Consists letter isWordChar := by
  intro w
  constructor
  · rintro ((⟨c, low, high, rfl⟩ | ⟨c, low, high, rfl⟩) | rfl)
    · exact ⟨c, isWordChar_of_toNat (.inl ⟨low, high⟩), rfl⟩
    · exact ⟨c, isWordChar_of_toNat (.inr (.inl ⟨low, high⟩)), rfl⟩
    · exact ⟨'_', rfl, rfl⟩
  · rintro ⟨c, word, rfl⟩
    rcases toNat_of_isWordChar word with ⟨low, high⟩ | ⟨low, high⟩ | underscore
    · exact .inl (.inl ⟨c, low, high, rfl⟩)
    · exact .inl (.inr ⟨c, low, high, rfl⟩)
    · have same : c.toNat = Char.toNat '_' := underscore
      rw [Char.toNat_inj.mp same]
      exact .inr rfl

section Consists

variable {l m : Language Char} {p q : Char → Bool} {w : List Char}

/-- Characters of one kind or another consist of single characters. -/
lemma Consists.add (hl : Consists l p) (hm : Consists m q) : Consists (l + m) fun c => p c || q c := by
  intro w
  simp only [Language.mem_add, hl w, hm w, Bool.or_eq_true, or_and_right, exists_or]

/-- The words of a language of single characters. -/
lemma Consists.mem_kstar (h : Consists l p) : w ∈ l∗ ↔ ∀ c ∈ w, p c = true := by
  constructor
  · intro member
    obtain ⟨pieces, rfl, all⟩ := Language.mem_kstar.mp member
    intro c inside
    obtain ⟨piece, listed, inside⟩ := List.mem_flatten.mp inside
    obtain ⟨d, good, rfl⟩ := (h piece).mp (all piece listed)
    rwa [List.mem_singleton.mp inside]
  · intro all
    refine Language.mem_kstar.mpr ⟨w.map ([·]), by simp [← List.flatMap_def], fun piece listed => ?_⟩
    obtain ⟨c, member, rfl⟩ := List.mem_map.mp listed
    exact (h _).mpr ⟨c, all c member, rfl⟩

/-- The words of a language of single characters, but for the empty one. -/
lemma Consists.mem_plus (h : Consists l p) : w ∈ l * l∗ ↔ w ≠ [] ∧ ∀ c ∈ w, p c = true := by
  rw [Language.mem_mul]
  constructor
  · rintro ⟨first, single, others, all, rfl⟩
    obtain ⟨c, good, rfl⟩ := (h first).mp single
    exact ⟨List.cons_ne_nil _ _, List.forall_mem_cons.mpr ⟨good, h.mem_kstar.mp all⟩⟩
  · rintro ⟨some_char, all⟩
    obtain ⟨c, others, rfl⟩ := List.exists_cons_of_ne_nil some_char
    obtain ⟨good, all⟩ := List.forall_mem_cons.mp all
    exact ⟨[c], (h _).mpr ⟨c, good, rfl⟩, others, h.mem_kstar.mpr all, rfl⟩

end Consists

/-- Letters and digits are the characters of names. -/
lemma consists_names : Consists (letter + digit) isNameChar := consists_letter.add consists_digit

/-- Names are a colon, a letter, and any letters and digits. -/
lemma mem_names {w : List Char} : w ∈ names ↔
    ∃ c name, w = ':' :: c :: name ∧ isWordChar c = true ∧ ∀ d ∈ name, isNameChar d = true := by
  simp only [names, Language.mem_mul]
  constructor
  · rintro ⟨_, ⟨_, rfl, first, single, rfl⟩, name, all, rfl⟩
    obtain ⟨c, good, rfl⟩ := (consists_letter first).mp single
    exact ⟨c, name, rfl, good, consists_names.mem_kstar.mp all⟩
  · rintro ⟨c, name, rfl, good, all⟩
    exact ⟨[':', c], ⟨[':'], rfl, [c], (consists_letter _).mpr ⟨c, good, rfl⟩, rfl⟩, name,
      consists_names.mem_kstar.mpr all, rfl⟩

/-- Literals are digits, and perhaps a point and more digits. -/
lemma mem_literals {w : List Char} : w ∈ literals ↔ ∃ whole rest, w = whole ++ rest ∧
    (whole ≠ [] ∧ ∀ c ∈ whole, c.isDigit = true) ∧
      (rest = [] ∨ ∃ fraction, rest = '.' :: fraction ∧ fraction ≠ [] ∧ ∀ c ∈ fraction, c.isDigit = true) := by
  rw [literals, Language.mem_mul]
  constructor
  · rintro ⟨whole, digits, rest, tail, rfl⟩
    refine ⟨whole, rest, rfl, consists_digit.mem_plus.mp digits, ?_⟩
    rcases tail with rfl | tail
    · exact .inl rfl
    · obtain ⟨_, rfl, fraction, digits, rfl⟩ := Language.mem_mul.mp tail
      exact .inr ⟨fraction, rfl, consists_digit.mem_plus.mp digits⟩
  · rintro ⟨whole, rest, rfl, digits, tail⟩
    refine ⟨whole, consists_digit.mem_plus.mpr digits, rest, ?_, rfl⟩
    rcases tail with rfl | ⟨fraction, rfl, digits⟩
    · exact .inl rfl
    · exact .inr (Language.mem_mul.mpr ⟨['.'], rfl, fraction, consists_digit.mem_plus.mpr digits, rfl⟩)

end Regular

section Literals

variable {whole s : List Char} (digits : whole ≠ [] ∧ ∀ c ∈ whole, c.isDigit = true)
include digits

/-- Digits that a text begins with are within the number that it begins with. -/
lemma isPrefix_literalAt (start : whole <+: s) : whole <+: literalAt s := by
  have within : whole <+: Number.Numeral.digits s := isPrefix_takeWhile digits.2 start
  rw [literalAt_eq, if_neg]
  · exact within.trans (List.prefix_append _ _)
  · intro nothing
    exact digits.1 (List.prefix_nil.mp (nothing ▸ within))

/-- A number goes on behind a point if there are digits. -/
lemma literalAt_of_point (some_fraction : Number.Numeral.digits s ≠ []) :
    literalAt (whole ++ '.' :: s) = whole ++ '.' :: Number.Numeral.digits s := by
  have ends : ∀ c ∈ ('.' :: s).head?, c.isDigit = false := by
    rintro c ⟨⟩
    decide
  rw [literalAt_eq, Number.Numeral.digits, Number.Numeral.afterDigits,
    takeWhile_append_of_ends digits.2 ends, dropWhile_append_of_ends digits.2 ends, if_neg digits.1,
    fractionAt, if_neg some_fraction]

end Literals

/-- A class finds the longest beginning of a text that is in a language without the empty text, and nothing
where there is none. -/
structure Finds (classAt : List Char → List Char) (l : Language Char) : Prop where
  isPrefix : ∀ s, classAt s <+: s
  mem : ∀ s, classAt s ≠ [] → classAt s ∈ l
  ne_nil : ∀ w ∈ l, w ≠ []
  length_le : ∀ s, ∀ w ∈ l, w <+: s → w.length ≤ (classAt s).length

namespace Finds

variable {classAt : List Char → List Char} {l : Language Char} {s : List Char}

/-- What a class finds is the longest match of its language. -/
lemma isLongest (h : Finds classAt l) (found : classAt s ≠ []) : IsLongest l s (classAt s) :=
  ⟨h.mem s found, h.isPrefix s, h.length_le s⟩

/-- Where a class finds nothing, no beginning of the text is in its language. -/
lemma none (h : Finds classAt l) (nothing : classAt s = []) : ∀ w ∈ l, ¬ w <+: s := by
  intro w member start
  have short := h.length_le s w member start
  rw [nothing] at short
  exact h.ne_nil w member (List.eq_nil_of_length_eq_zero (Nat.le_zero.mp short))

/-- The first match of several classes is the longest of the first language that has one. -/
lemma firstLongest {classes : List (List Char → List Char)} {ls : List (Language Char)}
    (h : List.Forall₂ Finds classes ls) (found : firstMatch classes s ≠ []) :
    FirstLongest s (firstMatch classes s) ls := by
  induction h with
  | nil => exact absurd rfl found
  | cons first _ ih =>
    rw [firstMatch_cons] at found ⊢
    split
    · next nothing =>
      rw [if_pos nothing] at found
      exact .later (first.none nothing) (ih found)
    · next some_match => exact .here (first.isLongest some_match)

open Regular

/-- The class of variables finds the longest match of its language. -/
lemma names : Finds variableAt names where
  isPrefix := variableAt_isPrefix
  mem s found := by
    unfold variableAt at found ⊢
    split at found
    · next c s =>
      split at found
      · next word =>
        rw [if_pos word]
        exact mem_names.mpr ⟨c, _, rfl, word, fun _ => List.mem_takeWhile_imp⟩
      · exact absurd rfl found
    · exact absurd rfl found
  ne_nil w member := by
    obtain ⟨c, name, rfl, -⟩ := mem_names.mp member
    exact List.cons_ne_nil _ _
  length_le s w member start := by
    obtain ⟨c, name, rfl, word, all⟩ := mem_names.mp member
    obtain ⟨rest, rfl⟩ := start
    have within := isPrefix_takeWhile all (List.prefix_append name rest)
    simpa [variableAt, word] using within.length_le

/-- The class of words finds the longest match of its language. -/
lemma words : Finds wordAt words where
  isPrefix := wordAt_isPrefix
  mem _ found := consists_letter.mem_plus.mpr ⟨found, fun _ => List.mem_takeWhile_imp⟩
  ne_nil _ member := (consists_letter.mem_plus.mp member).1
  length_le _ _ member start :=
    (isPrefix_takeWhile (consists_letter.mem_plus.mp member).2 start).length_le

/-- The class of literals finds the longest match of its language. -/
lemma literals : Finds literalAt literals where
  isPrefix := literalAt_isPrefix
  mem s found := by
    rw [literalAt_eq] at found ⊢
    split at found
    · exact absurd rfl found
    · next some_digit =>
      rw [if_neg some_digit]
      refine mem_literals.mpr ⟨_, _, rfl, ⟨some_digit, fun _ => List.mem_takeWhile_imp⟩, ?_⟩
      unfold fractionAt
      split
      · split
        · exact .inl rfl
        · next some_fraction => exact .inr ⟨_, rfl, some_fraction, fun _ => List.mem_takeWhile_imp⟩
      · exact .inl rfl
  ne_nil w member := by
    obtain ⟨whole, rest, rfl, ⟨some_digit, -⟩, -⟩ := mem_literals.mp member
    exact List.append_ne_nil_of_left_ne_nil some_digit rest
  length_le s w member start := by
    obtain ⟨whole, rest, rfl, digits, tail⟩ := mem_literals.mp member
    rcases tail with rfl | ⟨fraction, rfl, fraction_digits⟩
    · rw [List.append_nil] at start ⊢
      exact (isPrefix_literalAt digits start).length_le
    · obtain ⟨more, rfl⟩ := start
      have within : fraction <+: Number.Numeral.digits (fraction ++ more) :=
        isPrefix_takeWhile fraction_digits.2 (List.prefix_append fraction more)
      rw [List.append_assoc, List.cons_append, literalAt_of_point digits]
      · simpa using within.length_le
      · intro nothing
        exact fraction_digits.1 (List.prefix_nil.mp (nothing ▸ within))

/-- The class of symbols finds the longest match of its language. -/
lemma signs (symbols : List (List Char)) : Finds (symbolAt symbols) (signs symbols) where
  isPrefix := symbolAt_isPrefix symbols
  mem s found := ⟨(symbolAt_eq_nil_or_mem symbols s).resolve_left found, found⟩
  ne_nil _ member := member.2
  length_le _ _ member start := (isPrefix_symbolAt member.1 start).length_le

/-- The class of single characters finds the longest match of its language. -/
lemma characters : Finds (·.take 1) characters where
  isPrefix := List.take_prefix 1
  mem s found := by
    cases s with
    | nil => exact absurd rfl found
    | cons c s => exact ⟨c, rfl⟩
  ne_nil w member := by
    obtain ⟨c, rfl⟩ := member
    exact List.cons_ne_nil _ _
  length_le s w member start := by
    obtain ⟨c, rfl⟩ := member
    obtain ⟨rest, rfl⟩ := start
    rfl

end Finds

/-- What a text begins with is the longest match of the first class that has one. -/
lemma lexemeAt_firstLongest {symbols : List (List Char)} {s : List Char} (some_text : s ≠ []) :
    FirstLongest s (lexemeAt symbols s) (Regular.classes symbols) := by
  have finds : List.Forall₂ Finds ((Class.ofTokens symbols).map Class.matchAt) (Regular.classes symbols) :=
    .cons .names (.cons .words (.cons .literals (.cons (.signs symbols) (.cons .characters .nil))))
  exact Finds.firstLongest finds (lexemeAt_ne_nil some_text)

/-- Every token is, of the text that begins at its place, the longest beginning that is a name; else a word;
else a number; else a symbol; else it is the first character. Hence the tokens are the same for the same
symbols in another order, or with some of them listed more often. -/
theorem tokens_firstLongest (symbols : List String) (source : String) :
    (∀ token ∈ tokens symbols source, ∃ before rest,
      Text.cut? token.span.start source.toList = some (before, rest) ∧
      ∀ text, FirstLongest rest text (Regular.classes (symbols.map String.toList)) ↔
        text = token.text.toList) ∧
    ∀ symbols' : List String, (∀ symbol, symbol ∈ symbols' ↔ symbol ∈ symbols) →
      tokens symbols' source = tokens symbols source := by
  refine ⟨fun token member => ?_, fun symbols' same => tokens_congr fun text _ => same text⟩
  obtain ⟨before, text, after, ⟨whole, ⟨first, others, starts, -⟩, lexeme⟩, rfl⟩ :=
    Cursor.exists_stands_of_mem member
  have longest : FirstLongest (text ++ after) text (Regular.classes (symbols.map String.toList)) := by
    have some_text : text ++ after ≠ [] := by simp [starts]
    have found : FirstLongest _ (lexemeAt (symbols.map String.toList) _) _ :=
      lexemeAt_firstLongest some_text
    rwa [lexeme] at found
  refine ⟨before, text ++ after, ?_, fun other => ⟨fun found => ?_, ?_⟩⟩
  · have start : (Cursor.tokenBehind (Cursor.ofSource source) before text).span.start =
        Text.byteLength before := Nat.zero_add _
    rw [start, show source.toList = _ from whole]
    exact Text.cut?_byteLength before (text ++ after)
  · rw [found.unique longest]
    exact String.toList_ofList.symm
  · rintro rfl
    rwa [Cursor.tokenBehind, String.toList_ofList]

/-- The longer of two symbols is found behind a point that no digit follows, however often the symbols are
listed. -/
theorem tokens_firstLongest_stars :
    let symbols := ["*", "**"]
    let others := ["**", "*", "**"]
    let second : Token := ⟨"**", ⟨2, 4⟩⟩
    second ∈ tokens symbols "1.***" ∧ (∀ symbol, symbol ∈ others ↔ symbol ∈ symbols) ∧
      (∃ before rest, Text.cut? 2 "1.***".toList = some (before, rest) ∧
        ∀ text, FirstLongest rest text (Regular.classes (symbols.map String.toList)) ↔
          text = "**".toList) ∧
      tokens others "1.***" = [⟨"1", ⟨0, 1⟩⟩, ⟨".", ⟨1, 2⟩⟩, second, ⟨"*", ⟨4, 5⟩⟩] := by
  intro symbols others second
  have found : tokens symbols "1.***" = [⟨"1", ⟨0, 1⟩⟩, ⟨".", ⟨1, 2⟩⟩, second, ⟨"*", ⟨4, 5⟩⟩] :=
    Cursor.tokens_of_within 4 (by decide)
  have member : second ∈ tokens symbols "1.***" := by simp [found]
  have same : ∀ symbol, symbol ∈ others ↔ symbol ∈ symbols := by
    intro symbol
    simp only [others, symbols, List.mem_cons, List.not_mem_nil, or_false]
    tauto
  obtain ⟨longest, unordered⟩ := tokens_firstLongest symbols "1.***"
  exact ⟨member, same, longest second member, (unordered others same).trans found⟩

end Formula.Lexer
