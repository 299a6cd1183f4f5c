import Formula.Proofs.Lexing.Longest
import Formula.Proofs.Lexing.Pattern
import Mathlib.Data.List.Forall2

/-!
# Options

A pattern for options has them as the alternatives of one group, the longest first. An engine that gives the
first match (`Engine.Lawful`) therefore finds the longest option that a text begins with. Where the match has to
reach the end of the text, a longer option gives way to the one that does: the pattern then has a match in the
options themselves and in nothing else. These are the matches of `optionAt?` and `wholeOption?`.
-/

namespace Formula.Lexer

section Choice

variable {options : List (List Char)} {s found : List Char}

/-- A choice between options has some alternative. -/
lemma alternatives_ne_nil (options : List (List Char)) : alternatives options ≠ [] := by
  rw [alternatives]
  split
  · simp
  · next some_option =>
    obtain ⟨option, member⟩ := List.exists_mem_of_ne_nil options some_option
    exact List.ne_nil_of_mem (mem_longestFirst.mpr member)

/-- The option that a text begins with is the longest such one. -/
lemma optionAt?_eq_some_iff (some_option : options ≠ []) :
    optionAt? options s = some found ↔
      found ∈ options ∧ found <+: s ∧
        ∀ option ∈ options, option <+: s → Text.byteLength option ≤ Text.byteLength found := by
  rw [optionAt?, alternatives, if_neg some_option]
  constructor
  · intro h
    have fits := List.find?_some h
    refine ⟨mem_longestFirst.mp (List.mem_of_find?_eq_some h), by simpa using fits, ?_⟩
    intro option member option_fits
    obtain ⟨more, rfl⟩ :=
      isPrefix_of_find? (pairwise_longestFirst options) h (mem_longestFirst.mpr member) option_fits
    rw [Text.byteLength_append]
    omega
  · rintro ⟨member, fits, longest⟩
    cases h : (longestFirst options).find? (·.isPrefixOf s) with
    | none =>
      have misses := List.find?_eq_none.mp h found (mem_longestFirst.mpr member)
      exact absurd (List.isPrefixOf_iff_prefix.mpr fits) misses
    | some first =>
      have first_fits : first <+: s := by simpa using List.find?_some h
      have first_member := mem_longestFirst.mp (List.mem_of_find?_eq_some h)
      have there := Text.isPrefix_of_byteLength_le first_fits fits (longest first first_member first_fits)
      have back := isPrefix_of_find? (pairwise_longestFirst options) h (mem_longestFirst.mpr member) fits
      rw [there.eq_of_length_le back.length_le]

/-- No option is found where a text begins with none. -/
lemma optionAt?_eq_none_iff (some_option : options ≠ []) :
    optionAt? options s = none ↔ ∀ option ∈ options, ¬ option <+: s := by
  simp [optionAt?, alternatives, some_option, mem_longestFirst]

/-- The whole of a text matches when it is one of the options. -/
lemma isSome_wholeOption? (some_option : options ≠ []) :
    (wholeOption? options s).isSome ↔ s ∈ options := by
  simp [wholeOption?, alternatives, some_option, mem_longestFirst]

/-- Of the alternatives that a text begins with, those that leave nothing are the text. -/
lemma head?_filter_whole (texts : List (List Char)) (s : List Char) :
    ((texts.filter (·.isPrefixOf s)).filter fun found => s.drop found.length = []).head? =
      texts.find? (· == s) := by
  rw [List.filter_filter, List.head?_filter]
  congr 1
  funext text
  rw [Bool.eq_iff_iff]
  simp only [Bool.and_eq_true, decide_eq_true_eq, List.isPrefixOf_iff_prefix, List.drop_eq_nil_iff,
    beq_iff_eq]
  constructor
  · rintro ⟨reaches, fits⟩
    exact fits.eq_of_length_le reaches
  · rintro rfl
    exact ⟨le_rfl, List.prefix_rfl⟩

end Choice

/-- A library of patterns: it compiles what is one, and finds a match in a text, with what comes before it. -/
structure Engine where
  Compiled : Type
  escape : List Char → List Char
  compile? : List Char → Option Compiled
  find? : Compiled → List Char → Option (List Char × List Char)

namespace Engine

/-- What is relied on of an engine: that an escaped text stands for itself, that it compiles every pattern, its
limits on their size left aside, and that a search gives the first match at the leftmost place that has one. -/
structure Lawful (e : Engine) : Prop where
  spells : ∀ text, Pattern.Spells (e.escape text) text
  searches : ∀ {text pattern}, Pattern.read? text = some pattern →
    ∃ compiled, e.compile? text = some compiled ∧ ∀ s, e.find? compiled s = pattern.search s

/-- The pattern of a group of options, which `helper` puts into its place. -/
def alternation (e : Engine) (options : List (List Char)) (helper : List Char → List Char) :
    Option e.Compiled :=
  let group := List.intercalate ['|'] ((longestFirst options).map e.escape)
  e.compile? (helper ('(' :: '?' :: ':' :: (group ++ [')'])))

/-- A group at the beginning of a text. -/
def start (group : List Char) : List Char := '^' :: group

/-- A group that is all of a text. -/
def whole (group : List Char) : List Char := '^' :: group ++ ['$']

/-- The engine that searches for patterns as they are read. -/
def backtracking : Engine where
  Compiled := Pattern
  escape text := text.flatMap fun c => if c ∈ Pattern.marks then ['\\', c] else [c]
  compile? := Pattern.read?
  find? := Pattern.search

/-- The search that goes back to earlier alternatives is a lawful engine. -/
lemma lawful_backtracking : backtracking.Lawful where
  spells text := by
    induction text with
    | nil => exact .nil
    | cons c text ih =>
      by_cases mark : c ∈ Pattern.marks
      · simpa [backtracking, mark] using Pattern.Spells.escaped mark ih
      · simpa [backtracking, mark] using Pattern.Spells.plain mark ih
  searches {_ pattern} h := ⟨pattern, h, fun _ => rfl⟩

variable {e : Engine}

/-- Each text that is escaped spells itself. -/
lemma Lawful.forall₂_spells (lawful : e.Lawful) (texts : List (List Char)) :
    List.Forall₂ Pattern.Spells (texts.map e.escape) texts := by
  rw [List.forall₂_map_left_iff, List.forall₂_same]
  exact fun text _ => lawful.spells text

/-- Where there is no option, the group has the empty text in it. -/
lemma Lawful.intercalate_longestFirst (lawful : e.Lawful) (options : List (List Char)) :
    List.intercalate ['|'] ((longestFirst options).map e.escape) =
      List.intercalate ['|'] ((alternatives options).map e.escape) := by
  by_cases no_option : options = []
  · simp [no_option, longestFirst, alternatives, (lawful.spells []).eq_nil]
  · rw [alternatives, if_neg no_option]

/-- At the beginning of a text, the group has the match of `optionAt?`. -/
lemma Lawful.find?_start (lawful : e.Lawful) (options : List (List Char)) :
    ∃ compiled, e.alternation options start = some compiled ∧
      ∀ s, e.find? compiled s = (optionAt? options s).map ([], ·) := by
  have spelled := lawful.forall₂_spells (alternatives options)
  have read := Pattern.read?_start spelled (by simpa using alternatives_ne_nil options)
  obtain ⟨compiled, compiles, searches⟩ := lawful.searches read
  refine ⟨compiled, ?_, fun s => ?_⟩
  · rw [alternation, lawful.intercalate_longestFirst, start, compiles]
  · rw [searches, Pattern.search_sequenceOf_opening, Pattern.finds_sequenceOf_singleton,
      Pattern.finds_choiceOf_ofText (alternatives_ne_nil options), List.head?_filter, optionAt?]

/-- Where it has to be all of a text, the group has the match of `wholeOption?`. -/
lemma Lawful.find?_whole (lawful : e.Lawful) (options : List (List Char)) :
    ∃ compiled, e.alternation options whole = some compiled ∧
      ∀ s, e.find? compiled s = (wholeOption? options s).map ([], ·) := by
  have spelled := lawful.forall₂_spells (alternatives options)
  have read := Pattern.read?_whole spelled (by simpa using alternatives_ne_nil options)
  obtain ⟨compiled, compiles, searches⟩ := lawful.searches read
  refine ⟨compiled, ?_, fun s => ?_⟩
  · rw [alternation, lawful.intercalate_longestFirst, whole, compiles]
  · rw [searches, Pattern.search_sequenceOf_opening, Pattern.finds_sequenceOf_ending,
      Pattern.finds_choiceOf_ofText (alternatives_ne_nil options), head?_filter_whole, wholeOption?]

/-- The pattern for options finds the longest option that a text begins with, and none in a text that begins
with none of them; where it has to be all of a text, it has a match in the options and in nothing else. -/
theorem alternation_longest {options : List (List Char)} (lawful : e.Lawful) (some_option : options ≠ []) :
    ∃ at_start as_whole : e.Compiled,
      e.alternation options start = some at_start ∧
      e.alternation options whole = some as_whole ∧
      ∀ s : List Char,
        (∀ before found : List Char,
          e.find? at_start s = some (before, found) ↔
            before = [] ∧ found ∈ options ∧ found <+: s ∧
              ∀ option ∈ options, option <+: s → Text.byteLength option ≤ Text.byteLength found) ∧
        (e.find? at_start s = none ↔ ∀ option ∈ options, ¬ option <+: s) ∧
        ((e.find? as_whole s).isSome ↔ s ∈ options) ∧
        e.find? at_start s = (optionAt? options s).map ([], ·) ∧
        e.find? as_whole s = (wholeOption? options s).map ([], ·) := by
  obtain ⟨at_start, start_compiles, start_finds⟩ := lawful.find?_start options
  obtain ⟨as_whole, whole_compiles, whole_finds⟩ := lawful.find?_whole options
  refine ⟨at_start, as_whole, start_compiles, whole_compiles,
    fun s => ⟨?_, ?_, ?_, start_finds s, whole_finds s⟩⟩
  · intro before found
    rw [start_finds, ← optionAt?_eq_some_iff some_option, Option.map_eq_some_iff]
    constructor
    · rintro ⟨option, chosen, ⟨⟩⟩
      exact ⟨rfl, chosen⟩
    · rintro ⟨rfl, chosen⟩
      exact ⟨found, chosen, rfl⟩
  · rw [start_finds, Option.map_eq_none_iff, optionAt?_eq_none_iff some_option]
  · rw [whole_finds, Option.isSome_map, isSome_wholeOption? some_option]

/-- Powers are not taken for products, and a dot stands for itself. -/
theorem alternation_longest_powers :
    let options := [['*'], ['*', '*'], ['a', '.', 'c'], ['*']]
    options ≠ [] ∧ backtracking.Lawful ∧
    ∃ at_start as_whole : backtracking.Compiled,
      backtracking.alternation options start = some at_start ∧
      backtracking.alternation options whole = some as_whole ∧
      backtracking.find? at_start ['*', '*', '2'] = some ([], ['*', '*']) ∧
      backtracking.find? at_start ['*', '2'] = some ([], ['*']) ∧
      backtracking.find? at_start ['-', '2'] = none ∧
      (backtracking.find? as_whole ['*']).isSome ∧
      ¬ (backtracking.find? as_whole ['a', 'b', 'c']).isSome := by
  intro options
  have some_option : options ≠ [] := List.cons_ne_nil _ _
  refine ⟨some_option, lawful_backtracking, ?_⟩
  obtain ⟨at_start, as_whole, start_compiles, whole_compiles, finds⟩ :=
    alternation_longest lawful_backtracking some_option
  refine ⟨at_start, as_whole, start_compiles, whole_compiles, ?_, ?_, ?_, ?_, ?_⟩
  · exact (finds _).2.2.2.1.trans (by decide)
  · exact (finds _).2.2.2.1.trans (by decide)
  · exact (finds _).2.1.mpr (by decide)
  · exact (finds _).2.2.1.mpr (by decide)
  · exact mt (finds _).2.2.1.mp (by decide)

end Engine

end Formula.Lexer
