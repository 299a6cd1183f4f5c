import Mathlib.Data.List.Flatten
import Mathlib.Data.List.Infix
import Mathlib.Tactic.Lemma

/-!
# Patterns

A pattern is written as a text: characters that stand for themselves, sets of characters, anchors, alternatives,
and groups. `read?` reads as much of this notation as a choice between texts needs. A search tries the places of a
text from left to right, and at each place the alternatives from left to right, going back to an earlier one where
what follows it does not match; `finds` lists all matches at a place in this order, and `search` gives the first.
-/

namespace Formula.Lexer

/-- Tells the characters of a set, which is given by the first and the last characters of ranges. -/
def isWithin (ranges : List (Char × Char)) (c : Char) : Bool := ranges.any fun (first, last) => first ≤ c && c ≤ last

/-- The beginnings of a text, the longest first. -/
def beginnings : List Char → List (List Char)
  | [] => [[]]
  | c :: s => (beginnings s).map (c :: ·) ++ [[]]

inductive Pattern where
  /-- Nothing, which is found everywhere. -/
  | empty
  /-- The beginning of the whole text. -/
  | opening
  /-- The end of the whole text. -/
  | ending
  | character (c : Char)
  /-- A character of a set. -/
  | oneOf (ranges : List (Char × Char))
  /-- Any number of characters of a set, as many as there are. -/
  | many (ranges : List (Char × Char))
  | sequence (first second : Pattern)
  | choice (first second : Pattern)
deriving DecidableEq

namespace Pattern

/-- What a pattern matches behind `before` and at the beginning of what follows, in the order in which it is
tried. -/
@[simp]
def finds : Pattern → List Char → List Char → List (List Char)
  | empty, _, _ => [[]]
  | opening, before, _ => if before = [] then [[]] else []
  | ending, _, s => if s = [] then [[]] else []
  | character c, _, s => if s.head? = some c then [[c]] else []
  | oneOf ranges, _, s => if s.head?.any (isWithin ranges) then [s.take 1] else []
  | many ranges, _, s => beginnings (s.takeWhile (isWithin ranges))
  | sequence p q, before, s =>
    (p.finds before s).flatMap fun first =>
      (q.finds (before ++ first) (s.drop first.length)).map (first ++ ·)
  | choice p q, before, s => p.finds before s ++ q.finds before s

/-- The first match at the leftmost place behind `before` that has one, with what comes before that place. -/
def searchFrom (p : Pattern) (before : List Char) : List Char → Option (List Char × List Char)
  | [] => (p.finds before []).head?.map (before, ·)
  | c :: s =>
    match (p.finds before (c :: s)).head? with
    | some found => some (before, found)
    | none => p.searchFrom (before ++ [c]) s

/-- The first match at the leftmost place of a text that has one, with what comes before that place. -/
def search (p : Pattern) (s : List Char) : Option (List Char × List Char) := p.searchFrom [] s

def sequenceOf (pieces : List Pattern) : Pattern := pieces.foldr sequence empty

def choiceOf : List Pattern → Pattern
  | [] => empty
  | [last] => last
  | first :: rest => choice first (choiceOf rest)

/-- The pattern of one text, each character of which stands for itself. -/
def ofText (text : List Char) : Pattern := sequenceOf (text.map character)

section Notation

/-- The characters that mean something else than themselves, unless there is a backslash before them. -/
def marks : List Char :=
  ['\\', '.', '+', '*', '?', '(', ')', '|', '[', ']', '{', '}', '^', '$', '#', '&', '-', '~']

/-- What has been read of a group: its alternatives but for the last, and the pieces of the last. -/
structure Group where
  alternatives : List Pattern
  pieces : List Pattern

namespace Group

def start : Group := ⟨[], []⟩

def add (g : Group) (pieces : List Pattern) : Group := { g with pieces := g.pieces ++ pieces }

/-- Ends an alternative. -/
def branch (g : Group) : Group := ⟨g.alternatives ++ [sequenceOf g.pieces], []⟩

def close (g : Group) : Pattern := choiceOf g.branch.alternatives

end Group

/-- Reads what is left of a pattern, inside a group and those around it, the innermost first. -/
@[simp]
def readIn : List Char → Group → List Group → Option Pattern
  | [], g, outer => if outer.isEmpty then some g.close else none
  | '\\' :: c :: s, g, outer => if c ∈ marks then readIn s (g.add [character c]) outer else none
  | '(' :: '?' :: ':' :: s, g, outer => readIn s .start (g :: outer)
  | ')' :: s, g, parent :: outer => readIn s (parent.add [g.close]) outer
  | '|' :: s, g, outer => readIn s g.branch outer
  | '^' :: s, g, outer => readIn s (g.add [opening]) outer
  | '$' :: s, g, outer => readIn s (g.add [ending]) outer
  | c :: s, g, outer => if c ∈ marks then none else readIn s (g.add [character c]) outer

/-- Reads a pattern, if it is in the notation of choices between texts. -/
def read? (pattern : List Char) : Option Pattern := readIn pattern .start []

/-- The anchors are outside of a group with alternatives, and inside of alternatives without a group. -/
example :
    read? "^(?:ab|\\$)$".toList =
        some (sequenceOf [opening, choice (ofText ['a', 'b']) (ofText ['$']), ending]) ∧
      read? "^ab|\\$$".toList =
        some (choice (sequenceOf [opening, character 'a', character 'b'])
          (sequenceOf [character '$', ending])) := by
  decide

/-- A piece of a pattern spells a text: it consists of its characters, with a backslash before the marks. -/
inductive Spells : List Char → List Char → Prop where
  | nil :
    Spells [] []
  | plain {c piece text} :
    c ∉ marks →
    Spells piece text →
    Spells (c :: piece) (c :: text)
  | escaped {c piece text} :
    c ∈ marks →
    Spells piece text →
    Spells ('\\' :: c :: piece) (c :: text)

variable {piece text s : List Char} {g parent : Group} {outer : List Group} {pieces texts : List (List Char)}

/-- Adding no piece leaves a group as it is. -/
@[simp]
lemma Group.add_nil : g.add [] = g := by
  simp [Group.add]

/-- To add pieces twice is to add them at once. -/
@[simp]
lemma Group.add_add (first second : List Pattern) : (g.add first).add second = g.add (first ++ second) := by
  simp [Group.add]

/-- A character that is no mark is read as itself. -/
lemma readIn_plain {c : Char} (plain : c ∉ marks) :
    readIn (c :: s) g outer = readIn s (g.add [character c]) outer := by
  rw [readIn]
  · rw [if_neg plain]
  all_goals intros; subst c; exact plain (by decide)

/-- A mark behind a backslash is read as itself. -/
lemma readIn_escaped {c : Char} (mark : c ∈ marks) :
    readIn ('\\' :: c :: s) g outer = readIn s (g.add [character c]) outer := by
  rw [readIn, if_pos mark]

/-- What spells the empty text is empty. -/
lemma Spells.eq_nil (spelled : Spells piece []) : piece = [] := by
  cases spelled
  rfl

/-- A text that is spelled out is read as its characters. -/
lemma Spells.reads (spelled : Spells piece text) :
    readIn (piece ++ s) g outer = readIn s (g.add (text.map character)) outer := by
  induction spelled generalizing g with
  | nil => simp
  | plain free _ ih =>
    rw [List.cons_append, readIn_plain free, ih, Group.add_add, List.map_cons, List.singleton_append]
  | escaped mark _ ih =>
    rw [List.cons_append, List.cons_append, readIn_escaped mark, ih, Group.add_add, List.map_cons,
      List.singleton_append]

/-- Texts with bars between them are read as the alternatives of a group. -/
lemma readIn_intercalate {alternatives : List Pattern} (spelled : List.Forall₂ Spells pieces texts)
    (some_piece : pieces ≠ []) :
    readIn (List.intercalate ['|'] pieces ++ ')' :: s) ⟨alternatives, []⟩ (parent :: outer) =
      readIn s (parent.add [choiceOf (alternatives ++ texts.map ofText)]) outer := by
  induction spelled generalizing alternatives with
  | nil => exact absurd rfl some_piece
  | @cons piece text pieces texts first rest ih =>
    cases rest with
    | nil =>
      rw [List.intercalate_singleton, first.reads, readIn]
      rfl
    | cons second rest =>
      rw [List.intercalate_cons_cons, List.append_assoc, List.append_assoc, first.reads,
        List.singleton_append, readIn, Group.branch, ih (by simp)]
      simp [Group.add, ofText]

/-- A group of texts that are spelled out, from the beginning of a text on. -/
lemma read?_start (spelled : List.Forall₂ Spells pieces texts) (some_piece : pieces ≠ []) :
    read? ('^' :: ('(' :: '?' :: ':' :: (List.intercalate ['|'] pieces ++ [')']))) =
      some (sequenceOf [opening, choiceOf (texts.map ofText)]) := by
  rw [read?, readIn, readIn, Group.start, readIn_intercalate spelled some_piece, readIn]
  rfl

/-- The same group where nothing may follow it. -/
lemma read?_whole (spelled : List.Forall₂ Spells pieces texts) (some_piece : pieces ≠ []) :
    read? ('^' :: ('(' :: '?' :: ':' :: (List.intercalate ['|'] pieces ++ [')'])) ++ ['$']) =
      some (sequenceOf [opening, choiceOf (texts.map ofText), ending]) := by
  simp only [List.cons_append, List.append_assoc, List.nil_append]
  rw [read?, readIn, readIn, Group.start, readIn_intercalate spelled some_piece, readIn, readIn]
  rfl

end Notation

section Matches

variable {p : Pattern} {before s : List Char} {texts : List (List Char)}

/-- A text is found where the rest begins with it. -/
lemma finds_ofText (text : List Char) :
    (ofText text).finds before s = if text <+: s then [text] else [] := by
  induction text generalizing before s with
  | nil => simp [ofText, sequenceOf]
  | cons c text ih =>
    change ((character c).sequence (ofText text)).finds before s = _
    cases s with
    | nil => simp
    | cons d s =>
      by_cases same : d = c
      · subst d
        by_cases fits : text <+: s <;> simp [ih, fits]
      · have differs : ¬ c :: text <+: d :: s := fun fits => same (List.cons_prefix_cons.mp fits).1.symm
        simp [same, differs]

/-- A choice finds what its alternatives find, one after another. -/
lemma finds_choiceOf {patterns : List Pattern} (some_pattern : patterns ≠ []) :
    (choiceOf patterns).finds before s = patterns.flatMap (·.finds before s) := by
  fun_induction choiceOf patterns with
  | case1 => exact absurd rfl some_pattern
  | case2 last => simp
  | case3 first rest some_rest ih => rw [finds, ih some_rest, List.flatMap_cons]

/-- Of a choice between texts, those are found that the rest begins with, in their order. -/
lemma finds_choiceOf_ofText (some_text : texts ≠ []) :
    (choiceOf (texts.map ofText)).finds before s = texts.filter (·.isPrefixOf s) := by
  rw [finds_choiceOf (by simpa using some_text), List.flatMap_map]
  simp only [finds_ofText]
  clear some_text
  induction texts with
  | nil => rfl
  | cons text texts ih => by_cases fits : text <+: s <;> simp [ih, fits]

/-- A sequence of one pattern finds what the pattern does. -/
lemma finds_sequenceOf_singleton : (sequenceOf [p]).finds before s = p.finds before s := by
  simp [sequenceOf]

/-- Before the end of a text, those matches are left that reach it. -/
lemma finds_sequenceOf_ending :
    (sequenceOf [p, ending]).finds before s =
      (p.finds before s).filter fun found => s.drop found.length = [] := by
  rw [sequenceOf, List.foldr_cons, finds]
  induction p.finds before s with
  | nil => rfl
  | cons found others ih => by_cases ends : s.drop found.length = [] <;> simp_all

variable {pieces : List Pattern}

/-- An anchored sequence finds what it would without the anchor, but only at the beginning of the text. -/
lemma finds_sequenceOf_opening :
    (sequenceOf (opening :: pieces)).finds before s =
      if before = [] then (sequenceOf pieces).finds before s else [] := by
  by_cases first : before = [] <;> simp [sequenceOf, first]

/-- The search for an anchored sequence fails at all later places. -/
lemma searchFrom_sequenceOf_opening (later : before ≠ []) :
    (sequenceOf (opening :: pieces)).searchFrom before s = none := by
  induction s generalizing before with
  | nil => simp [searchFrom, finds_sequenceOf_opening, later]
  | cons c s ih => simp [searchFrom, finds_sequenceOf_opening, later, ih]

/-- A pattern with the anchor in front of it is found at the beginning of a text or nowhere. -/
lemma search_sequenceOf_opening :
    (sequenceOf (opening :: pieces)).search s = ((sequenceOf pieces).finds [] s).head?.map ([], ·) := by
  cases s with
  | nil => simp [search, searchFrom, finds_sequenceOf_opening]
  | cons c s =>
    rw [search, searchFrom, finds_sequenceOf_opening, if_pos rfl]
    cases (sequenceOf pieces).finds [] (c :: s) with
    | nil => exact searchFrom_sequenceOf_opening (by simp)
    | cons found others => rfl

end Matches

end Pattern

end Formula.Lexer
