import Formula.Proofs.Lexing.Lexeme

/-!
# The longest symbol

Options are tried in the order of their lengths, so the first that fits is the longest one that does. It
depends on the options that fit and on nothing else: neither on their order nor on any other option.
-/

namespace Formula

namespace Text

/-- Only the empty text has no bytes. -/
lemma byteLength_eq_zero {s : List Char} : byteLength s = 0 ↔ s = [] := by
  cases s with
  | nil => simp
  | cons c s => simp [Nat.ne_of_gt c.utf8Size_pos]

/-- Of two beginnings of a text, one that takes no more bytes begins the other. -/
lemma isPrefix_of_byteLength_le {a b s : List Char} (ha : a <+: s) (hb : b <+: s)
    (le : byteLength a ≤ byteLength b) : a <+: b := by
  rcases List.prefix_or_prefix_of_prefix ha hb with begins | ⟨more, rfl⟩
  · exact begins
  · have nothing : byteLength more = 0 := by
      rw [byteLength_append] at le
      omega
    obtain rfl := byteLength_eq_zero.mp nothing
    exact ⟨[], by simp⟩

end Text

namespace Lexer

variable {symbols symbols' options : List (List Char)} {option s s' : List Char}

/-- An option is inserted where the order by length is kept. -/
lemma pairwise_insertOption
    (h : options.Pairwise fun a b => Text.byteLength b ≤ Text.byteLength a) :
    (insertOption option options).Pairwise fun a b => Text.byteLength b ≤ Text.byteLength a := by
  induction options with
  | nil => exact List.pairwise_singleton _ _
  | cons first rest ih =>
    obtain ⟨above, ordered⟩ := List.pairwise_cons.mp h
    rw [insertOption]
    split
    · next fits =>
      refine h.cons fun other member => ?_
      rcases List.mem_cons.mp member with rfl | member
      · exact fits
      · exact (above other member).trans fits
    · next longer =>
      refine (ih ordered).cons fun other member => ?_
      rcases mem_insertOption.mp member with rfl | member
      · exact Nat.le_of_not_le longer
      · exact above other member

/-- The longest options come first. -/
lemma pairwise_longestFirst (options : List (List Char)) :
    (longestFirst options).Pairwise fun a b => Text.byteLength b ≤ Text.byteLength a := by
  induction options with
  | nil => exact .nil
  | cons first rest ih => exact pairwise_insertOption ih

/-- Among ordered options, every one that a text begins with begins the first such one. -/
lemma isPrefix_of_find? {found : List Char}
    (ordered : options.Pairwise fun a b => Text.byteLength b ≤ Text.byteLength a)
    (h : options.find? (·.isPrefixOf s) = some found) (member : option ∈ options) (fits : option <+: s) :
    option <+: found := by
  obtain ⟨found_fits, earlier, later, rfl, unfit⟩ := List.find?_eq_some_iff_append.mp h
  rw [List.isPrefixOf_iff_prefix] at found_fits
  rcases List.mem_append.mp member with before | at_or_after
  · have misses := unfit option before
    rw [List.isPrefixOf_iff_prefix.mpr fits] at misses
    cases misses
  · rcases List.mem_cons.mp at_or_after with rfl | after
    · exact List.prefix_rfl
    · have shorter := (List.pairwise_cons.mp (List.pairwise_append.mp ordered).2.1).1 option after
      exact Text.isPrefix_of_byteLength_le fits found_fits shorter

/-- A symbol that a text begins with begins the one that is found there. -/
lemma isPrefix_symbolAt (member : option ∈ symbols) (fits : option <+: s) :
    option <+: symbolAt symbols s := by
  by_cases empty : option = []
  · rw [empty]
    exact List.nil_prefix
  · have kept : option ∈ symbols.filter (· ≠ []) := List.mem_filter.mpr ⟨member, by simpa using empty⟩
    unfold symbolAt
    split
    · next none_kept =>
      rw [none_kept] at kept
      cases kept
    · next some_kept =>
      rw [optionAt?, alternatives, if_neg some_kept]
      cases found : (longestFirst (symbols.filter (· ≠ []))).find? (·.isPrefixOf s) with
      | none =>
        have misses := List.find?_eq_none.mp found option (mem_longestFirst.mpr kept)
        rw [List.isPrefixOf_iff_prefix] at misses
        exact absurd fits misses
      | some first =>
        exact isPrefix_of_find? (pairwise_longestFirst _) found (mem_longestFirst.mpr kept) fits

/-- The symbol found is one of those that fit. -/
lemma symbolAt_isPrefix_of_subset (h : ∀ option, option <+: s → option ∈ symbols → option ∈ symbols') :
    symbolAt symbols s <+: symbolAt symbols' s := by
  rcases symbolAt_eq_nil_or_mem symbols s with none | member
  · rw [none]
    exact List.nil_prefix
  · have fits := symbolAt_isPrefix symbols s
    exact isPrefix_symbolAt (h _ fits member) fits

/-- The symbol found depends on the symbols that fit only. -/
lemma symbolAt_congr (h : ∀ option, option <+: s → (option ∈ symbols ↔ option ∈ symbols')) :
    symbolAt symbols s = symbolAt symbols' s := by
  have there := symbolAt_isPrefix_of_subset fun option fits => (h option fits).mp
  have back := symbolAt_isPrefix_of_subset fun option fits => (h option fits).mpr
  exact there.eq_of_length_le back.length_le

/-- The symbol found stays the longest where the text is cut behind it. -/
lemma symbolAt_of_cut (start : s' <+: s) (inside : symbolAt symbols s <+: s') :
    symbolAt symbols s' = symbolAt symbols s := by
  have there : symbolAt symbols s' <+: symbolAt symbols s := by
    rcases symbolAt_eq_nil_or_mem symbols s' with none | member
    · rw [none]
      exact List.nil_prefix
    · exact isPrefix_symbolAt member ((symbolAt_isPrefix symbols s').trans start)
  have back : symbolAt symbols s <+: symbolAt symbols s' := by
    rcases symbolAt_eq_nil_or_mem symbols s with none | member
    · rw [none]
      exact List.nil_prefix
    · exact isPrefix_symbolAt member inside
  exact there.eq_of_length_le back.length_le

end Lexer

end Formula
