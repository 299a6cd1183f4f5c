import Formula.Proofs.Lexing.Place

/-!
# Partitions

Tokens and the blanks between them make up the source text. `Partitions` says so by recursion on the tokens,
and `tokens_partition` says it with the spans of the tokens and the spans between these.
-/

namespace Formula.Lexer

/-- The spans before, between and after some spans, from one offset to another. -/
def gaps (start stop : Nat) : List Span → List Span
  | [] => [⟨start, stop⟩]
  | span :: rest => ⟨start, span.start⟩ :: gaps span.stop stop rest

/-- Some tokens, with blanks before, between and after them, are what follows a beginning of a text. -/
inductive Partitions (source : List Char) : List Char → List Token → Prop where
  | nil {before gap} :
    Blanks gap →
    source = before ++ gap →
    Partitions source before []
  | cons {before gap text tokens} :
    Blanks gap →
    (∃ first others, text = first :: others ∧ Text.isBlank first = false) →
    Partitions source (before ++ gap ++ text) tokens →
    Partitions source before
      (⟨String.ofList text,
        ⟨Text.byteLength (before ++ gap), Text.byteLength (before ++ gap ++ text)⟩⟩ :: tokens)

namespace Partitions

variable {source before : List Char} {tokens : List Token}

/-- What has been divided so far is a beginning of the source. -/
lemma isPrefix (h : Partitions source before tokens) : before <+: source := by
  induction h with
  | nil _ whole => exact ⟨_, whole.symm⟩
  | cons _ _ _ ih =>
    rw [List.append_assoc] at ih
    exact (List.prefix_append _ _).trans ih

/-- Each token is a piece of the text, and lies behind the beginning. -/
lemma of_mem {token : Token} (h : Partitions source before tokens) (member : token ∈ tokens) :
    Text.byteLength before ≤ token.span.start ∧ token.span.slice? source = some token.text.toList ∧
      ∃ first others, token.text.toList = first :: others ∧ Text.isBlank first = false := by
  induction h with
  | nil => cases member
  | @cons before gap text tokens _ starts partitions ih =>
    rcases List.mem_cons.mp member with rfl | member
    · -- what comes after the token is where the rest of the partition starts
      obtain ⟨after, whole⟩ := partitions.isPrefix
      rw [List.append_assoc] at whole
      refine ⟨by simp, ?_, ?_⟩
      · rw [← whole, String.toList_ofList]
        exact Span.slice?_append _ _ _
      · rwa [String.toList_ofList]
    · obtain ⟨behind, slice⟩ := ih member
      refine ⟨le_trans ?_ behind, slice⟩
      simp only [Text.byteLength_append]
      omega

/-- Each token ends where the others start, or before. -/
lemma pairwise (h : Partitions source before tokens) :
    tokens.Pairwise fun a b => a.span.stop ≤ b.span.start := by
  induction h with
  | nil => exact .nil
  | cons _ _ partitions ih => exact ih.cons fun token member => (partitions.of_mem member).1

/-- There are only blanks between the tokens. -/
lemma blanks_of_mem_gaps {gap : Span} (h : Partitions source before tokens)
    (member : gap ∈ gaps (Text.byteLength before) (Text.byteLength source) (tokens.map Token.span)) :
    ∃ blanks, gap.slice? source = some blanks ∧ Blanks blanks := by
  induction h with
  | @nil before blanks all whole =>
    have slice := Span.slice?_append before blanks []
    rw [List.append_nil, ← whole] at slice
    rw [List.map_nil, gaps, List.mem_singleton] at member
    exact ⟨blanks, member ▸ slice, all⟩
  | @cons before blanks text tokens all _ partitions ih =>
    rcases List.mem_cons.mp member with rfl | member
    · obtain ⟨after, whole⟩ := partitions.isPrefix
      simp only [List.append_assoc] at whole
      exact ⟨blanks, whole ▸ Span.slice?_append before blanks (text ++ after), all⟩
    · exact ih member

/-- Each token takes a character at least. -/
lemma length_le (h : Partitions source before tokens) :
    before.length + tokens.length ≤ source.length := by
  induction h with
  | nil _ whole => simp [whole]
  | cons _ starts _ ih =>
    obtain ⟨first, others, rfl, -⟩ := starts
    simp only [List.length_append, List.length_cons] at ih ⊢
    omega

end Partitions

/-- The tokens from a place on are what follows it. -/
lemma Cursor.Passed.partitions {symbols : List (List Char)} {source before : List Char} {c : Cursor}
    (h : c.Passed source before) : Partitions source before (c.tokens symbols) := by
  fun_induction Cursor.tokens symbols c generalizing before with
  | case1 c ended =>
    exact .nil (blanks_of_next? ended) h.whole
  | case2 c token c' next ih =>
    have blanks : Blanks (Text.leadingBlanks c.rest) := fun _ => List.mem_takeWhile_imp
    obtain ⟨text, starts, rfl, passed⟩ := h.next? next
    exact .cons blanks starts (ih passed)

/-- The tokens of a source text partition it. Each is the text under its span, and does not begin with a blank;
the spans are in order; and there are only blanks before, between and after them. The lexer ends, since each
token takes a character at least. Wherever it looks for something, the source can be cut, and all that it finds
is a beginning of what follows, after which it can be cut again. -/
theorem tokens_partition (symbols : List String) (source : String) :
    let text := source.toList
    let found := tokens symbols source
    (∀ token ∈ found, token.text ≠ "" ∧ token.span.slice? text = some token.text.toList ∧
      ∃ first ∈ token.text.toList.head?, Text.isBlank first = false) ∧
    found.Pairwise (fun a b => a.span.stop ≤ b.span.start) ∧
    (∀ gap ∈ gaps 0 (Text.byteLength text) (found.map Token.span),
      ∃ blanks, gap.slice? text = some blanks ∧ ∀ c ∈ blanks, Text.isBlank c = true) ∧
    found.length ≤ text.length ∧
    ∀ c, Cursor.Reached (symbols.map String.toList) source c →
      (∃ before, Text.cut? c.position text = some (before, c.rest)) ∧
      ∀ piece ∈ Text.leadingBlanks c.rest :: candidates (symbols.map String.toList) c.rest,
        ∃ after, Text.cut? (Text.byteLength piece) c.rest = some (piece, after) := by
  have partitions : Partitions source.toList [] (tokens symbols source) :=
    (Cursor.Passed.ofSource source).partitions
  refine ⟨fun token member => ?_, partitions.pairwise, fun gap => partitions.blanks_of_mem_gaps, ?_,
    fun c reached => ⟨?_, fun piece member => ?_⟩⟩
  · obtain ⟨-, slice, first, others, starts, no_blank⟩ := partitions.of_mem member
    refine ⟨?_, slice, first, by simp [starts], no_blank⟩
    intro empty
    rw [empty] at starts
    cases starts
  · simpa using partitions.length_le
  · obtain ⟨before, passed⟩ := reached.exists_passed
    exact ⟨before, passed.cut?⟩
  · have start : piece <+: c.rest := by
      rcases List.mem_cons.mp member with rfl | member
      · exact List.takeWhile_prefix _
      · exact isPrefix_of_mem_candidates member
    obtain ⟨after, whole⟩ := start
    rw [← whole]
    exact ⟨after, Text.cut?_byteLength piece after⟩

/-- A symbol may hold blanks and characters of several bytes. -/
theorem tokens_partition_between :
    let symbols := ["√", "≥ é", ""]
    let second : Token := ⟨"≥ é", ⟨4, 10⟩⟩
    second ∈ tokens symbols "√ ≥ é" ∧ second.span.slice? "√ ≥ é".toList = some second.text.toList ∧
      (∃ blanks, Span.slice? ⟨3, 4⟩ "√ ≥ é".toList = some blanks ∧ ∀ c ∈ blanks, Text.isBlank c = true) ∧
      Cursor.Reached (symbols.map String.toList) "√ ≥ é" ⟨[' ', '≥', ' ', 'é'], 3⟩ ∧
      ∃ before, Text.cut? 3 "√ ≥ é".toList = some (before, [' ', '≥', ' ', 'é']) := by
  intro symbols second
  have root : (Cursor.ofSource "√ ≥ é").next? (symbols.map String.toList) =
      some (⟨"√", ⟨0, 3⟩⟩, ⟨[' ', '≥', ' ', 'é'], 3⟩) := by decide
  have comparison : (⟨[' ', '≥', ' ', 'é'], 3⟩ : Cursor).next? (symbols.map String.toList) =
      some (second, ⟨[], 10⟩) := by decide
  have ended : (⟨[], 10⟩ : Cursor).next? (symbols.map String.toList) = none := by decide
  have found : tokens symbols "√ ≥ é" = [⟨"√", ⟨0, 3⟩⟩, second] := by
    rw [tokens, Cursor.tokens_of_some root, Cursor.tokens_of_some comparison,
      Cursor.tokens_of_none ended]
  have member : second ∈ tokens symbols "√ ≥ é" := by simp [found]
  have reached := Cursor.Reached.start.next? root
  obtain ⟨pieces, -, between, -, places⟩ := tokens_partition symbols "√ ≥ é"
  refine ⟨member, (pieces second member).2.1, between ⟨3, 4⟩ ?_, reached, (places _ reached).1⟩
  rw [found]
  exact List.mem_cons_of_mem _ List.mem_cons_self

end Formula.Lexer
