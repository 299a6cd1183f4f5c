import Formula.Proofs.Lexing.Cutting

/-!
# Divided texts

A text falls into the same tokens as its two halves, wherever it is divided outside its tokens:
`Cursor.tokens_append` follows the tokens of the whole, each of which stays the same in the first half. Where
no symbol holds a blank, no token does either, so a text can always be divided at blanks.
-/

namespace Formula

/-- The token `amount` bytes further on. -/
def Token.shift (amount : Nat) (t : Token) : Token :=
  { t with span := ⟨t.span.start + amount, t.span.stop + amount⟩ }

/-- To move tokens twice is to move them once by the sum. -/
lemma Token.map_shift_shift (tokens : List Token) (m n : Nat) :
    (tokens.map (shift m)).map (shift n) = tokens.map (shift (m + n)) := by
  rw [List.map_map]
  apply List.map_congr_left
  intro t _
  simp only [Function.comp_apply, shift, Nat.add_assoc]

/-- A token is not on both sides of an offset. -/
def Token.Outside (offset : Nat) (t : Token) : Prop := t.span.stop ≤ offset ∨ offset ≤ t.span.start

namespace Lexer

/-- A lexeme stands in a text, with something before it and something after it. -/
structure Stands (symbols : List (List Char)) (source before text after : List Char) : Prop where
  whole : source = before ++ (text ++ after)
  starts : ∃ first others, text = first :: others ∧ Text.isBlank first = false
  lexeme : lexemeAt symbols (text ++ after) = text

variable {symbols : List (List Char)} {s rest gap text after before : List Char} {position : Nat}

namespace Cursor

variable {c c' : Cursor} {token : Token}

/-- The token that a text is, behind what comes before it. -/
def tokenBehind (c : Cursor) (before text : List Char) : Token :=
  let start := c.position + Text.byteLength before
  ⟨String.ofList text, ⟨start, start + Text.byteLength text⟩⟩

/-- Skipping blanks leaves the rest behind them and counts their bytes. -/
lemma skipBlanks_eq (c : Cursor) : c.skipBlanks =
    ⟨Text.dropBlanks c.rest, c.position + Text.byteLength (Text.leadingBlanks c.rest)⟩ := by
  have whole := (Text.leadingBlanks_append_dropBlanks c.rest).symm
  simp only [skipBlanks, readClass?, advance_byteLength whole]
  split
  · next none =>
    rw [none, List.nil_append] at whole
    rw [← whole, none]
    rfl
  · rfl

/-- Where a lexeme stands behind blanks, it is the next token. -/
lemma next?_of_stands (stands : Stands symbols c.rest gap text after) (blanks : Blanks gap) :
    c.next? symbols = some (c.tokenBehind gap text,
      ⟨after, c.position + Text.byteLength gap + Text.byteLength text⟩) := by
  obtain ⟨whole, ⟨first, others, starts, no_blank⟩, lexeme⟩ := stands
  have ends : ∀ c ∈ (text ++ after).head?, Text.isBlank c = false := by
    rw [starts]
    rintro c ⟨⟩
    exact no_blank
  have skipped : c.skipBlanks = ⟨text ++ after, c.position + Text.byteLength gap⟩ := by
    rw [skipBlanks_eq, whole, Text.leadingBlanks, Text.dropBlanks, takeWhile_append_of_ends blanks ends,
      dropWhile_append_of_ends blanks ends]
  have some_text : text ≠ [] := by simp [starts]
  rw [next?, skipped, readClass?]
  simp only [lexeme, if_neg some_text]
  rw [advance_byteLength rfl]
  rfl

/-- The next token is a lexeme that stands behind blanks. -/
lemma exists_stands (next : c.next? symbols = some (token, c')) :
    ∃ gap text after, Stands symbols c.rest gap text after ∧ Blanks gap ∧
      token = c.tokenBehind gap text ∧
      c' = ⟨after, c.position + Text.byteLength gap + Text.byteLength text⟩ := by
  have some_rest : Text.dropBlanks c.rest ≠ [] := by
    intro none
    have nothing : lexemeAt symbols [] = [] := List.prefix_nil.mp (lexemeAt_isPrefix symbols [])
    rw [next?, readClass?, rest_skipBlanks, none, nothing] at next
    cases next
  have some_lexeme : lexemeAt symbols (Text.dropBlanks c.rest) ≠ [] := lexemeAt_ne_nil some_rest
  obtain ⟨first, others, starts⟩ := List.exists_cons_of_ne_nil some_lexeme
  obtain ⟨after, left⟩ := lexemeAt_isPrefix symbols (Text.dropBlanks c.rest)
  have blanks : Blanks (Text.leadingBlanks c.rest) := fun _ => List.mem_takeWhile_imp
  have stands : Stands symbols c.rest (Text.leadingBlanks c.rest)
      (lexemeAt symbols (Text.dropBlanks c.rest)) after := by
    refine ⟨?_, ⟨first, others, starts, ?_⟩, by rw [left]⟩
    · rw [left, Text.leadingBlanks_append_dropBlanks]
    · have head := List.head?_dropWhile_not Text.isBlank c.rest
      have dropped : c.rest.dropWhile Text.isBlank = first :: (others ++ after) := by
        rw [← List.cons_append, ← starts, left]
        rfl
      rw [dropped] at head
      exact head
  rw [next?_of_stands stands blanks] at next
  cases next
  exact ⟨_, _, _, stands, blanks, rfl, rfl⟩

/-- Every token is a lexeme that stands in the text. -/
lemma exists_stands_of_mem (member : token ∈ c.tokens symbols) :
    ∃ before text after, Stands symbols c.rest before text after ∧ token = c.tokenBehind before text := by
  fun_induction Cursor.tokens symbols c with
  | case1 => cases member
  | case2 c first c' next ih =>
    obtain ⟨gap, text, after, stands, -, rfl, rfl⟩ := exists_stands next
    rcases List.mem_cons.mp member with rfl | later
    · exact ⟨gap, text, after, stands, rfl⟩
    · obtain ⟨before', text', after', stands', rfl⟩ := ih later
      have passed : after = before' ++ (text' ++ after') := stands'.whole
      refine ⟨gap ++ (text ++ before'), text', after', ⟨?_, stands'.starts, stands'.lexeme⟩, ?_⟩
      · rw [stands.whole, passed]
        simp only [List.append_assoc]
      · simp only [tokenBehind, Text.byteLength_append, Nat.add_assoc]

/-- Blanks before a text change the places of its tokens only. -/
lemma tokens_of_blanks (blanks : Blanks gap) (rest : List Char) (position : Nat) :
    Cursor.tokens symbols ⟨gap ++ rest, position⟩ =
      Cursor.tokens symbols ⟨rest, position + Text.byteLength gap⟩ := by
  have skipped : skipBlanks ⟨gap ++ rest, position⟩ =
      skipBlanks ⟨rest, position + Text.byteLength gap⟩ := by
    have leading : Text.leadingBlanks (gap ++ rest) = gap ++ Text.leadingBlanks rest :=
      List.takeWhile_append_of_pos blanks
    rw [skipBlanks_eq, skipBlanks_eq, dropBlanks_append blanks, leading, Text.byteLength_append,
      Nat.add_assoc]
  have same : next? symbols ⟨gap ++ rest, position⟩ =
      next? symbols ⟨rest, position + Text.byteLength gap⟩ := congrArg (readClass? · _) skipped
  cases next : next? symbols ⟨rest, position + Text.byteLength gap⟩ with
  | none => rw [tokens_of_none next, tokens_of_none (same.trans next)]
  | some found => rw [tokens_of_some next, tokens_of_some (same.trans next)]

/-- The place where a text begins moves its tokens along. -/
lemma tokens_shift (c : Cursor) (amount : Nat) :
    Cursor.tokens symbols ⟨c.rest, c.position + amount⟩ = (c.tokens symbols).map (Token.shift amount) := by
  fun_induction Cursor.tokens symbols c with
  | case1 c ended =>
    have blanks := blanks_of_next? ended
    exact tokens_of_none (next?_of_blanks (c := ⟨c.rest, c.position + amount⟩) blanks)
  | case2 c token c' next ih =>
    obtain ⟨gap, text, after, stands, blanks, rfl, rfl⟩ := exists_stands next
    rw [tokens_of_some (next?_of_stands (c := ⟨c.rest, c.position + amount⟩) stands blanks), List.map_cons,
      ← ih]
    simp only [tokenBehind, Token.shift, Nat.add_right_comm _ amount]

/-- A text that is divided outside its tokens falls into the tokens of both halves. -/
lemma tokens_append (c : Cursor) (divided : c.rest = s ++ rest)
    (outside : ∀ token ∈ c.tokens symbols, token.Outside (c.position + Text.byteLength s)) :
    c.tokens symbols = Cursor.tokens symbols ⟨s, c.position⟩ ++
      Cursor.tokens symbols ⟨rest, c.position + Text.byteLength s⟩ := by
  fun_induction Cursor.tokens symbols c generalizing s with
  | case1 c ended =>
    have blanks := blanks_of_next? ended
    rw [divided] at blanks
    obtain ⟨first, second⟩ := List.forall_mem_append.mp blanks
    rw [tokens_of_none (next?_of_blanks (c := ⟨s, c.position⟩) first),
      tokens_of_none (next?_of_blanks (c := ⟨rest, c.position + Text.byteLength s⟩) second)]
    rfl
  | case2 c token c' next ih =>
    obtain ⟨gap, text, after, stands, blanks, rfl, rfl⟩ := exists_stands next
    have whole : gap ++ (text ++ after) = s ++ rest := stands.whole.symm.trans divided
    have begins : s <+: c.rest := ⟨rest, divided.symm⟩
    rcases outside _ List.mem_cons_self with within | behind
    · -- the token is in the first half, where the text is cut behind it
      have inside : gap ++ text <+: s := by
        refine Text.isPrefix_of_byteLength_le ⟨after, ?_⟩ begins ?_
        · rw [stands.whole, List.append_assoc]
        · simp only [tokenBehind] at within
          rw [Text.byteLength_append]
          omega
      obtain ⟨s', rfl⟩ := inside
      obtain rfl : after = s' ++ rest := by simpa using whole
      have stands' : Stands symbols (gap ++ text ++ s') gap text s' := by
        have start : text ++ s' <+: text ++ (s' ++ rest) := ⟨rest, List.append_assoc _ _ _⟩
        refine ⟨List.append_assoc _ _ _, stands.starts, ?_⟩
        rw [lexemeAt_of_cut start, stands.lexeme]
        rw [stands.lexeme]
        exact List.prefix_append _ _
      rw [tokens_of_some (next?_of_stands (c := ⟨gap ++ text ++ s', c.position⟩) stands' blanks),
        List.cons_append, ih rfl]
      · simp only [tokenBehind, Text.byteLength_append, Nat.add_assoc]
      · intro token member
        have placed := outside token (List.mem_cons_of_mem _ member)
        simpa only [Text.byteLength_append, Nat.add_assoc] using placed
    · -- the first half is blanks
      have nothing : s <+: gap := by
        refine Text.isPrefix_of_byteLength_le begins ⟨text ++ after, stands.whole.symm⟩ ?_
        simp only [tokenBehind] at behind
        omega
      obtain ⟨gap', rfl⟩ := nothing
      have skipped : Blanks s := (List.forall_mem_append.mp blanks).1
      rw [tokens_of_none (next?_of_blanks (c := ⟨s, c.position⟩) skipped), List.nil_append,
        ← tokens_of_blanks skipped, ← divided, tokens_of_some next]

/-- Where no symbol holds a blank, no token is on both sides of the beginning of a blank. -/
lemma outside_of_stops (unbroken : ∀ symbol ∈ symbols, Unbroken symbol) (divided : c.rest = s ++ rest)
    (stops : Stops rest) (member : token ∈ c.tokens symbols) :
    token.Outside (c.position + Text.byteLength s) := by
  obtain ⟨before, text, after, stands, rfl⟩ := exists_stands_of_mem member
  obtain ⟨whole, ⟨first, others, starts, no_blank⟩, lexeme⟩ := stands
  have holds_none : Unbroken text := by
    rw [← lexeme]
    refine unbroken_lexemeAt unbroken ?_
    rw [starts]
    rintro c ⟨⟩
    exact no_blank
  rw [divided] at whole
  rcases List.append_eq_append_iff.mp whole with ⟨between, rfl, -⟩ | ⟨more, rfl, left⟩
  · right
    simp only [tokenBehind, Text.byteLength_append]
    omega
  · -- the token begins in the first half, so it ends before the blank
    left
    obtain ⟨after', rfl⟩ := holds_none.isPrefix_of_stops stops ⟨after, left⟩
    simp only [tokenBehind, Text.byteLength_append]
    omega

end Cursor

section Texts

variable {symbols : List String}

/-- A text that is divided outside its tokens falls into the tokens of both halves, those of the second moved
along by the first. -/
lemma tokens_append {first second : String}
    (outside : ∀ token ∈ tokens symbols (first ++ second), token.Outside (Text.byteLength first.toList)) :
    tokens symbols (first ++ second) =
      tokens symbols first ++ (tokens symbols second).map (Token.shift (Text.byteLength first.toList)) := by
  have placed : ∀ token ∈ tokens symbols (first ++ second),
      token.Outside (0 + Text.byteLength first.toList) := by
    rwa [Nat.zero_add]
  rw [tokens, Cursor.tokens_append (Cursor.ofSource (first ++ second)) String.toList_append placed, tokens,
    tokens, ← Cursor.tokens_shift]
  rfl

/-- Blanks before a text only move its tokens. -/
lemma tokens_of_blanks {gap : String} (blanks : Blanks gap.toList) (text : String) :
    tokens symbols (gap ++ text) =
      (tokens symbols text).map (Token.shift (Text.byteLength gap.toList)) := by
  rw [tokens, Cursor.ofSource, String.toList_append, Cursor.tokens_of_blanks blanks, tokens,
    ← Cursor.tokens_shift]
  rfl

/-- Where no symbol holds a blank, a text falls into the tokens before some blanks and those from there on. -/
lemma tokens_append_of_blanks (unbroken : ∀ symbol ∈ symbols, Unbroken symbol.toList) {gap : String}
    (some_gap : gap ≠ "") (blanks : Blanks gap.toList) (first second : String) :
    tokens symbols (first ++ (gap ++ second)) = tokens symbols first ++
      (tokens symbols (gap ++ second)).map (Token.shift (Text.byteLength first.toList)) := by
  have unbroken_lists : ∀ symbol ∈ symbols.map String.toList, Unbroken symbol := by
    simpa only [List.forall_mem_map] using unbroken
  have stops : Stops (gap ++ second).toList := by
    have some_blank : gap.toList ≠ [] := by simpa using some_gap
    intro c next
    rw [String.toList_append, List.head?_append_of_ne_nil _ some_blank] at next
    exact blanks c (List.mem_of_mem_head? next)
  apply tokens_append
  intro token member
  have placed := Cursor.outside_of_stops unbroken_lists String.toList_append stops member
  rwa [Cursor.ofSource, Nat.zero_add] at placed

/-- A text with blanks in it falls into the tokens of what comes before them and the tokens of what comes
after them, the latter moved along by all that comes before. -/
theorem tokens_append_blanks (symbols : List String)
    (unbroken : ∀ symbol ∈ symbols, Unbroken symbol.toList) (first second gap : String)
    (some_gap : gap ≠ "") (blanks : Blanks gap.toList) :
    tokens symbols (first ++ gap ++ second) =
      tokens symbols first ++
        (tokens symbols second).map (Token.shift (Text.byteLength (first ++ gap).toList)) := by
  rw [String.append_assoc, tokens_append_of_blanks unbroken some_gap blanks, tokens_of_blanks blanks,
    Token.map_shift_shift, String.toList_append, Text.byteLength_append, Nat.add_comm]

end Texts

/-- A blank of three bytes keeps two signs apart that would be one symbol. -/
theorem tokens_append_blanks_comparison :
    let symbols := ["<=", "√", "<"]
    (∀ symbol ∈ symbols, Unbroken symbol.toList) ∧ Blanks "\u2003".toList ∧
      tokens symbols "√<\u2003=" = [⟨"√", ⟨0, 3⟩⟩, ⟨"<", ⟨3, 4⟩⟩, ⟨"=", ⟨7, 8⟩⟩] := by
  intro symbols
  have unbroken : ∀ symbol ∈ symbols, Unbroken symbol.toList := by decide
  have blanks : Blanks "\u2003".toList := by decide
  have before : tokens symbols "√<" = [⟨"√", ⟨0, 3⟩⟩, ⟨"<", ⟨3, 4⟩⟩] :=
    Cursor.tokens_of_within 2 (by decide)
  have behind : tokens symbols "=" = [⟨"=", ⟨0, 1⟩⟩] := Cursor.tokens_of_within 1 (by decide)
  have halves := tokens_append_blanks symbols unbroken "√<" "=" "\u2003" (by decide) blanks
  rw [before, behind] at halves
  exact ⟨unbroken, blanks, halves⟩

end Lexer

end Formula
