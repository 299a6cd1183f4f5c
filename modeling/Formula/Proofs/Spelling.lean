import Formula.Proofs.Extension
import Formula.Proofs.Lexing.Operands
import Formula.Proofs.Phrase
import Formula.Proofs.Registry
import Mathlib.Tactic.TFAE

/-!
# Tokens that can be written

A token may be registered that no source can use: the lexer divides it, or what it finds is an operand or
punctuation. `Lexer.Writable` tells those that can be used, whatever else is registered: words, and texts that
begin no other class and are neither punctuation nor numbers. Just these are the only token where they stand
alone, and spell their operator (`Setup.looksUp_tfae`).
-/

namespace Formula

namespace Lexer

section Lexemes

variable {symbols : List (List Char)} {c : Char} {rest : List Char}

/-- A symbol that begins no other class is found whole. -/
lemma lexemeAt_of_symbol (member : c :: rest ∈ symbols) (no_word : isWordChar c = false)
    (no_digit : c.isDigit = false) (alone : c = ':' → rest = []) :
    lexemeAt symbols (c :: rest) = c :: rest := by
  have variable_none : variableAt (c :: rest) = [] := by
    by_cases colon : c = ':'
    · rw [colon, alone colon]
      rfl
    · exact variableAt_of_ne colon
  have word_none : wordAt (c :: rest) = [] := by simp [wordAt, no_word]
  have literal_none : literalAt (c :: rest) = [] := by simp [literalAt, Number.Numeral.digits, no_digit]
  have symbol : symbolAt symbols (c :: rest) = c :: rest :=
    (symbolAt_isPrefix symbols _).eq_of_length_le (isPrefix_symbolAt member List.prefix_rfl).length_le
  simp [lexemeAt, candidates, Class.ofTokens, Class.matchAt, variable_none, word_none, literal_none, symbol]

/-- What begins with a word character and is a lexeme is a word. -/
lemma all_of_lexemeAt (word : isWordChar c = true) (lexeme : lexemeAt symbols (c :: rest) = c :: rest) :
    ∀ d ∈ c :: rest, isWordChar d = true := by
  have no_colon : c ≠ ':' := ne_of_isWordChar word (by decide)
  have some_word : wordAt (c :: rest) ≠ [] := by simp [wordAt, word]
  rw [lexemeAt_of_word (variableAt_of_ne no_colon) some_word] at lexeme
  exact List.takeWhile_eq_self_iff.mp lexeme

/-- What begins with a digit and is a lexeme is a literal. -/
lemma exists_literal_of_lexemeAt (digit : c.isDigit = true)
    (lexeme : lexemeAt symbols (c :: rest) = c :: rest) : ∃ l : Literal, l.text.toList = c :: rest := by
  have no_colon : c ≠ ':' := by
    rintro rfl
    exact absurd digit (by decide)
  have word_none : wordAt (c :: rest) = [] := by simp [wordAt, isWordChar_of_isDigit digit]
  have some_digit : literalAt (c :: rest) ≠ [] := by
    rw [literalAt_eq]
    simp [Number.Numeral.digits, digit]
  rw [lexemeAt_of_literal (variableAt_of_ne no_colon) word_none some_digit] at lexeme
  rw [← lexeme]
  exact exists_literal some_digit

end Lexemes

/-- A text is its only token if it is a lexeme that does not begin with a blank. -/
lemma tokens_eq_singleton_iff {symbols : List String} {s : String} :
    tokens symbols s = [⟨s, ⟨0, Text.byteLength s.toList⟩⟩] ↔
      (∃ c rest, s.toList = c :: rest ∧ Text.isBlank c = false) ∧
        lexemeAt (symbols.map String.toList) s.toList = s.toList := by
  constructor
  · intro single
    have member : (⟨s, ⟨0, Text.byteLength s.toList⟩⟩ : Token) ∈ tokens symbols s := by simp [single]
    obtain ⟨before, text, after, ⟨whole, starts, lexeme⟩, same⟩ := Cursor.exists_stands_of_mem member
    have text_eq : text = s.toList := by
      have name : s = String.ofList text := congrArg Token.text same
      rw [name, String.toList_ofList]
    -- the token takes all of the text, so that nothing is before or behind it
    have whole_length := congrArg List.length (show s.toList = _ from whole)
    simp only [text_eq, List.length_append] at whole_length
    have no_after : after = [] := List.eq_nil_of_length_eq_zero (by omega)
    rw [no_after, List.append_nil, text_eq] at lexeme
    rw [text_eq] at starts
    exact ⟨starts, lexeme⟩
  · rintro ⟨starts, lexeme⟩
    have stands : Stands (symbols.map String.toList) (Cursor.ofSource s).rest [] s.toList [] :=
      ⟨(List.append_nil _).symm, starts, by rwa [List.append_nil]⟩
    have next := Cursor.next?_of_stands stands nofun
    have ended (position : Nat) : Cursor.tokens (symbols.map String.toList) ⟨[], position⟩ = [] :=
      Cursor.tokens_of_none (Cursor.next?_of_blanks nofun)
    rw [tokens, Cursor.tokens_of_some next, ended]
    simp [Cursor.tokenBehind, Cursor.ofSource, Text.byteLength]

/-- A text that can be written for an operator that it spells. -/
inductive Writable (s : String) : Prop where
  | word : isWord s = true → Writable s
  /-- It begins no token of another class, and is neither punctuation nor a number. -/
  | sign {c : Char} {rest : List Char} :
    s.toList = c :: rest →
    Text.isBlank c = false →
    isWordChar c = false →
    c.isDigit = false →
    (c = ':' → rest = []) →
    s ∉ ["(", ")", ","] →
    Number.parse? s = none →
    Writable s

end Lexer

section Alone

variable {d : Dialect} {token : Token} {op : Operator}

/-- A token whose move is an operator spells it. -/
lemma Spells.of_move {expected : Bool} (h : d.move token expected = .operator op) :
    Spells d token expected op := by
  unfold Dialect.move at h
  split at h
  · cases h
  · next no_operand =>
    split_ifs at h with opening closing separator
    split at h
    · next resolves =>
      cases h
      exact ⟨no_operand, by simp [opening, closing, separator], resolves⟩
    · cases h

/-- What a move yields with no other before or after it. -/
def Move.alone : Move → List Item
  | .operand value => [.ok (.operand value)]
  | .opening span => [.error (.mismatchedParentheses span)]
  | .closing span => [.error (.mismatchedParentheses span)]
  | .separator => []
  | .operator op => [.ok (.operator op)]
  | .unknown e => [.error e]

/-- A token alone is read as its move is. -/
lemma Dialect.read_singleton (d : Dialect) (token : Token) : d.read [token] = (d.move token true).alone := by
  have shunt : Yard.empty.shunt d token = Yard.empty.make (d.move token true) :=
    Yard.shunt_eq_make d .empty token
  rw [read_eq_yielded, Yard.parse, Yard.shuntAll_cons_eq, shunt]
  cases d.move token true with
  | operator op =>
    obtain ⟨name, fixity, associativity, precedence, body⟩ := op
    cases fixity <;> rfl
  | _ => rfl

/-- It is read as an operator if it spells it. -/
lemma Dialect.read_singleton_iff : d.read [token] = [.ok (.operator op)] ↔ Spells d token true op := by
  rw [read_singleton]
  constructor
  · intro alone
    cases move : d.move token true with
    | operator other =>
      rw [move] at alone
      cases alone
      exact .of_move move
    | _ =>
      rw [move] at alone
      cases alone
  · intro spells
    rw [spells.move]
    rfl

end Alone

/-- The whole of a source is its only token, and it spells an operator. -/
structure Dialect.LooksUp (d : Dialect) (s : String) (op : Operator) : Prop where
  tokens : d.tokenize s = [some ⟨s, ⟨0, Text.byteLength s.toList⟩⟩]
  spells : Spells d ⟨s, ⟨0, Text.byteLength s.toList⟩⟩ true op

namespace Setup

variable {catalogue : Catalogue} {s : String} {op : Operator}

/-- By default, operands are numbers and what has more than a colon at its beginning. -/
lemma operand?_eq_none_iff : (ofCatalogue catalogue).build.operand? s = none ↔
    Number.parse? s = none ∧ ∀ c rest, s.toList ≠ ':' :: c :: rest := by
  cases number : Number.parse? s with
  | some x => simp [Dialect.operand?, number]
  | none =>
    have resolved : (ofCatalogue catalogue).build.operand? s = standardOperand? s := by
      rw [Dialect.operand?, number]
      rfl
    rw [resolved, standardOperand?, numericOperand?, number]
    split
    · next colon => simp [colon]
    · next others more named =>
      obtain ⟨c, rest, rfl⟩ := List.exists_cons_of_ne_nil more
      simp [named]
    · next other => simpa using fun c rest => other (c :: rest)

/-- What is looked up can be written. -/
lemma writable_of_looksUp (h : (ofCatalogue catalogue).build.LooksUp s op) : Lexer.Writable s := by
  obtain ⟨tokens, no_operand, no_punctuation, -⟩ := h
  obtain ⟨no_number, no_variable⟩ := operand?_eq_none_iff.mp no_operand
  have single : Lexer.tokens catalogue.registry.symbols s = [⟨s, ⟨0, Text.byteLength s.toList⟩⟩] :=
    List.map_injective_iff.mpr (fun _ _ => Option.some.inj) tokens
  obtain ⟨⟨c, rest, starts, no_blank⟩, lexeme⟩ := Lexer.tokens_eq_singleton_iff.mp single
  by_cases word : Lexer.isWordChar c = true
  · rw [starts] at lexeme
    refine .word (Lexer.isWord_iff.mpr ⟨by simp [starts], ?_⟩)
    rw [starts]
    exact Lexer.all_of_lexemeAt word lexeme
  · have no_digit : c.isDigit = false := by
      by_contra digit
      rw [starts] at lexeme
      obtain ⟨l, same⟩ := Lexer.exists_literal_of_lexemeAt (by simpa using digit) lexeme
      have number := l.parse?_text
      rw [String.ext (same.trans starts.symm), no_number] at number
      cases number
    refine .sign starts no_blank (by simpa using word) no_digit ?_ no_punctuation no_number
    rintro rfl
    cases rest with
    | nil => rfl
    | cons d others => exact absurd starts (no_variable d others)

/-- What is registered and can be written is looked up. -/
lemma looksUp_of_writable (registered : ∃ entry ∈ catalogue, s ∈ entry.1)
    (resolves : catalogue.registry.resolve? s true = some op) (writable : Lexer.Writable s) :
    (ofCatalogue catalogue).build.LooksUp s op := by
  have single (lexeme : (∃ c rest, s.toList = c :: rest ∧ Text.isBlank c = false) ∧
      Lexer.lexemeAt (catalogue.registry.symbols.map String.toList) s.toList = s.toList) :
      (ofCatalogue catalogue).build.tokenize s = [some ⟨s, ⟨0, Text.byteLength s.toList⟩⟩] :=
    congrArg (List.map some) (Lexer.tokens_eq_singleton_iff.mpr lexeme)
  cases writable with
  | word word =>
    obtain ⟨c, rest, starts, word_char⟩ := Lexer.exists_of_isWord word
    have no_blank := Lexer.isBlank_of_isNameChar (Lexer.isNameChar_of_isWordChar word_char)
    have whole : Lexer.IsLexeme (catalogue.registry.symbols.map String.toList) s :=
      Lexer.isLexeme_of_isWord word
    have lexeme := whole.alone [] nofun
    rw [List.append_nil] at lexeme
    refine ⟨single ⟨⟨c, rest, starts, no_blank⟩, lexeme⟩, ?_, ?_, resolves⟩
    · refine operand?_eq_none_iff.mpr ⟨Lexer.parse?_of_isWord word, fun d others colon => ?_⟩
      rw [starts] at colon
      cases colon
      exact absurd word_char (by decide)
    · intro punctuation
      simp only [List.mem_cons, List.not_mem_nil, or_false] at punctuation
      rcases punctuation with rfl | rfl | rfl <;> exact absurd word (by decide)
  | @sign c rest starts no_blank no_word no_digit alone no_punctuation no_number =>
    have no_word_text : Lexer.isWord s = false := by
      by_contra word
      obtain ⟨d, others, starts', word_char⟩ := Lexer.exists_of_isWord (by simpa using word)
      rw [starts] at starts'
      cases starts'
      rw [no_word] at word_char
      cases word_char
    have member := Catalogue.mem_symbols_registry.mpr ⟨registered, no_word_text⟩
    have listed := List.mem_map_of_mem (f := String.toList) member
    rw [starts] at listed
    have lexeme := Lexer.lexemeAt_of_symbol listed no_word no_digit alone
    refine ⟨single ⟨⟨c, rest, starts, no_blank⟩, starts ▸ lexeme⟩, ?_, no_punctuation, resolves⟩
    refine operand?_eq_none_iff.mpr ⟨no_number, fun d others colon => ?_⟩
    rw [starts] at colon
    cases colon
    cases alone rfl

/-- Whatever else is registered, a token is the only one where it stands alone and spells its operator,
which is then all that is read, if it can be written, and only then. -/
theorem looksUp_tfae (catalogue : Catalogue) (s : String) (registered : ∃ entry ∈ catalogue, s ∈ entry.1) :
    let d := (ofCatalogue catalogue).build
    ∃ op, d.registry.resolve? s true = some op ∧
      [d.LooksUp s op,
        d.tokenize s = [some ⟨s, ⟨0, Text.byteLength s.toList⟩⟩] ∧
          FiniteSource.items (Rpn.ofSource d s) = [.ok (.operator op)],
        Lexer.Writable s].TFAE := by
  intro d
  obtain ⟨op, resolves⟩ := Catalogue.exists_resolve?_registry.mpr registered
  refine ⟨op, resolves, ?_⟩
  have items (tokens : d.tokenize s = [some ⟨s, ⟨0, Text.byteLength s.toList⟩⟩]) :
      FiniteSource.items (Rpn.ofSource d s) = d.read [⟨s, ⟨0, Text.byteLength s.toList⟩⟩] := by
    rw [Rpn.ofSource, tokens]
    rfl
  tfae_have 1 → 2 := by
    rintro ⟨tokens, spells⟩
    exact ⟨tokens, (items tokens).trans (Dialect.read_singleton_iff.mpr spells)⟩
  tfae_have 2 → 1 := by
    rintro ⟨tokens, read⟩
    exact ⟨tokens, Dialect.read_singleton_iff.mp ((items tokens).symm.trans read)⟩
  tfae_have 1 → 3 := writable_of_looksUp
  tfae_have 3 → 1 := looksUp_of_writable registered resolves
  tfae_finish

/-- A sign can be written though another one begins it; `:=` is a variable and cannot. -/
theorem looksUp_tfae_signs :
    let catalogue : Catalogue := [(["*"], Library.multiplication), (["**", ":="], Library.power)]
    let d := (ofCatalogue catalogue).build
    (∃ entry ∈ catalogue, "**" ∈ entry.1) ∧ (∃ entry ∈ catalogue, ":=" ∈ entry.1) ∧
      (∃ op, d.LooksUp "**" op ∧ FiniteSource.items (Rpn.ofSource d "**") = [.ok (.operator op)]) ∧
      ∃ op, d.registry.resolve? ":=" true = some op ∧ ¬ d.LooksUp ":=" op := by
  intro catalogue d
  have power : ∃ entry ∈ catalogue, "**" ∈ entry.1 := by decide
  have equals : ∃ entry ∈ catalogue, ":=" ∈ entry.1 := by decide
  have writable : Lexer.Writable "**" := .sign rfl rfl rfl rfl nofun (by decide) rfl
  have not_writable : ¬ Lexer.Writable ":=" := by
    intro writable
    cases writable with
    | word word => exact absurd word (by decide)
    | sign starts _ _ _ alone _ _ =>
      cases starts
      cases alone rfl
  obtain ⟨op, -, whole⟩ := looksUp_tfae catalogue "**" power
  obtain ⟨other, resolves, variable_only⟩ := looksUp_tfae catalogue ":=" equals
  have looked_up : d.LooksUp "**" op := (whole.out 0 2).mpr writable
  have read : _ ∧ FiniteSource.items (Rpn.ofSource d "**") = _ := (whole.out 0 1).mp looked_up
  refine ⟨power, equals, ⟨op, looked_up, read.2⟩, other, resolves, fun looked_up => ?_⟩
  exact not_writable ((variable_only.out 0 2).mp looked_up)

end Setup

end Formula
