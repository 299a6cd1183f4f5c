import Formula.Calculator
import Formula.Proofs.Lexing.Numerals
import Formula.Proofs.Yard.Shunting

/-!
# Classes of tokens

A token is of the first class that matches where it begins. Classes agree with what tokens stand
for (`operands_of_takenAs`): a number is always an operand, a name is a variable, and a word is no operand, so
that it is looked up as an operator.
-/

namespace Formula.Lexer

namespace Class

/-- The first class of tokens that matches at the beginning of a text. -/
def of? (symbols : List (List Char)) (s : List Char) : Option Class :=
  (ofTokens symbols).find? (·.matchAt s ≠ [])

variable {symbols : List (List Char)} {s : List Char} {kind : Class}

/-- The class of a token matches where the token begins. -/
lemma matchAt_ne_nil (h : of? symbols s = some kind) : kind.matchAt s ≠ [] := by
  simpa using List.find?_some h

/-- The first class that matches gives the text of the token. -/
lemma lexemeAt_eq (h : of? symbols s = some kind) : lexemeAt symbols s = kind.matchAt s := by
  have first : (ofTokens symbols).find? ((fun text => decide (text ≠ [])) ∘ (·.matchAt s)) = some kind := h
  rw [lexemeAt, candidates, List.find?_map, first]
  rfl

end Class

/-- The class of the token that a source text has at a place. -/
def TakenAs (symbols : List String) (source : String) (token : Token) (kind : Class) : Prop :=
  ∃ before rest, Text.cut? token.span.start source.toList = some (before, rest) ∧
    Class.of? (symbols.map String.toList) rest = some kind

/-- The text of a token is what its class matches. -/
lemma TakenAs.exists_match {symbols : List String} {source : String} {token : Token} {kind : Class}
    (h : TakenAs symbols source token kind) (member : token ∈ tokens symbols source) :
    ∃ s, token.text.toList = kind.matchAt s ∧ kind.matchAt s ≠ [] := by
  obtain ⟨before, rest, place, kind_eq⟩ := h
  obtain ⟨before', text, after, ⟨whole, -, lexeme⟩, rfl⟩ := Cursor.exists_stands_of_mem member
  have start : (Cursor.tokenBehind (Cursor.ofSource source) before' text).span.start =
      Text.byteLength before' := Nat.zero_add _
  rw [start, show source.toList = _ from whole, Text.cut?_byteLength] at place
  cases place
  refine ⟨text ++ after, ?_, Class.matchAt_ne_nil kind_eq⟩
  rw [← Class.lexemeAt_eq kind_eq, lexeme]
  exact String.toList_ofList

/-- What begins with no colon is an operand only if it is a number. -/
lemma standardOperand?_of_ne {text : String} {c : Char} {rest : List Char} (starts : text.toList = c :: rest)
    (no_colon : c ≠ ':') : standardOperand? text = numericOperand? text := by
  rw [standardOperand?, starts]
  split
  · next same => exact absurd (List.cons.inj same).1 no_colon
  · next same => exact absurd (List.cons.inj same).1 no_colon
  · rfl

/-- A literal stands for its number. -/
lemma Literal.standardOperand?_text (l : Literal) : standardOperand? l.text = some (.number l.number) := by
  obtain ⟨c, rest, starts, digit⟩ := l.starts
  have no_colon : c ≠ ':' := by
    rintro rfl
    exact absurd digit (by decide)
  rw [standardOperand?_of_ne starts no_colon, numericOperand?, l.parse?_text]
  rfl

/-- A word is no operand. -/
lemma standardOperand?_of_isWord {text : String} (h : isWord text = true) : standardOperand? text = none := by
  obtain ⟨c, rest, starts, word⟩ := exists_of_isWord h
  rw [standardOperand?_of_ne starts (ne_of_isWordChar word (by decide)), numericOperand?, parse?_of_isWord h]
  rfl

section Token

variable {symbols : List String} {source : String} {token : Token} (member : token ∈ tokens symbols source)
include member

/-- A token that is taken as a literal has the text of one. -/
lemma TakenAs.exists_literal (h : TakenAs symbols source token .literal) :
    ∃ l : Literal, token.text = l.text := by
  obtain ⟨s, text, found⟩ := h.exists_match member
  obtain ⟨l, same⟩ := Lexer.exists_literal found
  exact ⟨l, String.ext (text.trans same.symm)⟩

/-- A token that is taken as a name has the text of one. -/
lemma TakenAs.exists_name (h : TakenAs symbols source token .name) : ∃ n : Name, token.text = n.text := by
  obtain ⟨s, text, found⟩ := h.exists_match member
  obtain ⟨c, tail, name, head_word, tail_names⟩ := Regular.mem_names.mp (Finds.names.mem s found)
  refine ⟨⟨c, tail, head_word, tail_names⟩, String.ext ?_⟩
  rw [text, Name.text, String.toList_ofList]
  exact name

/-- A token that is taken as a word has the text of one. -/
lemma TakenAs.isWord (h : TakenAs symbols source token .word) : isWord token.text = true := by
  obtain ⟨s, text, found⟩ := h.exists_match member
  rw [isWord_iff, text]
  exact ⟨found, fun _ => List.mem_takeWhile_imp⟩

end Token

/-- A text is a number if it is a numeral from end to end. In every source text, what the lexer takes as a
number is one, what it takes as a name is a variable and no number, and what it takes as a word is no operand.
So with the default operands a number or a name is taken without an error in every state, while a word is
looked up among the operators. -/
theorem operands_of_takenAs :
    (∀ text, (Number.parse? text).isSome = true ↔ text.toList ∈ Regular.numerals) ∧
    ∀ symbols source, ∀ token ∈ tokens symbols source,
      (TakenAs symbols source token .literal → ∃ x,
        numericOperand? token.text = some (.number x) ∧ standardOperand? token.text = some (.number x)) ∧
      (TakenAs symbols source token .name →
        numericOperand? token.text = none ∧ standardOperand? token.text = some (.variable token.text)) ∧
      (TakenAs symbols source token .word →
        numericOperand? token.text = none ∧ standardOperand? token.text = none) ∧
      ∀ catalogue tokenize (y : Yard),
        let d := Setup.build ⟨catalogue, tokenize, none⟩
        (TakenAs symbols source token .literal ∨ TakenAs symbols source token .name →
          (y.shunt d token).2 = none) ∧
        (TakenAs symbols source token .word →
          y.shunt d token =
            match d.registry.resolve? token.text y.operandExpected with
            | some op => (y.place op, none)
            | none => (y, some (Yard.unknown d.registry token))) := by
  refine ⟨fun text => Regular.isSome_parse?_iff, fun symbols source token member => ?_⟩
  refine ⟨fun taken => ?_, fun taken => ?_, fun taken => ?_,
    fun catalogue tokenize y => ⟨fun taken => ?_, fun taken => ?_⟩⟩
  · obtain ⟨l, text⟩ := taken.exists_literal member
    rw [text, numericOperand?, l.parse?_text]
    exact ⟨l.number, rfl, l.standardOperand?_text⟩
  · obtain ⟨n, text⟩ := taken.exists_name member
    rw [text, numericOperand?, n.parse?_text]
    exact ⟨rfl, n.standardOperand?_text⟩
  · have word := taken.isWord member
    rw [numericOperand?, parse?_of_isWord word]
    exact ⟨rfl, standardOperand?_of_isWord word⟩
  · -- the number of a literal counts before anything else is asked, and a name is no number
    have operand : ∃ value, (Setup.build ⟨catalogue, tokenize, none⟩).operand? token.text = some value := by
      rcases taken with taken | taken
      · obtain ⟨l, text⟩ := taken.exists_literal member
        exact ⟨_, by rw [text, Dialect.operand?, l.parse?_text]⟩
      · obtain ⟨n, text⟩ := taken.exists_name member
        rw [text, Dialect.operand?, n.parse?_text]
        exact ⟨_, n.standardOperand?_text⟩
    obtain ⟨value, found⟩ := operand
    rw [Yard.shunt_of_move (Dialect.move_operand found _)]
    rfl
  · have word := taken.isWord member
    have no_operand : (Setup.build ⟨catalogue, tokenize, none⟩).operand? token.text = none := by
      rw [Dialect.operand?, parse?_of_isWord word]
      exact standardOperand?_of_isWord word
    have no_punctuation {mark : String} (other : Lexer.isWord mark = false) : token.text ≠ mark := by
      intro same
      rw [same, other] at word
      cases word
    rw [Yard.shunt, no_operand]
    have no_opening : token.text ≠ "(" := no_punctuation (by decide)
    have no_closing : token.text ≠ ")" := no_punctuation (by decide)
    have no_separator : token.text ≠ "," := no_punctuation (by decide)
    exact (if_neg no_opening).trans ((if_neg no_closing).trans (if_neg no_separator))

/-- In `2.5e:x1`, the mark of an exponent is a word and no part of the number. -/
theorem operands_of_takenAs_each :
    let source := "2.5e:x1"
    let number : Token := ⟨"2.5", ⟨0, 3⟩⟩
    let word : Token := ⟨"e", ⟨3, 4⟩⟩
    let name : Token := ⟨":x1", ⟨4, 7⟩⟩
    (∀ token ∈ [number, word, name], token ∈ tokens ["-"] source) ∧
      TakenAs ["-"] source number .literal ∧ TakenAs ["-"] source word .word ∧
      TakenAs ["-"] source name .name ∧
      (∃ x, numericOperand? "2.5" = some (.number x) ∧ standardOperand? "2.5" = some (.number x)) ∧
      standardOperand? "e" = none ∧ standardOperand? ":x1" = some (.variable ":x1") ∧
      ∀ y : Yard, (y.shunt .math number).2 = none ∧
        y.shunt .math word = (y, some (.unknownFunction "e" ⟨3, 4⟩)) := by
  intro source number word name
  have found : tokens ["-"] source = [number, word, name] := Cursor.tokens_of_within 3 (by decide)
  have listed : ∀ token ∈ [number, word, name], token ∈ tokens ["-"] source := fun _ => found ▸ id
  have number_taken : TakenAs ["-"] source number .literal :=
    ⟨[], source.toList, by decide, by decide⟩
  have word_taken : TakenAs ["-"] source word .word :=
    ⟨"2.5".toList, "e:x1".toList, by decide, by decide⟩
  have name_taken : TakenAs ["-"] source name .name :=
    ⟨"2.5e".toList, ":x1".toList, by decide, by decide⟩
  obtain ⟨number_stands, -, -, number_shunted⟩ :=
    operands_of_takenAs.2 ["-"] source number (listed _ (by decide))
  obtain ⟨-, -, word_stands, word_shunted⟩ :=
    operands_of_takenAs.2 ["-"] source word (listed _ (by decide))
  obtain ⟨-, name_stands, -⟩ := operands_of_takenAs.2 ["-"] source name (listed _ (by decide))
  refine ⟨listed, number_taken, word_taken, name_taken, number_stands number_taken,
    (word_stands word_taken).2, (name_stands name_taken).2, fun y => ⟨?_, ?_⟩⟩
  · exact (number_shunted Library.math none y).1 (.inl number_taken)
  · have shunted := (word_shunted Library.math none y).2 word_taken
    have undefined (leading : Bool) : Dialect.math.registry.resolve? word.text leading = none := by
      cases leading <;> rfl
    have error : Yard.unknown Dialect.math.registry word = .unknownFunction "e" ⟨3, 4⟩ := by
      rw [Yard.unknown, undefined]
      exact if_pos (by decide)
    change y.shunt .math word = match Dialect.math.registry.resolve? word.text y.operandExpected with
      | some op => (y.place op, none)
      | none => (y, some (Yard.unknown Dialect.math.registry word)) at shunted
    rw [shunted, undefined, error]

end Formula.Lexer
