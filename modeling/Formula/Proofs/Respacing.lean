import Formula.Proofs.Lexing.Division
import Formula.Proofs.Lexing.Partition
import Formula.Proofs.Yard.Places

/-!
# Other blanks between tokens

Where no symbol holds a blank, it makes no difference how many blanks there are between two tokens, nor
whether there were any before. `Respaced` relates two texts of which one has got other blanks outside the
tokens of the other, in any number of steps. Each step keeps the texts of the tokens (`Respaced.texts`), and
what is read of the tokens depends on their texts but for the places in errors.
-/

namespace Formula

/-- Moving tokens leaves their texts as they are. -/
lemma Token.map_text_shift (tokens : List Token) (amount : Nat) :
    (tokens.map (shift amount)).map text = tokens.map text := by
  rw [List.map_map]
  rfl

namespace Lexer

/-- `text` is `source` with other blanks outside its tokens. -/
inductive Respaced (symbols : List String) : String → String → Prop where
  /-- There are more blanks in a place outside the tokens. -/
  | insert {before after gap : String} :
    (∀ token ∈ tokens symbols (before ++ after), token.Outside (Text.byteLength before.toList)) →
    Blanks gap.toList →
    Respaced symbols (before ++ after) (before ++ gap ++ after)
  /-- The texts of the tokens have any blanks between them. -/
  | space {source text : String} :
    Spaced ((tokens symbols source).map Token.text) text.toList →
    Respaced symbols source text
  | trans {source between text : String} :
    Respaced symbols source between →
    Respaced symbols between text →
    Respaced symbols source text

variable {symbols : List String} {source text gap before after : String}

/-- Words joined by blanks are spaced. -/
lemma spaced_intercalate (some_gap : gap ≠ "") (blanks : Blanks gap.toList) (words : List String) :
    Spaced words (gap.intercalate words).toList := by
  have none : Blanks [] := List.forall_mem_nil _
  induction words with
  | nil =>
    rw [String.intercalate_nil]
    exact .nil none
  | cons word words ih =>
    cases words with
    | nil =>
      have alone : Spaced [word] ([] ++ (word.toList ++ [])) := by
        apply Spaced.cons none _ (.nil none)
        rintro c ⟨⟩
      simpa using alone
    | cons other others =>
      have stops : Stops (gap.toList ++ (gap.intercalate (other :: others)).toList) := by
        have some_blank : gap.toList ≠ [] := by simpa using some_gap
        intro c next
        rw [List.head?_append_of_ne_nil _ some_blank] at next
        exact blanks c (List.mem_of_mem_head? next)
      rw [String.intercalate_cons_of_ne_nil (List.cons_ne_nil other others), String.append_assoc,
        String.toList_append, String.toList_append]
      exact .cons none stops (ih.indent blanks)

/-- The texts of the tokens are joined by some blanks. -/
lemma Respaced.join (some_gap : gap ≠ "") (blanks : Blanks gap.toList) (source : String) :
    Respaced symbols source (gap.intercalate ((tokens symbols source).map Token.text)) :=
  .space (spaced_intercalate some_gap blanks _)

/-- A token ends behind the place where it begins. -/
lemma start_le_stop {token : Token} (member : token ∈ tokens symbols source) :
    token.span.start ≤ token.span.stop := by
  obtain ⟨before, text, after, -, rfl⟩ := Cursor.exists_stands_of_mem member
  exact Nat.le_add_right _ _

/-- A place between two tokens, one after the other, is outside all of them. -/
lemma outside_between (earlier : List Token) {later : List Token} {a b : Token} {offset : Nat}
    (found : tokens symbols source = earlier ++ a :: b :: later) (behind : a.span.stop ≤ offset)
    (ahead : offset ≤ b.span.start) : ∀ token ∈ tokens symbols source, token.Outside offset := by
  have partitions : Partitions source.toList [] (tokens symbols source) :=
    (Cursor.Passed.ofSource source).partitions
  have ordered := partitions.pairwise
  have forward : ∀ token ∈ tokens symbols source, token.span.start ≤ token.span.stop :=
    fun _ => start_le_stop
  rw [found] at ordered forward ⊢
  obtain ⟨-, others, before_a⟩ := List.pairwise_append.mp ordered
  obtain ⟨-, others⟩ := List.pairwise_cons.mp others
  obtain ⟨after_b, -⟩ := List.pairwise_cons.mp others
  intro token member
  rcases List.mem_append.mp member with early | member
  · have left := before_a token early a List.mem_cons_self
    have long := forward a (List.mem_append_right _ List.mem_cons_self)
    exact .inl (left.trans (long.trans behind))
  · rcases List.mem_cons.mp member with rfl | member
    · exact .inl behind
    · rcases List.mem_cons.mp member with rfl | late
      · exact .inr ahead
      · have right := after_b token late
        have long := forward b (by simp)
        exact .inr (ahead.trans (long.trans right))

section Unbroken

variable (unbroken : ∀ symbol ∈ symbols, Unbroken symbol.toList)
include unbroken

/-- Blanks outside the tokens move those after them along, and change nothing else. -/
lemma tokens_insert_blanks
    (outside : ∀ token ∈ tokens symbols (before ++ after), token.Outside (Text.byteLength before.toList))
    (blanks : Blanks gap.toList) :
    (tokens symbols (before ++ gap ++ after)).map Token.text =
      (tokens symbols (before ++ after)).map Token.text := by
  by_cases none : gap = ""
  · rw [none, String.append_empty]
  · rw [String.append_assoc, tokens_append_of_blanks unbroken none blanks, tokens_of_blanks blanks,
      tokens_append outside]
    simp only [List.map_append, Token.map_text_shift]

/-- The text of every token is a lexeme by itself. -/
lemma isLexeme_of_mem_tokens {token : Token} (member : token ∈ tokens symbols source) :
    IsLexeme (symbols.map String.toList) token.text := by
  have unbroken_lists : ∀ symbol ∈ symbols.map String.toList, Unbroken symbol := by
    simpa only [List.forall_mem_map] using unbroken
  obtain ⟨before, text, after, ⟨-, ⟨first, others, rfl, no_blank⟩, lexeme⟩, rfl⟩ :=
    Cursor.exists_stands_of_mem member
  exact isLexeme_of_lexemeAt unbroken_lists lexeme no_blank

/-- Other blanks leave the texts of the tokens as they are. -/
lemma Respaced.texts (h : Respaced symbols source text) :
    (tokens symbols text).map Token.text = (tokens symbols source).map Token.text := by
  induction h with
  | insert outside blanks => exact tokens_insert_blanks unbroken outside blanks
  | space spaced =>
    apply Cursor.tokens_of_spaced spaced _ rfl
    intro word member
    obtain ⟨token, found, rfl⟩ := List.mem_map.mp member
    exact isLexeme_of_mem_tokens unbroken found
  | trans _ _ first second => exact second.trans first

end Unbroken

end Lexer

/-- With a lexer, the value of a source is that of what is read from its tokens. -/
lemma Evaluator.evaluate_of_lexes {d : Dialect} {symbols : List String}
    (lexes : d.tokenize = lexWith symbols) (lookup : Lookup) (bindings : Bindings) (source : String) :
    (evaluate lookup bindings (d.parse source)).1 =
      evaluateItems lookup bindings (d.read (Lexer.tokens symbols source)) := by
  rw [Dialect.parse, (Replay.Keeps.ofSource _).evaluate_eq, Dialect.items_ofSource lexes]

namespace Lexer

/-- A text with other blanks outside its tokens has tokens with the same texts. What is read of it and every
value are the same, up to the place that an error tells. -/
theorem Respaced.read_alike {symbols : List String} {source text : String}
    (unbroken : ∀ symbol ∈ symbols, Unbroken symbol.toList) (respaced : Respaced symbols source text) :
    (tokens symbols text).map Token.text = (tokens symbols source).map Token.text ∧
      ∀ d : Dialect, d.tokenize = lexWith symbols →
        (FiniteSource.items (Rpn.ofSource d text)).map Item.unplaced =
          (FiniteSource.items (Rpn.ofSource d source)).map Item.unplaced ∧
        ∀ lookup bindings,
          (Evaluator.evaluate lookup bindings (d.parse text)).1.mapError Failure.unplaced =
            (Evaluator.evaluate lookup bindings (d.parse source)).1.mapError Failure.unplaced := by
  have texts := respaced.texts unbroken
  refine ⟨texts, fun d lexes => ?_⟩
  have alike := d.read_of_texts texts
  constructor
  · rw [Dialect.items_ofSource lexes, Dialect.items_ofSource lexes]
    exact alike
  · intro lookup bindings
    rw [Evaluator.evaluate_of_lexes lexes, Evaluator.evaluate_of_lexes lexes,
      ← Evaluator.evaluateItems_unplaced, ← Evaluator.evaluateItems_unplaced, alike]

/-- A blank before the sign in `:x**-:y)` moves the error on and does nothing else, and so do blanks
everywhere. -/
theorem Respaced.read_alike_power :
    let symbols := ["*", "**", "-"]
    let powers := (Setup.ofCatalogue [(["*"], Library.multiplication), (["**"], Library.power),
      (["-"], Library.negation)]).build
    let rpn : List Item := [.ok (.operand (.variable ":x")), .ok (.operand (.variable ":y")),
      .ok (.operator Library.negation), .ok (.operator Library.power)]
    (∀ symbol ∈ symbols, Unbroken symbol.toList) ∧ powers.tokenize = lexWith symbols ∧
      FiniteSource.items (Rpn.ofSource powers ":x**-:y)") =
        rpn ++ [.error (.mismatchedParentheses ⟨7, 8⟩)] ∧
      ∀ text ∈ [":x**\t-:y)", ":x ** - :y )"], Respaced symbols ":x**-:y)" text ∧
        (FiniteSource.items (Rpn.ofSource powers text)).map Item.unplaced =
          rpn ++ [.error (.mismatchedParentheses default)] := by
  intro symbols powers rpn
  have unbroken : ∀ symbol ∈ symbols, Unbroken symbol.toList := by decide
  have lexes : powers.tokenize = lexWith symbols := rfl
  have found : tokens symbols ":x**-:y)" = [⟨":x", ⟨0, 2⟩⟩, ⟨"**", ⟨2, 4⟩⟩, ⟨"-", ⟨4, 5⟩⟩,
      ⟨":y", ⟨5, 7⟩⟩, ⟨")", ⟨7, 8⟩⟩] :=
    Cursor.tokens_of_within 5 (by decide)
  have items : FiniteSource.items (Rpn.ofSource powers ":x**-:y)") =
      rpn ++ [.error (.mismatchedParentheses ⟨7, 8⟩)] := by
    rw [Dialect.items_ofSource lexes, found, Dialect.read_eq_yielded]
    rfl
  have outside : ∀ token ∈ tokens symbols (":x**" ++ "-:y)"),
      token.Outside (Text.byteLength ":x**".toList) :=
    outside_between [⟨":x", ⟨0, 2⟩⟩] found le_rfl le_rfl
  have blank : Blanks "\t".toList := by decide
  have inserted : Respaced symbols ":x**-:y)" ":x**\t-:y)" := Respaced.insert outside blank
  have joined : Respaced symbols ":x**-:y)"
      (" ".intercalate ((tokens symbols ":x**-:y)").map Token.text)) :=
    .join (by decide) (by decide) _
  rw [found] at joined
  have first := (inserted.read_alike unbroken).2 powers lexes
  have second := (joined.read_alike unbroken).2 powers lexes
  rw [items] at first second
  refine ⟨unbroken, lexes, items, ?_⟩
  simp only [List.forall_mem_cons]
  exact ⟨⟨inserted, first.1⟩, ⟨joined, second.1⟩, List.forall_mem_nil _⟩

end Lexer

end Formula
