import Formula.Proofs.Lexing.Division
import Formula.Proofs.Yard.Group

/-!
# More operators

An operator that is added to a dialect makes a difference only to sources in which one of its tokens occurs.
With more symbols the lexer finds the same tokens, where none of the others occurs in the text
(`Lexer.tokens_congr`), and what is read of tokens depends on what the registry says of their texts
(`Dialect.read_congr`).
-/

namespace Formula

namespace Registry

/-- Two registries say the same of a text. -/
structure AgreeOn (r r' : Registry) (text : String) : Prop where
  resolve? : ∀ operandExpected, r.resolve? text operandExpected = r'.resolve? text operandExpected
  mem_symbols : text ∈ r.symbols ↔ text ∈ r'.symbols

variable {r r' r'' : Registry} {text symbol : String}

/-- Agreement on a text carries over from one registry to the next. -/
lemma AgreeOn.trans (first : r.AgreeOn r' text) (second : r'.AgreeOn r'' text) :
    r.AgreeOn r'' text where
  resolve? expected := (first.resolve? expected).trans (second.resolve? expected)
  mem_symbols := first.mem_symbols.trans second.mem_symbols

/-- To register a symbol makes no difference to other texts. -/
lemma agreeOn_register (other : text ≠ symbol) (op : Operator) :
    (r.register symbol op).AgreeOn r text where
  resolve? expected := by
    unfold Registry.resolve? register
    cases op.fixity.precedesOperand <;> simp [other]
  mem_symbols := by
    unfold register
    dsimp only
    split
    · rfl
    · simp [other]

/-- Adding symbols changes nothing for any other text. -/
lemma agreeOn_add {symbols : List String} (others : text ∉ symbols) (op : Operator) :
    (r.add symbols op).AgreeOn r text := by
  induction symbols generalizing r with
  | nil => exact ⟨fun _ => rfl, Iff.rfl⟩
  | cons symbol symbols ih =>
    have later := ih (r := r.register symbol op) (List.not_mem_of_not_mem_cons others)
    exact later.trans (agreeOn_register (List.ne_of_not_mem_cons others) op)

end Registry

namespace Lexer

section Symbols

variable {symbols symbols' : List (List Char)}

/-- The first lexeme depends on the symbols that a text begins with only. -/
lemma lexemeAt_congr {s : List Char}
    (h : ∀ option, option <+: s → (option ∈ symbols ↔ option ∈ symbols')) :
    lexemeAt symbols s = lexemeAt symbols' s := by
  simp only [lexemeAt, candidates, Class.ofTokens, List.map_cons, Class.matchAt, symbolAt_congr h]

namespace Cursor

/-- Symbols that agree on what occurs in the rest of a text find the same token. -/
lemma next?_congr {c : Cursor}
    (h : ∀ option, option <:+: c.rest → (option ∈ symbols ↔ option ∈ symbols')) :
    c.next? symbols = c.next? symbols' := by
  have lexeme : lexemeAt symbols c.skipBlanks.rest = lexemeAt symbols' c.skipBlanks.rest := by
    apply lexemeAt_congr
    intro option fits
    rw [rest_skipBlanks] at fits
    exact h option (fits.isInfix.trans (List.dropWhile_suffix _).isInfix)
  rw [next?, next?, readClass?, readClass?, lexeme]

/-- The tokens depend on the symbols that occur in a text only. -/
lemma tokens_congr {c : Cursor}
    (h : ∀ option, option <:+: c.rest → (option ∈ symbols ↔ option ∈ symbols')) :
    c.tokens symbols = c.tokens symbols' := by
  fun_induction Cursor.tokens symbols c with
  | case1 c ended =>
    rw [next?_congr h] at ended
    rw [tokens_of_none ended]
  | case2 c token c' next ih =>
    obtain ⟨gap, text, after, stands, -, -, rfl⟩ := exists_stands next
    -- what occurs behind the token occurs in the text
    have behind : after <:+: c.rest := ⟨gap ++ text, [], by simp [stands.whole]⟩
    rw [ih fun option occurs => h option (occurs.trans behind)]
    rw [next?_congr h] at next
    rw [tokens_of_some next]

end Cursor

end Symbols

variable {symbols symbols' : List String} {source : String}

/-- Symbols that agree on what occurs in a source find the same tokens. -/
lemma tokens_congr
    (h : ∀ text : String, text.toList <:+: source.toList → (text ∈ symbols ↔ text ∈ symbols')) :
    tokens symbols source = tokens symbols' source := by
  apply Cursor.tokens_congr
  intro option occurs
  have same := h (String.ofList option) (by rwa [String.toList_ofList])
  have listed (symbols : List String) :
      option ∈ symbols.map String.toList ↔ String.ofList option ∈ symbols := by
    rw [List.mem_map]
    constructor
    · rintro ⟨symbol, member, rfl⟩
      rwa [String.ofList_toList]
    · intro member
      exact ⟨_, member, String.toList_ofList⟩
  rw [listed, listed, same]

/-- The text of every token occurs in the source. -/
lemma isInfix_of_mem_tokens {token : Token} (member : token ∈ tokens symbols source) :
    token.text.toList <:+: source.toList := by
  obtain ⟨before, text, after, stands, rfl⟩ := Cursor.exists_stands_of_mem member
  refine ⟨before, after, ?_⟩
  simp only [Cursor.tokenBehind, String.toList_ofList, List.append_assoc]
  exact stands.whole.symm

end Lexer

section Reading

variable {d d' : Dialect} {token : Token} {tokens : List Token}

/-- An error names a token alike where the registries agree on its text. -/
lemma Yard.unknown_congr {r r' : Registry} (agree : r.AgreeOn r' token.text) :
    Yard.unknown r token = Yard.unknown r' token := by
  rw [unknown, unknown, agree.resolve?]

/-- The move of a token depends on what its text spells. -/
lemma Dialect.move_congr (operand : d.operand? token.text = d'.operand? token.text)
    (agree : d.registry.AgreeOn d'.registry token.text) (operandExpected : Bool) :
    d.move token operandExpected = d'.move token operandExpected := by
  rw [move, move, operand, agree.resolve?, Yard.unknown_congr agree]

/-- Dialects that move each of the tokens alike shunt them alike. -/
lemma Yard.shuntAll_congr
    (h : ∀ token ∈ tokens, ∀ expected, d.move token expected = d'.move token expected) (y : Yard) :
    y.shuntAll d tokens = y.shuntAll d' tokens := by
  induction tokens generalizing y with
  | nil => rfl
  | cons token rest ih =>
    have others := ih fun other member => h other (List.mem_cons_of_mem _ member)
    have first := h token List.mem_cons_self y.operandExpected
    rw [shuntAll_cons_eq, shuntAll_cons_eq, shunt_eq_make, shunt_eq_make, first]
    obtain ⟨y', error⟩ := y.make (d'.move token y.operandExpected)
    cases error with
    | none => exact others y'
    | some e => rfl

/-- Tokens are read alike where they have the same moves. -/
lemma Dialect.read_congr
    (h : ∀ token ∈ tokens, ∀ expected, d.move token expected = d'.move token expected) :
    d.read tokens = d'.read tokens := by
  rw [read_eq_yielded, read_eq_yielded, Yard.parse, Yard.parse, Yard.shuntAll_congr h]

end Reading

namespace Setup

variable {s : Setup}

/-- An operator that is given to a setup is added to the registry that is built. -/
lemma registry_withOperator (s : Setup) (aliases : List String) (op : Operator) :
    (s.withOperator aliases op).build.registry = s.build.registry.add aliases op :=
  List.foldl_append

/-- Without a tokenizer of its own, a setup is built with the lexer of its symbols. -/
lemma tokenize_build (default_lexer : s.tokenize = none) :
    s.build.tokenize = lexWith s.build.registry.symbols := by
  rw [build, default_lexer]
  rfl

/-- An operator that is added changes nothing about a source in which none of its tokens occurs. -/
theorem items_withOperator (s : Setup) (default_lexer : s.tokenize = none) (aliases : List String)
    (op : Operator) (source : String)
    (absent : ∀ symbol ∈ aliases, ¬ symbol.toList <:+: source.toList) :
    FiniteSource.items (Rpn.ofSource (s.withOperator aliases op).build source) =
      FiniteSource.items (Rpn.ofSource s.build source) := by
  have agree (text : String) (occurs : text.toList <:+: source.toList) :
      (s.withOperator aliases op).build.registry.AgreeOn s.build.registry text := by
    rw [registry_withOperator]
    exact Registry.agreeOn_add (fun member => absent text member occurs) op
  have lexes := tokenize_build default_lexer
  have lexes' : (s.withOperator aliases op).build.tokenize =
      lexWith (s.withOperator aliases op).build.registry.symbols := tokenize_build default_lexer
  have found : Lexer.tokens (s.withOperator aliases op).build.registry.symbols source =
      Lexer.tokens s.build.registry.symbols source :=
    Lexer.tokens_congr fun text occurs => (agree text occurs).mem_symbols
  rw [Dialect.items_ofSource lexes, Dialect.items_ofSource lexes', found]
  apply Dialect.read_congr
  intro token member expected
  apply Dialect.move_congr
  · rfl
  · exact agree _ (Lexer.isInfix_of_mem_tokens member)

/-- Neither `**` nor `sine` occurs where a shorter sign and a shorter word do, which stays unknown. -/
theorem items_withOperator_shorter :
    let s := Setup.ofCatalogue [(["*"], Library.multiplication), (["-"], Library.negation)]
    let aliases := ["**", "sine"]
    s.tokenize = none ∧ (∀ symbol ∈ aliases, ¬ symbol.toList <:+: ":a*-sin".toList) ∧
      (s.withOperator aliases Library.power).build.registry.symbols = ["*", "-", "**"] ∧
      FiniteSource.items (Rpn.ofSource (s.withOperator aliases Library.power).build ":a*-sin") =
        [.ok (.operand (.variable ":a")), .error (.unknownFunction "sin" ⟨4, 7⟩)] := by
  intro s aliases
  have absent : ∀ symbol ∈ aliases, ¬ symbol.toList <:+: ":a*-sin".toList := by decide
  have found : Lexer.tokens s.build.registry.symbols ":a*-sin" =
      [⟨":a", ⟨0, 2⟩⟩, ⟨"*", ⟨2, 3⟩⟩, ⟨"-", ⟨3, 4⟩⟩, ⟨"sin", ⟨4, 7⟩⟩] :=
    Lexer.Cursor.tokens_of_within 4 (by decide)
  refine ⟨rfl, absent, rfl, ?_⟩
  rw [items_withOperator s rfl aliases Library.power ":a*-sin" absent,
    Dialect.items_ofSource (tokenize_build rfl), found, Dialect.read_eq_yielded]
  rfl

end Setup

end Formula
