import Formula.Proofs.Json.Storage
import Formula.Proofs.Substitution

/-!
# Bound numbers

With any lawful codec that rounds to the nearest float, a JSON number binds a variable to the same number, whether
it is written as it is, as an operand, or in a string with blanks around it (`Bindings.evaluate_written`):
integers are rounded like any other decimal (`Parts.ofInt_of_integer?`), and every JSON number is a numeral.
-/

namespace Formula.Number

/-- A whole number that is not huge is rounded as it is. -/
lemma decimalBits_whole {n : Nat} (few : digitCount n ≤ 310) : decimalBits n 0 = nearestBits n 1 := by
  rcases Nat.eq_zero_or_pos n with rfl | pos
  · rw [decimalBits_zero, nearestBits_zero Nat.one_pos]
  · rw [decimalBits_eq, if_neg (by omega), if_neg (by omega)]
    exact congrArg (nearestBits · 1) (Nat.mul_one n)

/-- An integer is the decimal with its sign and its digits, except that no integer is a negative zero. -/
lemma ofInt_eq {negative : Bool} {n : Nat} (nonzero : ¬(negative = true ∧ n = 0)) (few : digitCount n ≤ 310) :
    ofInt (if negative then -(n : Int) else n) = Decimal.toFloat ⟨negative, n, 0⟩ := by
  have sign : decide ((if negative then -(n : Int) else n) < 0) = negative := by
    cases negative with
    | false => simp
    | true =>
      have pos : n ≠ 0 := fun zero => nonzero ⟨rfl, zero⟩
      simp
      omega
  have size : (if negative then -(n : Int) else n).natAbs = n := by
    cases negative <;> simp
  rw [ofInt, ofRatio, sign, size, Decimal.toFloat, decimalBits_whole few]

namespace Numeral.Parts

variable (p : Parts)

/-- The float nearest to the integer that a number is, is the one nearest to its decimal. -/
lemma ofInt_of_integer? {p : Parts} {n : Int} (integer : p.integer? = some n) : ofInt n = p.decimal.toFloat := by
  obtain ⟨least, below⟩ := bounds_of_integer? integer
  rw [integer?, Option.ite_none_right_eq_some] at integer
  obtain ⟨⟨no_fraction, no_power, no_zero, -, -⟩, same⟩ := integer
  have decimal : p.decimal = ⟨p.negative, Numeral.value p.literal.whole, 0⟩ := by
    rw [Parts.decimal, no_fraction, no_power, List.append_nil]
    rfl
  have least_eq : Json.leastInteger = -9223372036854775808 := by decide
  have limit_eq : Json.integerLimit = 18446744073709551616 := by decide
  rw [decimal]
  cases same
  generalize Numeral.value p.literal.whole = k at no_zero least below ⊢
  have size : k < 10 ^ 20 := by
    by_cases minus : p.negative = true
    · rw [if_pos minus] at least
      omega
    · rw [if_neg minus] at below
      omega
  have few := (digitCount_le_iff (by decide)).mpr size
  refine ofInt_eq (fun zero => no_zero ⟨zero.1, ?_⟩) (few.trans (by decide))
  rw [zero.1, zero.2]
  rfl

/-- What a number stands for is the float nearest to its decimal, or an integer of which that is the nearest. -/
lemma Stands.nearest {codec : Codec} {p : Parts} {v : Json} (stands : p.Stands codec.real? v)
    (rounds : codec.Rounds) :
    (∃ n, v = .integer n ∧ ofInt n = p.decimal.toFloat ∧ codec.ofInteger n = p.decimal.toFloat) ∨
      v = .real p.decimal.toFloat := by
  cases stands with
  | integer integer =>
    obtain ⟨least, below⟩ := bounds_of_integer? integer
    have nearest := ofInt_of_integer? integer
    exact .inl ⟨_, rfl, nearest, (rounds.integer least below).trans nearest⟩
  | real _ read _ => exact .inr (congrArg Json.real (rounds.real read))

/-- The characters of numbers that are no digits. -/
def marks : List Char := ['-', '+', '.', 'e', 'E']

/-- A sign is a mark. -/
lemma mem_marks_of_sign {minus : Option Bool} {c : Char} (member : c ∈ signText minus) : c ∈ marks := by
  rcases minus with _ | (_ | _)
  · cases member
  · exact (List.mem_singleton.mp member) ▸ by decide
  · exact (List.mem_singleton.mp member) ▸ by decide

/-- The characters of an exponent are digits and marks. -/
lemma mem_exponentText {c : Char} (member : c ∈ p.exponentText) : c.isDigit = true ∨ c ∈ marks := by
  unfold exponentText at member
  cases same : p.exponent with
  | none =>
    rw [same] at member
    cases member
  | some e =>
    rw [same, Option.elim_some, Exponent.text, List.mem_cons, List.mem_append] at member
    rcases member with rfl | sign | digit
    · rcases e.isMark with mark | mark <;> exact .inr (by rw [mark]; decide)
    · exact .inr (mem_marks_of_sign sign)
    · exact .inl (e.isDigit_digits c digit)

/-- The characters of a number are digits and marks. -/
lemma mem_text {c : Char} (member : c ∈ p.text) : c.isDigit = true ∨ c ∈ marks := by
  have unsigned (within : c ∈ p.unsigned) : c.isDigit = true ∨ c ∈ marks := by
    rw [Parts.unsigned, List.mem_append, Lexer.Literal.text, String.toList_ofList, List.mem_append] at within
    rcases within with (whole | point) | exponent
    · exact .inl (p.literal.isDigit_whole c whole)
    · split at point
      · cases point
      · rcases List.mem_cons.mp point with rfl | fraction
        · exact .inr (by decide)
        · exact .inl (p.literal.isDigit_fraction c fraction)
    · exact p.mem_exponentText exponent
  unfold text at member
  split at member
  · rcases List.mem_cons.mp member with rfl | within
    · exact .inr (by decide)
    · exact unsigned within
  · exact unsigned member

/-- A number has neither blanks nor characters that a string escapes. -/
lemma plain_of_mem_text {c : Char} (member : c ∈ p.text) :
    Text.isBlank c = false ∧ c ≠ '"' ∧ c ≠ '\\' ∧ 0x20 ≤ c.toNat := by
  rcases p.mem_text member with digit | mark
  · have range := Lexer.toNat_of_isDigit digit
    refine ⟨Lexer.isBlank_of_isNameChar (Lexer.isNameChar_of_isDigit digit), ?_, ?_, by omega⟩
    · rintro rfl
      exact absurd digit (by decide)
    · rintro rfl
      exact absurd digit (by decide)
  · have plain : ∀ c ∈ marks, Text.isBlank c = false ∧ c ≠ '"' ∧ c ≠ '\\' ∧ 0x20 ≤ c.toNat := by
      simp only [marks, List.forall_mem_cons]
      exact ⟨by decide, by decide, by decide, by decide, by decide, List.forall_mem_nil _⟩
    exact plain c mark

/-- Characters of a number are written in a string as they are. -/
lemma quotes_text_append {quoted text : List Char} (h : Json.Quotes quoted text) :
    Json.Quotes (p.text ++ quoted) (p.text ++ text) := by
  have plain : ∀ c ∈ p.text, c ≠ '"' ∧ c ≠ '\\' ∧ 0x20 ≤ c.toNat := fun c member =>
    (p.plain_of_mem_text member).2
  generalize p.text = s at plain
  induction s with
  | nil => exact h
  | cons c s ih =>
    obtain ⟨⟨no_quote, no_backslash, printable⟩, others⟩ := List.forall_mem_cons.mp plain
    exact .plain no_quote no_backslash printable (ih others)

/-- A number may be written in a string as it is. -/
lemma inQuotes_text : Json.InQuotes ('"' :: p.text ++ ['"']) p.text := by
  have quotes := p.quotes_text_append .nil
  rw [List.append_nil] at quotes
  exact ⟨p.text, rfl, quotes⟩

end Numeral.Parts

end Formula.Number

namespace Formula.Text

/-- Blanks around a text that has none go away. -/
lemma trim_of_blanks {before text after : List Char} (some_char : text ≠ [])
    (plain : ∀ c ∈ text, isBlank c = false) (blank_before : ∀ c ∈ before, isBlank c = true)
    (blank_after : ∀ c ∈ after, isBlank c = true) : trim (before ++ text ++ after) = text := by
  have start : ∀ c ∈ (text ++ after).head?, isBlank c = false := by
    intro c first
    rw [List.head?_append_of_ne_nil _ some_char] at first
    exact plain c (List.mem_of_mem_head? first)
  have finish : ∀ c ∈ text.reverse.head?, isBlank c = false := fun c last =>
    plain c (List.mem_reverse.mp (List.mem_of_mem_head? last))
  have blank_after' : ∀ c ∈ after.reverse, isBlank c = true := fun c member =>
    blank_after c (List.mem_reverse.mp member)
  rw [trim, dropBlanks, dropBlanks, List.append_assoc, Lexer.dropWhile_append_of_ends blank_before start,
    List.reverse_append, Lexer.dropWhile_append_of_ends blank_after' finish, List.reverse_reverse]

end Formula.Text

namespace Formula.Json

open Number.Numeral

/-- The text of an object with one member. -/
def single (m : Member) : List Char := enclose '\x7b' '\x7d' [m.text]

/-- How a number may be written as what a variable is bound to: as it is, as an operand, or in a string in
which blanks may be around it. -/
inductive Writes (number : List Char) : List Char → Prop where
  | bare :
    Writes number number
  | tagged {m : Member} :
    m.key = "Number" →
    m.value.body = number →
    Writes number (single m)
  | quoted {s before after} :
    (∀ c ∈ before, Text.isBlank c = true) →
    (∀ c ∈ after, Text.isBlank c = true) →
    InQuotes s (before ++ number ++ after) →
    Writes number s

section Bound

variable {codec : Codec} {p : Parts} {v : Json} {body : List Char}

/-- An object with one member denotes what its member does. -/
lemma denotes_single {real? : List Char → Option Float} {m : Member} (value : Denotes real? m.value.body v) :
    Denotes real? (single m) (.object [(m.key, v)]) :=
  @Denotes.object real? [(m, v)] (List.cons_ne_nil _ _) (List.forall_mem_singleton.mpr value)

/-- A number as it is, is kept as a value. -/
lemma decodeBinding?_of_stands (lawful : codec.Lawful) (stands : p.Stands codec.real? v) :
    codec.decodeBinding? v = some (.raw v) := by
  have no_operand : ¬Operand.Shape v := by
    intro shape
    obtain ⟨member, rfl⟩ := shape.exists_member
    cases stands
  rw [lawful.decode_binding, lawful.decodeOperand?_eq_none no_operand,
    lawful.decode_json (canonical_of_stands stands)]
  rfl

/-- A number in an operand is the float nearest to its decimal. -/
lemma decodeBinding?_tagged (lawful : codec.Lawful) (rounds : codec.Rounds) (stands : p.Stands codec.real? v) :
    codec.decodeBinding? (.object [("Number", v)]) = some (.operand (.number p.decimal.toFloat)) := by
  have tags : Operand.Tags codec.ofInteger (.number p.decimal.toFloat) (.object [("Number", v)]) := by
    rcases stands.nearest rounds with ⟨n, rfl, -, nearest⟩ | rfl
    · rw [← nearest]
      exact .integer
    · exact .real
  rw [lawful.decode_binding, lawful.decode_operand.mpr tags]

/-- A string is kept as a value. -/
lemma decodeBinding?_string (lawful : codec.Lawful) (text : String) :
    codec.decodeBinding? (.string text) = some (.raw (.string text)) := by
  have no_operand : ¬Operand.Shape (.string text) := by
    intro shape
    obtain ⟨member, same⟩ := shape.exists_member
    cases same
  rw [lawful.decode_binding, lawful.decodeOperand?_eq_none no_operand, lawful.decode_json .string]
  rfl

/-- A string that holds a number with blanks around it stands for the float nearest to its decimal. -/
lemma operand?_string {before after : List Char} (blank_before : ∀ c ∈ before, Text.isBlank c = true)
    (blank_after : ∀ c ∈ after, Text.isBlank c = true) :
    (Binding.raw (.string (String.ofList (before ++ p.text ++ after)))).operand? =
      some (.number p.decimal.toFloat) := by
  obtain ⟨c, rest, starts, -⟩ := exists_first p
  have trimmed := Text.trim_of_blanks (starts ▸ List.cons_ne_nil c rest)
    (fun c member => (p.plain_of_mem_text member).1) blank_before blank_after
  rw [Binding.operand?, String.toList_ofList, trimmed, Number.parse?, String.toList_ofList, p.read?_text]
  rfl

/-- However a number is written, its text denotes a value, which binds a variable to the float nearest to its
decimal. -/
lemma Writes.exists_binding (writes : Writes p.text body) (lawful : codec.Lawful) (rounds : codec.Rounds)
    (stands : p.Stands codec.real? v) :
    ∃ w b, Denotes codec.real? body w ∧ w.depth ≤ 1 ∧ codec.decodeBinding? w = some b ∧
      b.operand? = some (.number p.decimal.toFloat) := by
  cases writes with
  | bare =>
    refine ⟨v, .raw v, .number stands, ?_, decodeBinding?_of_stands lawful stands, ?_⟩
    · cases stands <;> exact Nat.zero_le _
    · rcases stands.nearest rounds with ⟨n, rfl, nearest, -⟩ | rfl
      · rw [Binding.operand?, nearest]
      · rfl
  | @tagged m key value =>
    have denotes : Denotes codec.real? m.value.body v := value ▸ .number stands
    refine ⟨_, _, denotes_single denotes, ?_, key ▸ decodeBinding?_tagged lawful rounds stands, rfl⟩
    cases stands <;> exact Nat.le_refl _
  | @quoted _ before after blank_before blank_after inQuotes =>
    refine ⟨.string (String.ofList (before ++ p.text ++ after)), _, .string ?_, Nat.zero_le _,
      decodeBinding?_string lawful _, operand?_string blank_before blank_after⟩
    rwa [String.toList_ofList]

end Bound

end Formula.Json

namespace Formula.Bindings

open Json Number.Numeral

/-- An object with one member is read as a table with one variable. -/
lemma readBindings?_single {codec : Codec} (lawful : codec.Lawful) {m : Member} {v : Json} {b : Binding}
    (denotes : Denotes codec.real? m.value.body v) (shallow : v.depth ≤ 1)
    (decoded : codec.decodeBinding? v = some b) :
    codec.readBindings? (String.ofList (single m)) = some (Dictionary.empty.insert m.key b) := by
  have nested : (Json.object [(m.key, v)]).depth < 128 := by
    have deep : (Json.object [(m.key, v)]).depth = max v.depth 0 + 1 := rfl
    omega
  have read := lawful.read (t := .tight (single m)) (denotes_single denotes) nested
  rw [Spaced.text_tight] at read
  rw [Codec.readBindings?, String.toList_ofList, read, Option.bind_some, lawful.decode_bindings,
    List.mapM_cons, List.mapM_nil, decoded]
  rfl

/-- What is looked up alike is evaluated alike. -/
lemma evaluate_insert (table : Dictionary Binding) {name : String} {b b' : Binding}
    (same : standardLookup name b = standardLookup name b') {σ : Type} [FiniteSource σ] (s : σ) :
    (Evaluator.evaluate standardLookup (table.insert name b) (.ofSource s)).1 =
      (Evaluator.evaluate standardLookup (table.insert name b') (.ofSource s)).1 := by
  rw [(Replay.Keeps.ofSource s).evaluate_eq, (Replay.Keeps.ofSource s).evaluate_eq]
  refine Evaluator.evaluateItems_agree fun o _ => ?_
  obtain y | other := o
  · rfl
  · rw [Term.leaf, Term.leaf, Dictionary.get?_insert, Dictionary.get?_insert]
    by_cases bound : other = name
    · rw [if_pos bound, if_pos bound, bound]
      exact same
    · rw [if_neg bound, if_neg bound]

/-- A number binds a variable to the same number however it is written, and so every source has the same value
or failure. -/
theorem evaluate_written {codec : Codec} (lawful : codec.Lawful) (rounds : codec.Rounds) (name : String)
    {p : Parts} {v : Json} (stands : p.Stands codec.real? v) :
    Json.Writes p.text ('"' :: p.text ++ ['"']) ∧
      ∃ x, Number.parse? (String.ofList p.text) = some x ∧
        (∀ m : Json.Member, m.key = name → Json.Writes p.text m.value.body →
          ∃ table, codec.readBindings? (String.ofList (Json.single m)) = some table ∧
            (table.get? name).map (standardLookup name) = some (.ok (.number x))) ∧
        ∀ m m' : Json.Member, m.key = name → m'.key = name →
          Json.Writes p.text m.value.body → Json.Writes p.text m'.value.body → ∀ table table',
          codec.readBindings? (String.ofList (Json.single m)) = some table →
          codec.readBindings? (String.ofList (Json.single m')) = some table' →
          ∀ {σ : Type} [FiniteSource σ] (s : σ),
            (Evaluator.evaluate standardLookup table (.ofSource s)).1 =
              (Evaluator.evaluate standardLookup table' (.ofSource s)).1 := by
  have found {m : Member} (key : m.key = name) (writes : Writes p.text m.value.body) : ∃ b : Binding,
      codec.readBindings? (String.ofList (single m)) = some (Dictionary.empty.insert name b) ∧
        standardLookup name b = .ok (.number p.decimal.toFloat) := by
    obtain ⟨w, b, denotes, shallow, decoded, operand⟩ := writes.exists_binding lawful rounds stands
    refine ⟨b, ?_, by rw [standardLookup, operand]⟩
    rw [readBindings?_single lawful denotes shallow decoded, key]
  refine ⟨?_, p.decimal.toFloat, ?_, fun m key writes => ?_, ?_⟩
  · refine @Writes.quoted p.text _ [] [] nofun nofun ?_
    rw [List.nil_append, List.append_nil]
    exact p.inQuotes_text
  · rw [Number.parse?, String.toList_ofList, p.read?_text]
    rfl
  · obtain ⟨b, table, value⟩ := found key writes
    refine ⟨_, table, ?_⟩
    rw [Dictionary.get?_insert, if_pos rfl, Option.map_some, value]
  · intro m m' key key' writes writes' table table' made made' σ _ s
    obtain ⟨b, made_eq, value⟩ := found key writes
    obtain ⟨b', made_eq', value'⟩ := found key' writes'
    cases made.symm.trans made_eq
    cases made'.symm.trans made_eq'
    exact evaluate_insert _ (value.trans value'.symm) s

/-- An integer that no float is, as it is, as an operand, and in a string with a tab, a hard space and a blank
around it. -/
theorem evaluate_written_hardSpace :
    let p := Json.partsOf (-9007199254740993)
    let member (key : String) (body : List Char) : Json.Member :=
      ⟨key, .tight (writeString key.toList),
        ⟨[' '], body, [], List.forall_mem_singleton.mpr rfl, List.forall_mem_nil _⟩,
        inQuotes_writeString key.toList⟩
    let tagged := single (member "Number" p.text)
    let quoted := "\"\\t-9007199254740993\\u00a0 \"".toList
    let lookedUp : Option (Except EvalError Operand) := some (.ok (.number (-9007199254740992)))
    Codec.standard.Lawful ∧ Codec.standard.Rounds ∧
      p.Stands Codec.standard.real? (.integer (-9007199254740993)) ∧
      String.ofList (single (member ":x" p.text)) = "\x7b\":x\": -9007199254740993\x7d" ∧
      String.ofList (single (member ":x" tagged)) = "\x7b\":x\": \x7b\"Number\": -9007199254740993\x7d\x7d" ∧
      String.ofList (single (member ":x" quoted)) = "\x7b\":x\": \"\\t-9007199254740993\\u00a0 \"\x7d" ∧
      ∃ table table' table'',
        Codec.standard.readBindings? (String.ofList (single (member ":x" p.text))) = some table ∧
        Codec.standard.readBindings? (String.ofList (single (member ":x" tagged))) = some table' ∧
        Codec.standard.readBindings? (String.ofList (single (member ":x" quoted))) = some table'' ∧
        (table.get? ":x").map (standardLookup ":x") = lookedUp ∧
        (table'.get? ":x").map (standardLookup ":x") = lookedUp ∧
        (table''.get? ":x").map (standardLookup ":x") = lookedUp ∧
        ∀ {σ : Type} [FiniteSource σ] (s : σ),
          (Evaluator.evaluate standardLookup table (.ofSource s)).1 =
              (Evaluator.evaluate standardLookup table' (.ofSource s)).1 ∧
            (Evaluator.evaluate standardLookup table (.ofSource s)).1 =
              (Evaluator.evaluate standardLookup table'' (.ofSource s)).1 := by
  intro p member tagged quoted lookedUp
  have stands : p.Stands Codec.standard.real? (.integer (-9007199254740993)) :=
    .integer (integer?_partsOf (by decide) (by decide))
  have held : InQuotes quoted (['\t'] ++ p.text ++ ['\u00a0', ' ']) :=
    ⟨'\\' :: 't' :: (p.text ++ ['\\', 'u', '0', '0', 'a', '0', ' ']), by decide,
      .escaped rfl (p.quotes_text_append (@Quotes.unit '0' '0' 'a' '0' 160 _ _ rfl rfl rfl
        (.plain (by decide) (by decide) (by decide) .nil)))⟩
  have as_tagged : Writes p.text tagged := .tagged rfl rfl
  have as_quoted : Writes p.text quoted := .quoted
    (List.all_eq_true.mp (by decide)) (List.all_eq_true.mp (by decide)) held
  have value : Number.parse? (String.ofList p.text) = some (-9007199254740992) := by decide +kernel
  obtain ⟨-, x, same, found, alike⟩ :=
    evaluate_written Codec.lawful_standard Codec.rounds_standard ":x" stands
  cases same.symm.trans value
  obtain ⟨table, made, bound⟩ := found (member ":x" p.text) rfl .bare
  obtain ⟨table', made', bound'⟩ := found (member ":x" tagged) rfl as_tagged
  obtain ⟨table'', made'', bound''⟩ := found (member ":x" quoted) rfl as_quoted
  refine ⟨Codec.lawful_standard, Codec.rounds_standard, stands, by decide, by decide, by decide, table, table',
    table'', made, made', made'', bound, bound', bound'', fun s => ⟨?_, ?_⟩⟩
  · exact alike _ _ rfl rfl .bare as_tagged table table' made made' s
  · exact alike _ _ rfl rfl .bare as_quoted table table'' made made'' s

end Formula.Bindings
