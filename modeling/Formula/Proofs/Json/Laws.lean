import Formula.Proofs.Json.Reading

/-!
# Laws of codecs

What is relied on of a library that stores operands and bindings as JSON texts. `Codec.Lawful` says that it
writes and reads the grammar of JSON, and which values it makes of operands and of bindings. How floats are
converted is left open there: that the text of a float is read back as it (`Codec.ReadsBack`), and that
conversions give the nearest float (`Codec.Rounds`), are assumptions of their own. The standard codec has all
of this.
-/

namespace Formula

open Json Number.Numeral

/-- A value has the form of an operand: a single member tells whether it is a number or a variable. A number may
be an integer, which `ofInteger` turns into a float. -/
inductive Operand.Tags (ofInteger : Int → Float) : Operand → Json → Prop where
  | integer {n} :
    Tags ofInteger (.number (ofInteger n)) (.object [("Number", .integer n)])
  | real {x} :
    Tags ofInteger (.number x) (.object [("Number", .real x)])
  | variable {name} :
    Tags ofInteger (.variable name) (.object [("Variable", .string name)])

namespace Codec

variable {codec : Codec}

/-- What a codec is documented to do, but for the conversions of floats. -/
structure Lawful (codec : Codec) : Prop where
  write_null : codec.write .null = ['n', 'u', 'l', 'l']
  write_bool : ∀ value, codec.write (.bool value) = boolText value
  /-- An integer is written as a number without fraction and exponent. -/
  write_integer : ∀ {n}, leastInteger ≤ n → n < integerLimit →
    ∃ p : Parts, p.integer? = some n ∧ codec.write (.integer n) = p.text
  /-- A finite real is written as some number that is no integer: with a fraction or an exponent. -/
  write_real : ∀ {x}, Number.IsFinite x → ∃ p : Parts, p.integer? = none ∧ codec.write (.real x) = p.text
  write_string : ∀ text, InQuotes (codec.write (.string text)) text.toList
  write_array : ∀ items, codec.write (.array items) = enclose '[' ']' (items.map codec.write)
  write_object : ∀ members, codec.write (.object members) =
    enclose '\x7b' '\x7d' (members.map fun m => codec.write (.string m.1) ++ ':' :: codec.write m.2)
  /-- A text is read as the value that it denotes, unless arrays and objects nest too deep. -/
  read : ∀ {t : Spaced} {v}, Denotes codec.real? t.body v → v.depth < 128 → codec.read? t.text = some v
  encode_number : ∀ x, codec.encodeOperand (.number x) = .object [("Number", .real x)]
  encode_variable : ∀ name, codec.encodeOperand (.variable name) = .object [("Variable", .string name)]
  decode_operand : ∀ {v o}, codec.decodeOperand? v = some o ↔ o.Tags codec.ofInteger v
  /-- What a variable is bound to is written with no sign of what it is. -/
  encode_binding : ∀ o, codec.encodeBinding (.operand o) = codec.encodeOperand o
  encode_raw : ∀ v, codec.encodeBinding (.raw v) = v
  /-- An operand is looked for first, and then any value is kept. -/
  decode_binding : ∀ v, codec.decodeBinding? v =
    match codec.decodeOperand? v with
    | some o => some (.operand o)
    | none => (codec.decodeJson? v).map .raw
  /-- A value is kept as it is if every object lists its keys once and in their order. -/
  decode_json : ∀ {v}, v.Canonical → codec.decodeJson? v = some v
  decode_bindings : ∀ members, codec.decodeBindings? (.object members) =
    (members.mapM fun m => (codec.decodeBinding? m.2).map ((m.1, ·))).map Dictionary.ofList

/-- The text of a finite float is read back as that float. -/
def ReadsBack (codec : Codec) : Prop :=
  ∀ {x}, Number.IsFinite x → codec.real? (codec.write (.real x)) = some x

/-- Numerals and integers are turned into the nearest float. -/
structure Rounds (codec : Codec) : Prop where
  real : ∀ {p : Parts} {x}, codec.real? p.text = some x → x = p.decimal.toFloat
  integer : ∀ {n}, leastInteger ≤ n → n < integerLimit → codec.ofInteger n = Number.ofInt n

/-- What is written for a value denotes it. -/
lemma Lawful.denotes_write (lawful : codec.Lawful) (back : codec.ReadsBack) {v : Json} (h : v.Canonical) :
    Denotes codec.real? (codec.write v) v := by
  induction h with
  | null =>
    rw [lawful.write_null]
    exact .null
  | bool =>
    rw [lawful.write_bool]
    exact .bool
  | integer least below =>
    obtain ⟨p, integer, text⟩ := lawful.write_integer least below
    rw [text]
    exact .number (.integer integer)
  | real finite =>
    obtain ⟨p, no_integer, text⟩ := lawful.write_real finite
    rw [text]
    exact .number (.real no_integer (text ▸ back finite) finite)
  | string => exact .string (lawful.write_string _)
  | @array items each ih =>
    rw [lawful.write_array]
    by_cases none : items = []
    · rw [none]
      exact .noItems (List.forall_mem_nil _)
    · have written := @Denotes.array codec.real? (items.map fun v => (.tight (codec.write v), v))
        (by simpa using none) (List.forall_mem_map.mpr ih)
      simpa [Function.comp_def] using written
  | @object members each ascending ih =>
    rw [lawful.write_object]
    by_cases none : members = []
    · rw [none]
      exact .noMembers (List.forall_mem_nil _)
    · let member (m : String × Json) : Member :=
        ⟨m.1, .tight (codec.write (.string m.1)), .tight (codec.write m.2), lawful.write_string m.1⟩
      have written := @Denotes.object codec.real? (members.map fun m => (member m, m.2))
        (by simpa using none) (List.forall_mem_map.mpr ih)
      simpa [member, Member.text, Function.comp_def] using written

/-- A value that does not nest too deep is read back from what is written for it. -/
lemma Lawful.read?_write (lawful : codec.Lawful) (back : codec.ReadsBack) {v : Json} (h : v.Canonical)
    (shallow : v.depth < 128) : codec.read? (codec.write v) = some v := by
  have read := lawful.read (t := .tight (codec.write v)) (lawful.denotes_write back h) shallow
  rwa [Spaced.text_tight] at read

end Codec

namespace Json

/-- Items are written with commas between them. -/
lemma writeItems_eq (items : List Json) : writeItems items = List.intercalate [','] (items.map write) := by
  induction items with
  | nil => rfl
  | cons item rest ih =>
    cases rest with
    | nil => rw [writeItems, List.map_singleton, List.intercalate_singleton]
    | cons next rest =>
      rw [writeItems, ih]
      · simp [List.intercalate_cons_cons]
      · exact nofun

/-- Members are written with commas between them, each with its key in quotes and a colon. -/
lemma writeMembers_eq (members : List (String × Json)) :
    writeMembers members =
      List.intercalate [','] (members.map fun m => writeString m.1.toList ++ ':' :: write m.2) := by
  induction members with
  | nil => rfl
  | cons member rest ih =>
    cases rest with
    | nil => rw [writeMembers, List.map_singleton, List.intercalate_singleton]
    | cons next rest =>
      rw [writeMembers, ih]
      · simp [List.intercalate_cons_cons]
      · exact nofun

section Members

variable {key : String} {value : Json} {members : List (String × Json)}

/-- A key that comes after all others is put at the end. -/
lemma insertMember_of_greatest (greatest : ∀ m ∈ members, m.1 < key) :
    insertMember key value members = members ++ [(key, value)] := by
  induction members with
  | nil => rfl
  | cons member rest ih =>
    obtain ⟨less, others⟩ := List.forall_mem_cons.mp greatest
    have different : key ≠ member.1 := by
      rintro rfl
      exact String.lt_irrefl _ less
    rw [insertMember, if_neg (String.lt_asymm less), if_neg different, ih others]
    rfl

/-- Members in the order of their keys stay as they are. -/
lemma sortMembers_of_ascending (ascending : (members.map Prod.fst).Pairwise (· < ·)) :
    sortMembers members = members := by
  have added (sorted rest : List (String × Json)) (h : ((sorted ++ rest).map Prod.fst).Pairwise (· < ·)) :
      rest.foldl (fun sorted member => insertMember member.1 member.2 sorted) sorted = sorted ++ rest := by
    induction rest generalizing sorted with
    | nil => rw [List.foldl_nil, List.append_nil]
    | cons member rest ih =>
      have last : insertMember member.1 member.2 sorted = sorted ++ [member] := by
        refine insertMember_of_greatest fun m before => ?_
        rw [List.map_append, List.pairwise_append] at h
        exact h.2.2 _ (List.mem_map_of_mem before) _ List.mem_cons_self
      rw [List.foldl_cons, last, ih _ (by rwa [List.append_assoc]), List.append_assoc]
      rfl
  exact added [] members ascending

end Members

/-- The canonical form of a canonical value is the value. -/
lemma Canonical.canonical_eq {v : Json} (h : v.Canonical) : v.canonical = v := by
  have items_eq {items : List Json} (each : ∀ item ∈ items, item.canonical = item) :
      canonicalItems items = items := by
    induction items with
    | nil => rfl
    | cons item rest ih =>
      obtain ⟨first, others⟩ := List.forall_mem_cons.mp each
      rw [canonicalItems, first, ih others]
  have members_eq {members : List (String × Json)} (each : ∀ m ∈ members, m.2.canonical = m.2) :
      canonicalMembers members = members := by
    induction members with
    | nil => rfl
    | cons member rest ih =>
      obtain ⟨first, others⟩ := List.forall_mem_cons.mp each
      rw [canonicalMembers, first, ih others]
  induction h with
  | array each ih => rw [canonical, items_eq ih]
  | object each ascending ih => rw [canonical, members_eq ih, sortMembers_of_ascending ascending]
  | _ => rfl

end Json

namespace Operand

/-- What has the form of an operand is read as it, and nothing else is read as an operand. -/
lemma ofJson?_eq_some_iff {v : Json} {o : Operand} : ofJson? v = some o ↔ o.Tags Number.ofInt v := by
  constructor
  · intro read
    unfold ofJson? at read
    split at read
    · rw [Option.ite_none_right_eq_some] at read
      obtain ⟨rfl, ⟨⟩⟩ := read
      exact .integer
    · rw [Option.ite_none_right_eq_some] at read
      obtain ⟨rfl, ⟨⟩⟩ := read
      exact .real
    · rw [Option.ite_none_right_eq_some] at read
      obtain ⟨rfl, ⟨⟩⟩ := read
      exact .variable
    · cases read
  · rintro (_ | _ | _) <;> rfl

end Operand

namespace Codec

/-- The standard codec keeps the laws. -/
lemma lawful_standard : standard.Lawful where
  write_null := rfl
  write_bool value := by cases value <;> rfl
  write_integer least below := ⟨partsOf _, integer?_partsOf least below, writeInteger_eq _⟩
  write_real finite := by
    obtain ⟨p, no_integer, text, -⟩ := exists_parts_real finite
    exact ⟨p, no_integer, text⟩
  write_string text := inQuotes_writeString text.toList
  write_array items := congrArg ('[' :: · ++ [']']) (writeItems_eq items)
  write_object members := congrArg ('\x7b' :: · ++ ['\x7d']) (writeMembers_eq members)
  read denotes shallow := denotes.read? (Nat.le_of_lt_succ shallow)
  encode_number _ := rfl
  encode_variable _ := rfl
  decode_operand := Operand.ofJson?_eq_some_iff
  encode_binding _ := rfl
  encode_raw _ := rfl
  decode_binding v := by
    change some (Binding.ofJson v) = match Operand.ofJson? v with
      | some o => some (.operand o)
      | none => some (.raw v.canonical)
    rw [Binding.ofJson]
    cases Operand.ofJson? v <;> rfl
  decode_json h := congrArg some h.canonical_eq
  decode_bindings members := by
    have all := List.mapM_pure (m := Option) (l := members) (f := fun m => (m.1, Binding.ofJson m.2))
    exact (congrArg (Option.map Dictionary.ofList) all).symm

/-- The standard codec reads floats back. -/
lemma readsBack_standard : standard.ReadsBack := by
  intro x finite
  obtain ⟨p, -, text, read⟩ := exists_parts_real finite
  have written : standard.write (.real x) = p.text := text
  rw [written]
  exact read

/-- The standard codec rounds to the nearest float. -/
lemma rounds_standard : standard.Rounds where
  real {p x} read := by
    have finite : p.decimal.toFinite? = some x := (p.parseFinite?_text).symm.trans read
    unfold Number.Decimal.toFinite? at finite
    split at finite
    · cases finite
      rfl
    · cases finite
  integer _ _ := rfl

end Codec

end Formula
