import Formula.Proofs.Json.Laws

/-!
# Stored operands and bindings

With any lawful codec that reads floats back from their texts, an operand and what a variable is bound to are
read back as they were written (`Codec.readBinding?_writeBinding`). A value is taken for an operand only if it
has the shape of one, so that any other value stays what it is.
-/

namespace Formula

open Json

namespace Operand

/-- The JSON values that are operands: a single member, which is a number or the name of a variable. -/
inductive Shape : Json → Prop where
  | integer {n} :
    Shape (.object [("Number", .integer n)])
  | real {x} :
    Shape (.object [("Number", .real x)])
  | variable {name} :
    Shape (.object [("Variable", .string name)])

/-- An operand is an object with a single member. -/
lemma Shape.exists_member {v : Json} (h : Shape v) : ∃ member, v = .object [member] := by
  rcases h with _ | _ | _ <;> exact ⟨_, rfl⟩

/-- What has the form of some operand has the shape of operands. -/
lemma Tags.shape {ofInteger : Int → Float} {o : Operand} {v : Json} (h : o.Tags ofInteger v) : Shape v := by
  rcases h with _ | _ | _
  · exact .integer
  · exact .real
  · exact .variable

/-- A variable, or a number that is finite. -/
def IsFinite : Operand → Prop
  | .number x => Number.IsFinite x
  | .variable _ => True

end Operand

/-- What JSON can tell: operands, and other values that do not nest too deep. -/
inductive Binding.Storable : Binding → Prop where
  | operand {o : Operand} :
    o.IsFinite →
    Storable (.operand o)
  | raw {value : Json} :
    value.Canonical →
    value.depth < 128 →
    ¬Operand.Shape value →
    Storable (.raw value)

namespace Codec

variable {codec : Codec}

/-- The value that a finite operand is written as is canonical, nests once, and has the form of the operand. -/
lemma Lawful.encodeOperand_spec (lawful : codec.Lawful) {o : Operand} (finite : o.IsFinite) :
    (codec.encodeOperand o).Canonical ∧ (codec.encodeOperand o).depth = 1 ∧
      o.Tags codec.ofInteger (codec.encodeOperand o) := by
  rcases o with x | name
  · rw [lawful.encode_number]
    exact ⟨.object (List.forall_mem_singleton.mpr (.real finite)) (List.pairwise_singleton _ _), rfl, .real⟩
  · rw [lawful.encode_variable]
    exact ⟨.object (List.forall_mem_singleton.mpr .string) (List.pairwise_singleton _ _), rfl, .variable⟩

/-- What is written for a finite operand is read as the value that has its form. -/
lemma Lawful.read?_encodeOperand (lawful : codec.Lawful) (back : codec.ReadsBack) {o : Operand}
    (finite : o.IsFinite) :
    codec.read? (codec.write (codec.encodeOperand o)) = some (codec.encodeOperand o) := by
  obtain ⟨canonical, once, -⟩ := lawful.encodeOperand_spec finite
  exact lawful.read?_write back canonical (once.trans_lt (by decide))

/-- What has no shape of an operand is not decoded as one. -/
lemma Lawful.decodeOperand?_eq_none (lawful : codec.Lawful) {v : Json} (other : ¬Operand.Shape v) :
    codec.decodeOperand? v = none := by
  cases decoded : codec.decodeOperand? v with
  | none => rfl
  | some o => exact absurd (lawful.decode_operand.mp decoded).shape other

/-- Operands, and what variables are bound to, are read back as they were written. -/
theorem readBinding?_writeBinding (lawful : codec.Lawful) (back : codec.ReadsBack) :
    (∀ o : Operand, o.IsFinite → codec.readOperand? (codec.writeOperand o) = some o) ∧
      ∀ b : Binding, b.Storable → codec.readBinding? (codec.writeBinding b) = some b := by
  refine ⟨fun o finite => ?_, fun b storable => ?_⟩
  · obtain ⟨-, -, tags⟩ := lawful.encodeOperand_spec finite
    rw [readOperand?, writeOperand, String.toList_ofList, lawful.read?_encodeOperand back finite]
    exact lawful.decode_operand.mpr tags
  · rw [readBinding?, writeBinding, String.toList_ofList]
    cases storable with
    | @operand o finite =>
      obtain ⟨-, -, tags⟩ := lawful.encodeOperand_spec finite
      rw [lawful.encode_binding, lawful.read?_encodeOperand back finite, Option.bind_some,
        lawful.decode_binding, lawful.decode_operand.mpr tags]
    | @raw value canonical shallow other =>
      rw [lawful.encode_raw, lawful.read?_write back canonical shallow, Option.bind_some,
        lawful.decode_binding, lawful.decodeOperand?_eq_none other, lawful.decode_json canonical]
      rfl

/-- The negative zero stays one, and what only looks like an operand does not become one. -/
theorem readBinding?_writeBinding_negativeZero :
    let zero := Float.ofBits 0x8000000000000000
    let other : Json := .object [("Number", .null), ("Variable", .array [.real zero, .integer (-5), .string "\"\x01"])]
    standard.Lawful ∧ standard.ReadsBack ∧
      Operand.IsFinite (.number zero) ∧ Operand.IsFinite (.variable ":x") ∧ Binding.Storable (.raw other) ∧
      standard.readOperand? (standard.writeOperand (.number zero)) = some (.number zero) ∧
      standard.readOperand? (standard.writeOperand (.variable ":x")) = some (.variable ":x") ∧
      standard.readBinding? (standard.writeBinding (.operand (.number zero))) = some (.operand (.number zero)) ∧
      standard.readBinding? (standard.writeBinding (.raw other)) = some (.raw other) := by
  intro zero other
  have finite : Number.IsFinite zero := ⟨true, 0, by decide +kernel⟩
  have canonical : other.Canonical := by
    refine .object (List.forall_mem_cons.mpr ⟨.null, List.forall_mem_singleton.mpr (.array ?_)⟩) (by decide)
    have later : ∀ item ∈ [Json.integer (-5), .string "\"\x01"], item.Canonical := List.forall_mem_cons.mpr
      ⟨.integer (by decide) (by decide), List.forall_mem_singleton.mpr .string⟩
    exact List.forall_mem_cons.mpr ⟨.real finite, later⟩
  have no_operand : ¬Operand.Shape other := by
    intro shape
    obtain ⟨member, same⟩ := shape.exists_member
    have two : [_, _] = [member] := Json.object.inj same
    exact List.cons_ne_nil _ _ (List.cons.inj two).2
  have storable : Binding.Storable (.raw other) := .raw canonical (by decide) no_operand
  obtain ⟨operands, bindings⟩ := readBinding?_writeBinding lawful_standard readsBack_standard
  exact ⟨lawful_standard, readsBack_standard, finite, trivial, storable, operands (.number zero) finite,
    operands (.variable ":x") trivial, bindings _ (.operand finite), bindings _ storable⟩

end Codec

end Formula
