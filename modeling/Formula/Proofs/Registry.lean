import Formula.Operator.Registry
import Mathlib.Tactic.Lemma

/-!
# What a registry holds

A registry is what a list of registrations leaves, each of one token with one operator. It knows an operator
for every token that has been registered, and its symbols are those of them that are not words.
-/

namespace Formula

/-- The registrations of a catalogue in their order. -/
def Catalogue.registrations (catalogue : Catalogue) : List (String × Operator) :=
  catalogue.flatMap fun entry => entry.1.map (·, entry.2)

namespace Registry

variable {r : Registry} {text : String}

/-- Makes one registration after another. -/
def registerAll (r : Registry) (registrations : List (String × Operator)) : Registry :=
  registrations.foldl (fun r a => r.register a.1 a.2) r

/-- To add an operator is to register its symbols one after another. -/
lemma add_eq_registerAll (r : Registry) (symbols : List String) (op : Operator) :
    r.add symbols op = r.registerAll (symbols.map (·, op)) := by
  rw [add, registerAll, List.foldl_map]

/-- To add a catalogue is to register its symbols one after another. -/
lemma addAll_eq_registerAll (r : Registry) (catalogue : Catalogue) :
    r.addAll catalogue = r.registerAll catalogue.registrations := by
  induction catalogue generalizing r with
  | nil => rfl
  | cons entry rest ih =>
    have later : (r.add entry.1 entry.2).addAll rest = _ := ih _
    rw [addAll, List.foldl_cons, ← addAll, later, add_eq_registerAll]
    exact List.foldl_append.symm

/-- A registration adds its symbol to the symbols, unless it is a word. -/
lemma mem_symbols_register (symbol : String) (op : Operator) :
    text ∈ (r.register symbol op).symbols ↔
      text ∈ r.symbols ∨ text = symbol ∧ Lexer.isWord symbol = false := by
  unfold register
  dsimp only
  split
  · next kept =>
    rw [Bool.or_eq_true, List.contains_iff_mem] at kept
    constructor
    · exact .inl
    · rintro (old | ⟨rfl, no_word⟩)
      · exact old
      · exact kept.resolve_left (by simp [no_word])
  · next new =>
    have no_word : Lexer.isWord symbol = false :=
      Bool.eq_false_iff.mpr fun word => new (by simp [word])
    simp [no_word]

/-- The symbols are the tokens that have been registered and are not words. -/
lemma mem_symbols_registerAll (registrations : List (String × Operator)) :
    text ∈ (r.registerAll registrations).symbols ↔
      text ∈ r.symbols ∨ text ∈ registrations.map Prod.fst ∧ Lexer.isWord text = false := by
  induction registrations generalizing r with
  | nil => simp [registerAll]
  | cons a rest ih =>
    rw [registerAll, List.foldl_cons, ← registerAll, ih, mem_symbols_register, List.map_cons,
      List.mem_cons, or_assoc, or_and_right]
    refine or_congr_right (or_congr_left (and_congr_right ?_))
    rintro rfl
    rfl

/-- A registration adds its symbol to the texts that stand for operators. -/
lemma isSome_resolve?_register (symbol : String) (op : Operator) :
    ((r.register symbol op).resolve? text true).isSome =
      (text = symbol || (r.resolve? text true).isSome) := by
  unfold Registry.resolve? register
  by_cases same : text = symbol
  · cases op.fixity.precedesOperand <;> simp [same]
  · cases op.fixity.precedesOperand <;> simp [same]

/-- A token spells an operator where an operand is expected, if it has been registered. -/
lemma isSome_resolve?_registerAll (registrations : List (String × Operator)) :
    ((r.registerAll registrations).resolve? text true).isSome = true ↔
      (r.resolve? text true).isSome = true ∨ text ∈ registrations.map Prod.fst := by
  induction registrations generalizing r with
  | nil => simp [registerAll]
  | cons a rest ih =>
    rw [registerAll, List.foldl_cons, ← registerAll, ih, isSome_resolve?_register, List.map_cons,
      List.mem_cons, Bool.or_eq_true, decide_eq_true_eq, or_right_comm, or_comm]

end Registry

namespace Catalogue

variable {catalogue : Catalogue} {text : String}

/-- Registered are the tokens of all entries. -/
lemma mem_registrations :
    text ∈ catalogue.registrations.map Prod.fst ↔ ∃ entry ∈ catalogue, text ∈ entry.1 := by
  have of_entry (entry : List String × Operator) :
      (entry.1.map (·, entry.2)).map Prod.fst = entry.1 := by
    rw [List.map_map]
    exact List.map_id _
  rw [registrations, List.map_flatMap, List.mem_flatMap]
  simp only [of_entry]

/-- The symbols of a catalogue are all that it lists, but for the words. -/
lemma mem_symbols_registry : text ∈ catalogue.registry.symbols ↔
    (∃ entry ∈ catalogue, text ∈ entry.1) ∧ Lexer.isWord text = false := by
  rw [registry, Registry.addAll_eq_registerAll, Registry.mem_symbols_registerAll, mem_registrations]
  exact or_iff_right List.not_mem_nil

/-- A text stands for an operator where an operand is expected if a catalogue lists it. -/
lemma exists_resolve?_registry : (∃ op, catalogue.registry.resolve? text true = some op) ↔
    ∃ entry ∈ catalogue, text ∈ entry.1 := by
  rw [← Option.isSome_iff_exists, registry, Registry.addAll_eq_registerAll,
    Registry.isSome_resolve?_registerAll, mem_registrations]
  exact or_iff_right nofun

end Catalogue

end Formula
