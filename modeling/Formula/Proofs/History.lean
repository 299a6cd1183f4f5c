import Formula.Proofs.Registry
import Mathlib.Data.List.Induction
import Mathlib.Data.List.Nodup
import Mathlib.Tactic.Lemma

/-!
# What a registry answers

A registry answers by the registrations that it is made of: by the last one of a token on each side of the
operand, while its symbols come in the order of the first ones. `Catalogue.registry_answers` says so of every
history of additions.
-/

namespace Formula

/-- A dictionary is empty when nothing is found in it. -/
theorem Dictionary.isEmpty_iff {α : Type} {d : Dictionary α} :
    d.isEmpty = true ↔ ∀ name, d.get? name = none := by
  obtain ⟨entries, nodup⟩ := d
  cases entries with
  | nil => exact iff_of_true rfl fun _ => rfl
  | cons entry rest =>
    refine iff_of_false Bool.false_ne_true fun nothing => ?_
    have found : findEntry entry.1 (entry :: rest) = some entry.2 := if_pos rfl
    rw [show findEntry entry.1 (entry :: rest) = none from nothing entry.1] at found
    cases found

/-- The operator of the last registration of a token that puts it in one of some places. -/
def lastRegistered? (registrations : List (String × Operator)) (text : String) (places : List Fixity) :
    Option Operator :=
  (registrations.reverse.find? fun a => a.1 = text ∧ a.2.fixity ∈ places).map Prod.snd

variable {registrations : List (String × Operator)} {text : String}

/-- The registration that comes last decides for its text and its place. -/
lemma lastRegistered?_concat (a : String × Operator) (places : List Fixity) :
    lastRegistered? (registrations ++ [a]) text places =
      if a.1 = text ∧ a.2.fixity ∈ places then some a.2
      else lastRegistered? registrations text places := by
  rw [lastRegistered?, List.reverse_concat, List.find?_cons]
  split
  · next last => rw [if_pos (of_decide_eq_true last)]; rfl
  · next other => rw [if_neg (of_decide_eq_false other)]; rfl

namespace Registry

variable {r : Registry}

/-- A history of registrations is carried out in its order. -/
lemma registerAll_concat (a : String × Operator) :
    r.registerAll (registrations ++ [a]) = (r.registerAll registrations).register a.1 a.2 :=
  List.foldl_concat ..

/-- The operators on one side of the operand. -/
def side (r : Registry) (before : Bool) : Dictionary Operator := if before then r.leading else r.trailing

/-- A registration changes what one text stands for, and only in one place. -/
lemma side_register (before : Bool) (symbol : String) (op : Operator) :
    ((r.register symbol op).side before).get? text =
      if symbol = text ∧ op.fixity.precedesOperand = before then some op
      else (r.side before).get? text := by
  unfold side register
  cases op.fixity.precedesOperand <;> cases before <;> simp [eq_comm]

/-- On each side the operator counts that has been registered last. -/
lemma side_registerAll {before : Bool} {places : List Fixity}
    (sides : ∀ fixity, fixity.precedesOperand = before ↔ fixity ∈ places) :
    ((empty.registerAll registrations).side before).get? text =
      lastRegistered? registrations text places := by
  induction registrations using List.reverseRecOn with
  | nil => cases before <;> rfl
  | append_singleton rest a ih =>
    rw [registerAll_concat, side_register, lastRegistered?_concat, ih]
    simp only [sides]

/-- A registry is empty if no token spells anything where an operand is expected. -/
lemma isEmpty_iff : r.isEmpty = true ↔ ∀ text, r.resolve? text true = none := by
  simp only [isEmpty, Bool.and_eq_true, Dictionary.isEmpty_iff, resolve?, ↓reduceIte,
    Option.or_eq_none_iff, forall_and]

/-- Symbols are listed once, each by its first registration. -/
structure Listing (names symbols : List String) : Prop where
  nodup : symbols.Nodup
  mem_iff : ∀ text, text ∈ symbols ↔ text ∈ names ∧ Lexer.isWord text = false
  ordered : symbols.Pairwise fun first second => names.idxOf first < names.idxOf second

/-- What is registered later comes behind. -/
lemma Listing.ordered_append {names symbols : List String} (h : Listing names symbols) (more : List String) :
    symbols.Pairwise fun first second => (names ++ more).idxOf first < (names ++ more).idxOf second := by
  refine h.ordered.imp_of_mem ?_
  intro first second first_mem second_mem before
  rwa [List.idxOf_append_of_mem ((h.mem_iff _).mp first_mem).1,
    List.idxOf_append_of_mem ((h.mem_iff _).mp second_mem).1]

/-- A word, or a name that is listed already, leaves the symbols as they are. -/
lemma Listing.keep {names symbols : List String} (h : Listing names symbols) {name : String}
    (old : Lexer.isWord name = true ∨ name ∈ symbols) : Listing (names ++ [name]) symbols where
  nodup := h.nodup
  mem_iff text := by
    rw [List.mem_append, List.mem_singleton, or_and_right, ← h.mem_iff]
    refine (or_iff_left_of_imp ?_).symm
    rintro ⟨rfl, no_word⟩
    exact old.resolve_left (Bool.eq_false_iff.mp no_word)
  ordered := h.ordered_append [name]

/-- A new name that is no word comes to the end of the symbols. -/
lemma Listing.concat {names symbols : List String} (h : Listing names symbols) {name : String}
    (no_word : Lexer.isWord name = false) (new : name ∉ symbols) :
    Listing (names ++ [name]) (symbols ++ [name]) where
  nodup := by
    refine List.nodup_append.mpr ⟨h.nodup, List.nodup_singleton name, ?_⟩
    rintro text member _ single rfl
    exact new (List.mem_singleton.mp single ▸ member)
  mem_iff text := by
    rw [List.mem_append, List.mem_append, List.mem_singleton, or_and_right, ← h.mem_iff]
    refine or_congr_right (iff_self_and.mpr ?_)
    rintro rfl
    exact no_word
  ordered := by
    have fresh : name ∉ names := fun member => new ((h.mem_iff name).mpr ⟨member, no_word⟩)
    refine List.pairwise_append.mpr ⟨h.ordered_append [name], List.pairwise_singleton _ _, ?_⟩
    intro first first_mem second second_mem
    have within := ((h.mem_iff _).mp first_mem).1
    rw [List.mem_singleton.mp second_mem, List.idxOf_append_of_mem within,
      List.idxOf_append_of_notMem fresh]
    exact Nat.lt_of_lt_of_le (List.idxOf_lt_length_of_mem within) (Nat.le_add_right _ _)

/-- The symbols of a history of registrations list its names. -/
lemma listing_registerAll :
    Listing (registrations.map Prod.fst) (empty.registerAll registrations).symbols := by
  induction registrations using List.reverseRecOn with
  | nil => exact ⟨List.nodup_nil, fun _ => by simp [registerAll, empty], List.Pairwise.nil⟩
  | append_singleton rest a ih =>
    rw [registerAll_concat, List.map_append, List.map_singleton, register]
    dsimp only
    split
    · next old =>
      rw [Bool.or_eq_true, List.contains_iff_mem] at old
      exact ih.keep old
    · next new =>
      rw [Bool.or_eq_true, not_or, List.contains_iff_mem] at new
      exact ih.concat (Bool.eq_false_iff.mpr new.1) new.2

end Registry

/-- Whatever has been added, where an operand is expected the last registration of a token as an operator
before its operand counts, and else the last as one after an operand, which alone counts elsewhere. The
symbols are the tokens that can be looked up and are no words, once each and in the order of their first
registrations. Only without any registration is the registry empty. -/
theorem Catalogue.registry_answers (catalogue : Catalogue) :
    let r := catalogue.registry
    let names := catalogue.registrations.map Prod.fst
    (∀ text, r.resolve? text false =
      lastRegistered? catalogue.registrations text [.binary, .unaryPostfix]) ∧
    (∀ text, r.resolve? text true =
      (lastRegistered? catalogue.registrations text [.unaryPrefix, .function]).or
        (r.resolve? text false)) ∧
    r.symbols.Nodup ∧
    (∀ text, text ∈ r.symbols ↔ Lexer.isWord text = false ∧ (r.resolve? text true).isSome = true) ∧
    r.symbols.Pairwise (fun first second => names.idxOf first < names.idxOf second) ∧
    (r.isEmpty = true ↔ catalogue.registrations = []) := by
  intro r names
  have made : r = Registry.empty.registerAll catalogue.registrations :=
    Registry.addAll_eq_registerAll .empty catalogue
  have after : ∀ fixity : Fixity, fixity.precedesOperand = false ↔ fixity ∈ [.binary, .unaryPostfix] := by
    rintro ⟨⟩ <;> decide
  have before : ∀ fixity : Fixity, fixity.precedesOperand = true ↔ fixity ∈ [.unaryPrefix, .function] := by
    rintro ⟨⟩ <;> decide
  have listing : Registry.Listing names r.symbols := made ▸ Registry.listing_registerAll
  have known (text : String) : (r.resolve? text true).isSome = true ↔ text ∈ names := by
    rw [made, Registry.isSome_resolve?_registerAll]
    exact or_iff_right nofun
  refine ⟨fun text => ?_, fun text => ?_, listing.nodup, fun text => ?_, listing.ordered, ?_⟩
  · rw [← Registry.side_registerAll after, ← made]
    rfl
  · rw [← Registry.side_registerAll before, ← made]
    rfl
  · rw [listing.mem_iff, known, and_comm]
  · simp only [Registry.isEmpty_iff, ← Option.not_isSome_iff_eq_none, known,
      ← List.eq_nil_iff_forall_not_mem, names, List.map_eq_nil_iff]

end Formula
