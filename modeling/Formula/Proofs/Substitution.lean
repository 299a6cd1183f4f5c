import Formula.Library.Catalogue
import Formula.Proofs.Replay.Fold
import Formula.Proofs.Term

/-!
# Substitution

What a variable is bound to is looked at where the variable stands among the items, and nowhere else. So
only what the variables among them stand for counts for the value of items
(`Evaluator.evaluateItems_agree`), and a variable that stands for a number may as well be that number
(`Evaluator.evaluateItems_substitute`).
-/

namespace Formula

section Erase

variable {α : Type}

/-- Without the entries of a name, the others are found as before. -/
lemma findEntry_filter_ne (name key : String) (entries : List (String × α)) :
    findEntry key (entries.filter (·.1 ≠ name)) = if key = name then none else findEntry key entries := by
  induction entries with
  | nil => simp [findEntry]
  | cons entry rest ih =>
    obtain ⟨other, value⟩ := entry
    by_cases erased : other = name
    · subst erased
      by_cases same : key = other
      · simpa [same] using ih
      · simpa [findEntry, Ne.symm same, same] using ih
    · by_cases same : other = key
      · subst same
        simp [findEntry, erased]
      · simpa [findEntry, erased, same] using ih

/-- A map without a name. -/
def Dictionary.erase (d : Dictionary α) (name : String) : Dictionary α :=
  ⟨d.entries.filter (·.1 ≠ name), d.nodup.sublist (List.filter_sublist.map _)⟩

/-- What is erased is not found, and the other entries are found as before. -/
@[simp] lemma Dictionary.get?_erase (d : Dictionary α) (name key : String) :
    (d.erase name).get? key = if key = name then none else d.get? key :=
  findEntry_filter_ne name key d.entries

end Erase

/-- An operand with a number in place of a variable. -/
def Operand.substitute (name : String) (x : Float) : Operand → Operand
  | .number y => .number y
  | .variable other => if other = name then .number x else .variable other

/-- A part with another operand, if it is one. -/
def Part.mapOperand (f : Operand → Operand) : Part → Part
  | .operand o => .operand (f o)
  | .operator op => .operator op

/-- An item with a number in place of a variable. -/
def Item.substitute (name : String) (x : Float) : Item → Item :=
  Except.map (Part.mapOperand (Operand.substitute name x))

namespace Evaluator

variable {lookup : Lookup} {bindings others : Bindings} {items : List Item}

/-- Operands count for what they stand for. -/
lemma stepItem_map {f : Operand → Operand} {item : Item}
    (same : ∀ o, item = .ok (.operand o) → Term.leaf lookup others (f o) = Term.leaf lookup bindings o)
    (stack : Stack Operand) :
    stepItem lookup others stack (item.map (Part.mapOperand f)) = stepItem lookup bindings stack item := by
  obtain e | (o | op) := item
  · rfl
  · change (step lookup others stack (.operand (f o))).mapError _ = _
    rw [stepItem, Term.step_operand, Term.step_operand, same o rfl]
  · rfl

/-- Items whose operands stand for the same do the same to a stack. -/
lemma run_map {f : Operand → Operand}
    (same : ∀ o, .ok (.operand o) ∈ items → Term.leaf lookup others (f o) = Term.leaf lookup bindings o)
    (stack : Stack Operand) :
    run lookup others (items.map (Except.map (Part.mapOperand f))) stack =
      run lookup bindings items stack := by
  induction items generalizing stack with
  | nil => rfl
  | cons item rest ih =>
    have later (o : Operand) (member : .ok (.operand o) ∈ rest) := same o (List.mem_cons_of_mem _ member)
    rw [List.map_cons, run, run, stepItem_map fun o first => same o (first ▸ List.mem_cons_self)]
    cases stepItem lookup bindings stack item with
    | error failure => rfl
    | ok stack' => exact ih later stack'

/-- Bindings in which the variables among the items stand for the same give the same value or failure. -/
lemma evaluateItems_agree
    (same : ∀ o, .ok (.operand o) ∈ items → Term.leaf lookup others o = Term.leaf lookup bindings o) :
    evaluateItems lookup others items = evaluateItems lookup bindings items := by
  have kept (item : Item) : item.map (Part.mapOperand id) = item := by
    obtain e | (o | op) := item <;> rfl
  have ran := run_map (f := id) same .empty
  rw [List.map_congr_left fun item _ => kept item, List.map_id'] at ran
  rw [evaluateItems, ran, evaluateItems]

/-- A variable that stands for a number may as well be that number, and is not looked up then. -/
lemma evaluateItems_substitute {name : String} {binding : Binding} {x : Float}
    (bound : bindings.get? name = some binding) (found : lookup name binding = .ok (.number x)) :
    evaluateItems lookup (bindings.erase name) (items.map (Item.substitute name x)) =
      evaluateItems lookup bindings items := by
  have same (o : Operand) :
      Term.leaf lookup (bindings.erase name) (o.substitute name x) = Term.leaf lookup bindings o := by
    obtain y | other := o
    · rfl
    · rw [Operand.substitute]
      by_cases replaced : other = name
      · rw [if_pos replaced, replaced, Term.leaf, Term.leaf, bound]
        exact found.symm
      · rw [if_neg replaced, Term.leaf, Term.leaf, Dictionary.get?_erase, if_neg replaced]
  have ran := run_map (fun o (_ : .ok (.operand o) ∈ items) => same o) .empty
  rw [evaluateItems, Item.substitute, ran, evaluateItems]

/-- Bindings that agree on the variables among the items of a source give it the same value or failure. So
does a source in whose items a variable has been replaced by the number that it stands for, though the
variable is not bound any more. -/
theorem evaluate_substitution {σ τ : Type} [FiniteSource σ] [FiniteSource τ] (s : σ) (s' : τ)
    (bindings : Bindings) :
    let outcome := (evaluate standardLookup bindings (.ofSource s)).1
    (∀ others : Bindings,
      (∀ name, .ok (.operand (.variable name)) ∈ FiniteSource.items s →
        others.get? name = bindings.get? name) →
      (evaluate standardLookup others (.ofSource s)).1 = outcome) ∧
    ∀ name binding x, bindings.get? name = some binding →
      standardLookup name binding = .ok (.number x) →
      FiniteSource.items s' = (FiniteSource.items s).map (Item.substitute name x) →
      (evaluate standardLookup (bindings.erase name) (.ofSource s')).1 = outcome := by
  intro outcome
  have value : outcome = evaluateItems standardLookup bindings (FiniteSource.items s) :=
    (Replay.Keeps.ofSource s).evaluate_eq standardLookup bindings
  constructor
  · intro others agree
    rw [value, (Replay.Keeps.ofSource s).evaluate_eq]
    refine evaluateItems_agree fun o member => ?_
    obtain x | name := o
    · rfl
    · rw [Term.leaf, Term.leaf, agree name member]
  · intro name binding x bound found replaced
    rw [value, (Replay.Keeps.ofSource s').evaluate_eq, replaced]
    exact evaluateItems_substitute bound found

/-- The difference of what `:x` and `:y` are bound to, where `:y` is bound to a text and `:z` to nothing that
matters. -/
theorem evaluate_substitution_difference :
    let parts := [.operand (.variable ":x"), .operand (.variable ":y"), .operator Library.subtraction]
    let s : Listed := ⟨parts.map (some <| .ok ·)⟩
    let replaced := [.operand (.variable ":x"), .operand (.number 4), .operator Library.subtraction]
    let s' : Listed := ⟨replaced.map (some <| .ok ·)⟩
    let bindings : Bindings := (Dictionary.empty.insert ":y" (.raw (.string " 4e0"))).insert ":x"
      (.operand (.number 10))
    let others := bindings.insert ":z" (.operand (.variable ":x"))
    let outcome := (evaluate standardLookup bindings (.ofSource s)).1
    (∀ name, .ok (.operand (.variable name)) ∈ FiniteSource.items s →
        others.get? name = bindings.get? name) ∧
      bindings.get? ":y" = some (.raw (.string " 4e0")) ∧
      standardLookup ":y" (.raw (.string " 4e0")) = .ok (.number 4) ∧
      FiniteSource.items s' = (FiniteSource.items s).map (Item.substitute ":y" 4) ∧
      (evaluate standardLookup others (.ofSource s)).1 = outcome ∧
      (evaluate standardLookup (bindings.erase ":y") (.ofSource s')).1 = outcome ∧
      outcome = .ok (.number (10 - 4)) := by
  intro parts s replaced s' bindings others outcome
  have items : FiniteSource.items s = parts.map .ok := Listed.items_eq parts
  have items' : FiniteSource.items s' = replaced.map .ok := Listed.items_eq replaced
  have agree (name : String) (member : .ok (.operand (.variable name)) ∈ FiniteSource.items s) :
      others.get? name = bindings.get? name := by
    have other : name ≠ ":z" := by
      rintro rfl
      simp [items, parts] at member
    rw [Dictionary.get?_insert, if_neg other]
  have bound : bindings.get? ":y" = some (.raw (.string " 4e0")) := rfl
  have found : standardLookup ":y" (.raw (.string " 4e0")) = .ok (.number 4) := by decide +kernel
  have substituted : FiniteSource.items s' = (FiniteSource.items s).map (Item.substitute ":y" 4) := by
    rw [items, items']
    rfl
  obtain ⟨unused, used⟩ := evaluate_substitution s s' bindings
  have value : outcome = _ := (used ":y" _ 4 bound found substituted).symm
  refine ⟨agree, bound, found, substituted, unused others agree, value.symm, ?_⟩
  rw [value, (Replay.Keeps.ofSource s').evaluate_eq, items']
  rfl

end Evaluator

end Formula
