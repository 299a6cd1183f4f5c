import Formula.Evaluator
import Formula.Proofs.Replay.Traversal
import Formula.Proofs.Yard.Reading

/-!
# Folds over a replay

A fold over a replay asks a new traversal for one item after another. However many parts other traversals
have had before, its outcome is that of a fold over the items of the source (`Replay.fold_start`). The
list of the parts, its text and its JSON form, and the value of the expression are such folds
(`Replay.Keeps.makes`).
-/

namespace Formula

/-- Feeds the parts of a list of items to `step`, up to the first failure. -/
def foldItems {β ε : Type} (step : β → Part → Except ε β) (fail : β → ParseError → ε) :
    β → List Item → Except ε β
  | state, [] => .ok state
  | state, .error e :: _ => .error (fail state e)
  | state, .ok part :: rest =>
    match step state part with
    | .ok state' => foldItems step fail state' rest
    | .error e => .error e

/-- The parts of a list of items, or the first error. -/
def gather : List Item → Except ParseError (List Part)
  | [] => .ok []
  | .error e :: _ => .error e
  | .ok part :: rest => (gather rest).map (part :: ·)

/-- Gathering is a fold. -/
lemma foldItems_gather (seen : List Part) (items : List Item) :
    foldItems (fun seen part => .ok (seen ++ [part])) (fun _ e => e) seen items =
      (gather items).map (seen ++ ·) := by
  induction items generalizing seen with
  | nil => simp [foldItems, gather, Except.map]
  | cons item rest ih =>
    cases item with
    | error e => rfl
    | ok part =>
      rw [foldItems, gather]
      dsimp only
      rw [ih]
      cases gather rest <;> simp [Except.map]

/-- Taking items is a fold. -/
lemma Evaluator.foldItems_step (lookup : Lookup) (bindings : Bindings) (stack : Stack Operand)
    (items : List Item) :
    foldItems (fun stack part => (step lookup bindings stack part).mapError .eval)
      (fun _ e => .parse e) stack items = run lookup bindings items stack := by
  induction items generalizing stack with
  | nil => rfl
  | cons item rest ih =>
    cases item with
    | error e => rfl
    | ok part =>
      rw [foldItems, run, stepItem]
      cases (step lookup bindings stack part).mapError Failure.eval with
      | ok stack' => exact ih stack'
      | error e => rfl

/-- How many answers a fold over items asks for: one for each item that it gets, and one for the end. -/
def asked {β ε : Type} (step : β → Part → Except ε β) : β → List Item → Nat
  | _, [] => 1
  | _, .error _ :: _ => 1
  | state, .ok part :: rest =>
    match step state part with
    | .ok state' => asked step state' rest + 1
    | .error _ => 1

/-- A fold that has taken these parts asks for the rest as one that begins there. -/
lemma asked_append {β ε : Type} {step : β → Part → Except ε β} {fail : β → ParseError → ε}
    {state state' : β} {parts : List Part} (h : foldItems step fail state (parts.map .ok) = .ok state')
    (rest : List Item) :
    asked step state (parts.map .ok ++ rest) = parts.length + asked step state' rest := by
  induction parts generalizing state with
  | nil =>
    cases h
    exact (Nat.zero_add _).symm
  | cons part others ih =>
    rw [List.map_cons, foldItems] at h
    rw [List.map_cons, List.cons_append, asked, List.length_cons]
    cases stepped : step state part with
    | error e =>
      rw [stepped] at h
      cases h
    | ok middle =>
      rw [stepped] at h
      dsimp only
      rw [ih h, Nat.add_right_comm]

section

variable {σ : Type} [FiniteSource σ] {s : σ} {k : Nat}

/-- The items that are left begin with the next answer. -/
lemma FiniteSource.items_after {item : Item} (h : Source.answer s k = some item) :
    items (Source.after s k) = item :: items (Source.after s (k + 1)) :=
  items_of_some (Prod.ext h rfl)

/-- Where the next answer is nothing, no items are left. -/
lemma FiniteSource.items_after_none (h : Source.answer s k = none) :
    items (Source.after s k) = [] := by
  have ends : Source.next (Source.after s k) = (none, Source.after s (k + 1)) := Prod.ext h rfl
  exact items_of_none ends

end

namespace Replay

/-- A part brings a traversal on by one. -/
lemma Nexts.of_part {σ : Type} [Source σ] {r r' : Replay σ} {t t' : Traversal} {answer : Option Item}
    {part : Part} (step : Nexts r t answer r' t') (h : answer = some (.ok part)) :
    t.done = false ∧ t' = { t with index := t.index + 1 } := by
  cases step with
  | finished _ => cases h
  | kept unended _ => exact ⟨unended, rfl⟩
  | last _ _ _ => simp at h
  | part unended _ _ _ => exact ⟨unended, rfl⟩
  | noPart _ _ _ _ _ => simp at h

/-- A traversal that has not ended gets the answer of the source at its place. -/
lemma Nexts.answer_at {σ : Type} [Source σ] {s : σ} {r r' : Replay σ} {t t' : Traversal}
    {answer : Option Item} {log : List (Option Item)} (step : Nexts r t answer r' t')
    (keeps : r.Keeps s) (follows : Follows s r t log) (unended : t.done = false) :
    Source.answer s t.index = answer := by
  obtain ⟨length, inside⟩ := follows.of_unended unended
  rw [step.answer_eq keeps follows, length]
  exact (Source.told_of_parts fun j lower => keeps.isPart j (lower.trans_le inside)).symm

section Fold

variable {σ : Type} [FiniteSource σ] {s : σ} {r : Replay σ} {t : Traversal}

/-- A fold over the rest of a traversal is one over the items that the source has left. -/
lemma fold_eq_foldItems {β ε : Type} (step : β → Part → Except ε β) (fail : β → ParseError → ε)
    (state : β) {log : List (Option Item)} (keeps : r.Keeps s) (follows : Follows s r t log)
    (unended : t.done = false) :
    (r.fold step fail state t).1 =
      foldItems step fail state (FiniteSource.items (Source.after s t.index)) := by
  fun_induction Replay.fold step fail state r t generalizing log with
  | case1 state r t r' t' answered =>
    have answer := (nexts_of_next answered).answer_at keeps follows unended
    rw [FiniteSource.items_after_none answer]
    rfl
  | case2 state r t e r' t' answered =>
    have answer := (nexts_of_next answered).answer_at keeps follows unended
    rw [FiniteSource.items_after answer]
    rfl
  | case3 state r t part r' t' answered state' stepped ih =>
    have nexts := nexts_of_next answered
    have answer := nexts.answer_at keeps follows unended
    obtain ⟨-, rfl⟩ := nexts.of_part rfl
    rw [ih (nexts.keeps keeps) (nexts.follows keeps follows) unended,
      FiniteSource.items_after answer, foldItems, stepped]
  | case4 state r t part r' t' answered e stepped =>
    have answer := (nexts_of_next answered).answer_at keeps follows unended
    rw [FiniteSource.items_after answer, foldItems, stepped]

/-- A fold over a replay is one over the items of its source. -/
lemma fold_start {β ε : Type} (step : β → Part → Except ε β) (fail : β → ParseError → ε)
    (state : β) (keeps : r.Keeps s) :
    (r.fold step fail state .start).1 = foldItems step fail state (FiniteSource.items s) :=
  fold_eq_foldItems step fail state keeps (.start s r) rfl

/-- At the end of what is held the source is asked, if it has not ended. -/
lemma Nexts.asks {r' : Replay σ} {t' : Traversal} {answer : Option Item} (step : Nexts r t answer r' t')
    (unended : t.done = false) (beyond : r.buffer.length ≤ t.index) (asking : r.exhausted = false)
    (no_error : r.error = none) :
    r'.pulls = r.pulls + 1 ∧ ∀ part, answer = some (.ok part) →
      r'.buffer.length = r.buffer.length + 1 ∧ r'.exhausted = false := by
  cases step with
  | finished finished => simp [unended] at finished
  | kept _ found =>
    have inside := (List.getElem?_eq_some_iff.mp found).1
    omega
  | last _ _ stopped => simp [asking, no_error] at stopped
  | part _ _ _ _ => exact ⟨rfl, fun _ _ => ⟨List.length_append, asking⟩⟩
  | noPart _ _ _ _ _ => exact ⟨rfl, fun part same => by simp at same⟩

/-- A fold that begins where all that is held has been seen asks the source for every answer it gets. -/
lemma pulls_fold {β ε : Type} (step : β → Part → Except ε β) (fail : β → ParseError → ε)
    (state : β) {log : List (Option Item)} (keeps : r.Keeps s) (follows : Follows s r t log)
    (unended : t.done = false) (beyond : r.buffer.length ≤ t.index) (asking : r.exhausted = false) :
    (r.fold step fail state t).2.1.pulls =
      r.pulls + asked step state (FiniteSource.items (Source.after s t.index)) := by
  fun_induction Replay.fold step fail state r t generalizing log with
  | case1 state r t r' t' answered =>
    have nexts := nexts_of_next answered
    rw [FiniteSource.items_after_none (nexts.answer_at keeps follows unended)]
    exact (nexts.asks unended beyond asking (keeps.asking asking)).1
  | case2 state r t e r' t' answered =>
    have nexts := nexts_of_next answered
    rw [FiniteSource.items_after (nexts.answer_at keeps follows unended)]
    exact (nexts.asks unended beyond asking (keeps.asking asking)).1
  | case3 state r t part r' t' answered state' stepped ih =>
    have nexts := nexts_of_next answered
    have answer := nexts.answer_at keeps follows unended
    obtain ⟨pulls, more⟩ := nexts.asks unended beyond asking (keeps.asking asking)
    obtain ⟨length, asking'⟩ := more part rfl
    obtain ⟨-, rfl⟩ := nexts.of_part rfl
    rw [ih (nexts.keeps keeps) (nexts.follows keeps follows) unended (by dsimp only; omega) asking',
      pulls, FiniteSource.items_after answer, asked, stepped, Nat.add_right_comm, Nat.add_assoc]
  | case4 state r t part r' t' answered e stepped =>
    have nexts := nexts_of_next answered
    rw [FiniteSource.items_after (nexts.answer_at keeps follows unended), asked, stepped]
    exact (nexts.asks unended beyond asking (keeps.asking asking)).1

/-- What is made of a whole replay is made of these items, up to the first error. -/
structure Makes (r : Replay σ) (items : List Item) : Prop where
  list : r.toList.1 = gather items
  text : r.render.1 = (gather items).map fun parts => " ".intercalate (parts.map Part.render)
  json : r.toJson.1 = (gather items).map fun parts => .array (parts.map Part.toJson)
  value : ∀ lookup bindings, (Evaluator.evaluate lookup bindings r).1 =
    Evaluator.evaluateItems lookup bindings items

/-- The value of an expression is that of the items of its source. -/
lemma Keeps.evaluate_eq (keeps : r.Keeps s) (lookup : Lookup) (bindings : Bindings) :
    (Evaluator.evaluate lookup bindings r).1 =
      Evaluator.evaluateItems lookup bindings (FiniteSource.items s) := by
  have folded := fold_start (fun stack part => (Evaluator.step lookup bindings stack part).mapError
    Failure.eval) (fun _ e => .parse e) .empty keeps
  rw [Evaluator.foldItems_step] at folded
  rw [Evaluator.evaluate, Evaluator.evaluateItems, ← folded]
  dsimp only
  split <;> simp_all

/-- What is made of a whole replay is made of the items of its source. -/
lemma Keeps.makes (keeps : r.Keeps s) : r.Makes (FiniteSource.items s) := by
  have list : r.toList.1 = gather (FiniteSource.items s) := by
    have folded := fold_start (fun seen part => .ok (seen ++ [part])) (fun _ e => e) [] keeps
    rw [foldItems_gather] at folded
    rw [toList, folded]
    cases gather (FiniteSource.items s) <;> rfl
  refine ⟨list, ?_, ?_, keeps.evaluate_eq⟩
  · change r.toList.1.map _ = _
    rw [list]
  · change r.toList.1.map _ = _
    rw [list]

end Fold

end Replay

end Formula
