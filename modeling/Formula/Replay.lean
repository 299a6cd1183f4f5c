import Formula.Json.Printer
import Formula.Source

/-!
# Replayable expressions

A `Replay` stands between a source and any number of traversals. It asks the source only for parts
that no traversal has seen yet, keeps all parts it got, and stops asking after an error or an answer
that is none. `fold` feeds the parts of a traversal to a step function; it ends because each part
either comes out of the buffer or lowers the bound of the source.
-/

namespace Formula

/-- The parts that have come from a source, and the source. -/
structure Replay (σ : Type) where
  source : σ
  /-- Whether the source is not asked any more. -/
  exhausted : Bool
  buffer : List Part
  error : Option ParseError
  /-- How often the source has been asked. -/
  pulls : Nat

/-- A place in a replay: the number of parts seen, and whether the end has been seen. -/
structure Traversal where
  index : Nat
  done : Bool
deriving DecidableEq

/-- The traversal that has seen nothing. -/
def Traversal.start : Traversal := ⟨0, false⟩

/-- Moves a traversal on by the answer it got. -/
def Traversal.after (t : Traversal) : Option Item → Traversal
  | some (.ok _) => { t with index := t.index + 1 }
  | _ => { t with done := true }

namespace Replay

variable {σ : Type}

/-- The replay of a source that has not been asked yet. -/
def ofSource (source : σ) : Replay σ := ⟨source, false, [], none, 0⟩

/-- The replay of fixed parts, for which no source is asked. -/
def ofParts (parts : List Part) : Replay Listed := ⟨⟨[]⟩, true, parts, none, 0⟩

def pull [Source σ] (r : Replay σ) : Option Item × Replay σ :=
  if r.exhausted then (none, r)
  else
    match Source.next r.source with
    | (some (.ok part), source) =>
      (some (.ok part), { r with source, buffer := r.buffer ++ [part], pulls := r.pulls + 1 })
    | (some (.error e), source) =>
      (some (.error e), { r with source, error := some e, exhausted := true, pulls := r.pulls + 1 })
    | (none, source) => (none, { r with source, exhausted := true, pulls := r.pulls + 1 })

def next [Source σ] (r : Replay σ) (t : Traversal) : Option Item × Replay σ × Traversal :=
  if t.done then (none, r, t)
  else
    match r.buffer[t.index]? with
    | some part => (some (.ok part), r, { t with index := t.index + 1 })
    | none =>
      match r.error with
      | some e => (some (.error e), r, { t with done := true })
      | none => (r.pull.1, r.pull.2, t.after r.pull.1)

/-- The number of parts that a traversal can still get at most. -/
def left [FiniteSource σ] (r : Replay σ) (t : Traversal) : Nat :=
  r.buffer.length - t.index + (if r.exhausted then 0 else FiniteSource.bound r.source)

/-- A part that the source is asked for is one less that a traversal can get. -/
theorem left_pull [FiniteSource σ] {r r' : Replay σ} {t : Traversal} {part : Part}
    (beyond : r.buffer.length ≤ t.index) (h : r.pull = (some (.ok part), r')) :
    r'.left (t.after (some (.ok part))) < r.left t := by
  unfold pull at h
  split at h
  · exact absurd h nofun
  · next asking =>
    split at h
    · next got source answered =>
      cases h
      have lower := FiniteSource.bound_next _ _ _ answered
      simp only [left, Bool.eq_false_iff.mpr asking, Traversal.after, List.length_append,
        List.length_singleton, Bool.false_eq_true, ↓reduceIte]
      omega
    · exact absurd h nofun
    · exact absurd h nofun

/-- A part brings a traversal nearer to its end. -/
theorem left_next [FiniteSource σ] {r r' : Replay σ} {t t' : Traversal} {part : Part}
    (h : r.next t = (some (.ok part), r', t')) : r'.left t' < r.left t := by
  unfold next at h
  split at h
  · exact absurd h nofun
  · split at h
    · next found =>
      cases h
      have inside := (List.getElem?_eq_some_iff.mp found).1
      simp only [left]
      omega
    · next beyond =>
      split at h
      · exact absurd h nofun
      · simp only [Prod.mk.injEq] at h
        obtain ⟨answer, rfl, rfl⟩ := h
        rw [answer]
        exact left_pull (List.getElem?_eq_none_iff.mp beyond) (Prod.ext answer rfl)

/-- Feeds the parts of a traversal to `step`, up to the first failure of a step or of reading. -/
def fold [FiniteSource σ] {β ε : Type} (step : β → Part → Except ε β) (fail : β → ParseError → ε)
    (state : β) (r : Replay σ) (t : Traversal) : Except ε β × Replay σ × Traversal :=
  match _h : r.next t with
  | (none, r', t') => (.ok state, r', t')
  | (some (.error e), r', t') => (.error (fail state e), r', t')
  | (some (.ok part), r', t') =>
    match step state part with
    | .ok state' => fold step fail state' r' t'
    | .error e => (.error e, r', t')
termination_by r.left t
decreasing_by exact left_next _h

/-- All items that a traversal still yields. -/
def rest [FiniteSource σ] (r : Replay σ) (t : Traversal) : List Item × Replay σ × Traversal :=
  match r.fold (fun seen part => .ok (seen ++ [.ok part])) (fun seen e => seen ++ [.error e]) [] t
  with
  | (.ok items, r, t) => (items, r, t)
  | (.error items, r, t) => (items, r, t)

/-- All parts, or the error that ends them. -/
def toList [FiniteSource σ] (r : Replay σ) : Except ParseError (List Part) × Replay σ :=
  let (parts, r, _) :=
    fold (fun seen part => .ok (seen ++ [part])) (fun _ e => e) [] r .start
  (parts, r)

/-- Shows all parts with spaces between them. -/
def render [FiniteSource σ] (r : Replay σ) : Except ParseError String × Replay σ :=
  let (parts, r) := r.toList
  (parts.map fun parts => " ".intercalate (parts.map Part.render), r)

/-- The JSON form of an expression: an array of the forms of its parts. -/
def toJson [FiniteSource σ] (r : Replay σ) : Except ParseError Json × Replay σ :=
  let (parts, r) := r.toList
  (parts.map fun parts => .array (parts.map Part.toJson), r)

/-- Shows what has been read so far. -/
def inspect (r : Replay σ) : String :=
  let error := (r.error.map fun e => "Some(" ++ e.inspect ++ ")").getD "None"
  "ExpressionStream \x7b buffer: [" ++ ", ".intercalate (r.buffer.map Part.inspect) ++ "], error: " ++
    error ++ ", exhausted: " ++ toString r.exhausted ++ " \x7d"

end Replay

end Formula
