import Formula.Proofs.Replay.Fold
import Formula.Proofs.Replay.Session

/-!
# Interleaved traversals

What is made of a whole replay, its list, text, JSON form or value, is made by one more traversal, which
is started and asked until it needs no more (`Session.use_whole`). So a session in which this is done too
is a session of single steps. It is done on sources that come to an end; on one that never ends, the
single steps are all that a traversal can make, to be left at any of them. `Session.replays` says what all
sessions have in common.
-/

namespace Formula

/-- Something that is made of a whole replay by a traversal of its own. -/
inductive Whole where
  | toList
  | render
  | toJson
  | evaluate (lookup : Lookup) (bindings : Bindings)

/-- A step of a session, or something that is made of the whole replay. -/
inductive Use where
  | act (a : Act)
  | whole (w : Whole)

variable {σ : Type} [FiniteSource σ]

/-- The answers that a fold gets, and what it leaves. -/
def Replay.hear {β ε : Type} (step : β → Part → Except ε β) (state : β) (r : Replay σ)
    (t : Traversal) : List (Option Item) × Replay σ × Traversal :=
  match _h : r.next t with
  | (none, r', t') => ([none], r', t')
  | (some (.error e), r', t') => ([some (.error e)], r', t')
  | (some (.ok part), r', t') =>
    match step state part with
    | .ok state' =>
      let heard := hear step state' r' t'
      (some (.ok part) :: heard.1, heard.2)
    | .error _ => ([some (.ok part)], r', t')
termination_by r.left t
decreasing_by exact Replay.left_next _h

/-- The answers that are got where something is made, and what is left. -/
def Whole.hear (r : Replay σ) : Whole → List (Option Item) × Replay σ × Traversal
  | .evaluate lookup bindings =>
    r.hear (fun stack part => (Evaluator.step lookup bindings stack part).mapError Failure.eval)
      .empty .start
  | _ => r.hear (fun seen part => (.ok (seen ++ [part]) : Except ParseError (List Part))) [] .start

/-- The replay after something has been made of it. -/
def Whole.leave (r : Replay σ) : Whole → Replay σ
  | .toList => r.toList.2
  | .render => r.render.2
  | .toJson => r.toJson.2
  | .evaluate lookup bindings => (Evaluator.evaluate lookup bindings r).2

/-- A fold leaves what is left where its answers are heard. -/
lemma Replay.hear_snd {β ε : Type} (step : β → Part → Except ε β) (fail : β → ParseError → ε)
    (state : β) (r : Replay σ) (t : Traversal) :
    (r.hear step state t).2 = (r.fold step fail state t).2 := by
  fun_induction Replay.hear step state r t with
  | case1 state r t r' t' answered =>
    rw [fold]
    split <;> simp_all
  | case2 state r t e r' t' answered =>
    rw [fold]
    split <;> simp_all
  | case3 state r t part r' t' answered state' stepped heard ih =>
    rw [fold]
    split <;> simp_all
    exact ih
  | case4 state r t part r' t' answered e stepped =>
    rw [fold]
    split <;> simp_all

/-- Hearing what is made of a replay leaves what making it leaves. -/
lemma Whole.hear_snd (r : Replay σ) (w : Whole) : (w.hear r).2.1 = w.leave r := by
  cases w with
  | evaluate lookup bindings =>
    rw [hear, leave, Evaluator.evaluate, Replay.hear_snd _ (fun _ e => .parse e)]
    dsimp only
    split <;> simp_all
  | toList | render | toJson =>
    rw [hear, Replay.hear_snd _ (fun _ e => e)]
    · rfl
    all_goals
      intro _ _ same
      cases same

namespace Session

/-- Makes a step, or something of the whole replay. -/
def use (S : Session σ) : Use → Session σ
  | .act a => S.act a
  | .whole w =>
    let heard := w.hear S.replay
    ⟨w.leave S.replay, S.traversals ++ [⟨heard.2.2, heard.1⟩]⟩

/-- Does one thing after another. -/
def useAll (S : Session σ) (uses : List Use) : Session σ := uses.foldl use S

/-- The traversal that was started last is asked. -/
lemma act_next_last {r r' : Replay σ} {t t' : Traversal} {answer : Option Item}
    (answered : r.next t = (answer, r', t')) (others : List Started) (log : List (Option Item)) :
    act ⟨r, others ++ [⟨t, log⟩]⟩ (.next others.length) =
      ⟨r', others ++ [⟨t', log ++ [answer]⟩]⟩ := by
  rw [act_next List.getElem?_concat_length answered]
  simp

/-- A fold asks the traversal that was started last, a number of times. -/
lemma run_hear {β ε : Type} (step : β → Part → Except ε β) (state : β) (r : Replay σ) (t : Traversal)
    (others : List Started) (log : List (Option Item)) :
    ∃ n, run ⟨r, others ++ [⟨t, log⟩]⟩ (List.replicate n (.next others.length)) =
      ⟨(r.hear step state t).2.1,
        others ++ [⟨(r.hear step state t).2.2, log ++ (r.hear step state t).1⟩]⟩ := by
  fun_induction Replay.hear step state r t generalizing log with
  | case1 state r t r' t' answered => exact ⟨1, act_next_last answered others log⟩
  | case2 state r t e r' t' answered => exact ⟨1, act_next_last answered others log⟩
  | case3 state r t part r' t' answered state' stepped heard ih =>
    obtain ⟨n, others_asked⟩ := ih (log ++ [some (.ok part)])
    refine ⟨n + 1, ?_⟩
    rw [List.replicate_succ, run, List.foldl_cons, act_next_last answered]
    rw [run, List.append_assoc, List.singleton_append] at others_asked
    exact others_asked
  | case4 state r t part r' t' answered e stepped => exact ⟨1, act_next_last answered others log⟩

/-- What is made of a whole replay is made by a traversal that is started and asked. -/
lemma use_whole (S : Session σ) (w : Whole) :
    ∃ n, S.use (.whole w) = S.run (.start :: List.replicate n (.next S.traversals.length)) := by
  have left := w.hear_snd S.replay
  -- the new traversal is the last one, and hearing asks no other
  unfold use
  dsimp only
  rw [← left]
  cases w with
  | evaluate lookup bindings =>
    obtain ⟨n, asked⟩ := run_hear _ _ S.replay .start S.traversals []
    exact ⟨n, asked.symm⟩
  | _ =>
    obtain ⟨n, asked⟩ := run_hear _ _ S.replay .start S.traversals []
    exact ⟨n, asked.symm⟩

/-- Whatever is done preserves faithfulness. -/
lemma Faithful.useAll {s : σ} {apart : Nat} {S : Session σ} (h : S.Faithful s apart)
    (uses : List Use) : (S.useAll uses).Faithful s apart := by
  induction uses generalizing S with
  | nil => exact h
  | cons u rest ih =>
    refine ih (S := S.use u) ?_
    cases u with
    | act a => exact h.act a
    | whole w =>
      obtain ⟨n, asked⟩ := S.use_whole w
      rw [asked]
      exact h.run _

/-- A session on a replay of fixed parts is faithful to a source that lists them, of which nothing has
been asked for. -/
lemma Faithful.ofParts (parts : List Part) :
    (ofReplay (.ofParts parts)).Faithful ⟨parts.map (some <| .ok ·)⟩ (parts.length + 1) where
  keeps := .ofParts parts
  follows _ member := by cases member
  counted := Nat.zero_add _
  reached := le_rfl

/-- Whatever is done in a session, every traversal gets in order what the source tells, and what is made
of the whole replay is made of the items of the source. The source is asked as often as the traversal that
is asked most, but not after its first answer that is no part. Fixed parts are replayed alike, and nothing
is asked for. -/
theorem replays :
    (∀ {σ : Type} [Source σ] (s : σ) (acts : List Act),
      let S := (ofReplay (.ofSource s)).run acts
      (∀ t ∈ S.traversals, ∀ k answer, t.log[k]? = some answer → answer = Source.told s k) ∧
      (S.replay.pulls : ℕ∞) = min (Source.extent s + 1) S.longest ∧
      S.replay.source = Source.after s S.replay.pulls) ∧
    (∀ {σ : Type} [FiniteSource σ] (s : σ) (uses : List Use),
      let S := (ofReplay (.ofSource s)).useAll uses
      (∀ t ∈ S.traversals, ∀ k answer, t.log[k]? = some answer → answer = Source.told s k) ∧
      S.replay.Makes (FiniteSource.items s) ∧
      (S.replay.pulls : ℕ∞) = min (Source.extent s + 1) S.longest ∧
      S.replay.source = Source.after s S.replay.pulls) ∧
    (∀ (parts : List Part) (uses : List Use),
      let S := (ofReplay (.ofParts parts)).useAll uses
      (∀ t ∈ S.traversals, ∀ (k : Nat) (answer : Option Item), t.log[k]? = some answer →
        answer = parts[k]?.map .ok) ∧
      S.replay.Makes (parts.map .ok) ∧
      S.replay.pulls = 0) := by
  refine ⟨fun s acts => ?_, fun s uses => ?_, fun parts uses => ?_⟩
  · have faithful := (Faithful.ofSource s).run acts
    exact ⟨fun t member => (faithful.follows t member).told, faithful.pulls, faithful.source⟩
  · have faithful := (Faithful.ofSource s).useAll uses
    exact ⟨fun t member => (faithful.follows t member).told, faithful.keeps.makes, faithful.pulls,
      faithful.source⟩
  · have faithful := (Faithful.ofParts parts).useAll uses
    refine ⟨fun t member k answer found => ?_, ?_, ?_⟩
    · rw [← Listed.told_eq]
      exact (faithful.follows t member).told k answer found
    · rw [← Listed.items_eq]
      exact faithful.keeps.makes
    · have held := faithful.keeps.edge_le
      have counted := faithful.counted
      rw [Listed.extent_eq] at held
      norm_cast at held
      omega

end Session

end Formula
