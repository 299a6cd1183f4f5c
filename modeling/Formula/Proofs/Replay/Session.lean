import Formula.Proofs.Replay.Traversal
import Mathlib.Data.List.MinMax

/-!
# Sessions

A session is a replay with the traversals that have been started on it, each with the log of its answers.
Traversals are started and asked in any order. `Session.Faithful` is what every step preserves: the replay
keeps what its source tells, every traversal follows it, and the source has been asked no more often than
the traversal that has been asked most.
-/

namespace Formula

/-- A traversal that has been started, and the answers that it has got. -/
structure Started where
  place : Traversal
  log : List (Option Item)

/-- A replay and the traversals that have been started on it. -/
structure Session (σ : Type) where
  replay : Replay σ
  traversals : List Started

/-- A step of a session: a traversal is started, or one is asked for its next item. -/
inductive Act where
  | start
  | next (i : Nat)

namespace Session

variable {σ : Type}

/-- A session in which no traversal has been started. -/
def ofReplay (r : Replay σ) : Session σ := ⟨r, []⟩

/-- The most answers that a traversal has got. -/
def longest (S : Session σ) : Nat := (S.traversals.map (·.log.length)).foldr max 0

/-- No log is longer than the longest. -/
lemma le_longest {S : Session σ} {t : Started} (member : t ∈ S.traversals) :
    t.log.length ≤ S.longest :=
  List.le_max_of_le (List.mem_map_of_mem member) le_rfl

/-- The longest log is no longer than a bound on all of them. -/
lemma longest_le {S : Session σ} {n : Nat} (all : ∀ t ∈ S.traversals, t.log.length ≤ n) :
    S.longest ≤ n :=
  List.max_le_of_forall_le _ n (by simpa using all)

/-- A traversal that gets an answer does not make the longest log shorter. -/
lemma longest_le_set {S : Session σ} {i : Nat} {t : Started} (found : S.traversals[i]? = some t)
    (t' : Started) (longer : t.log.length ≤ t'.log.length) (r : Replay σ) :
    S.longest ≤ longest ⟨r, S.traversals.set i t'⟩ := by
  obtain ⟨inside, rfl⟩ := List.getElem?_eq_some_iff.mp found
  refine longest_le fun other member => ?_
  obtain ⟨j, inside', rfl⟩ := List.getElem_of_mem member
  by_cases same : i = j
  · subst same
    exact longer.trans (le_longest (S := ⟨r, _⟩) (List.mem_set inside t'))
  · refine le_longest (S := ⟨r, _⟩) (List.mem_of_getElem? (i := j) ?_)
    rw [List.getElem?_set_ne same, List.getElem?_eq_getElem inside']

section Act

variable [Source σ]

/-- Makes a step. -/
def act (S : Session σ) : Act → Session σ
  | .start => { S with traversals := S.traversals ++ [⟨.start, []⟩] }
  | .next i =>
    match S.traversals[i]? with
    | none => S
    | some t =>
      let (answer, replay, place) := S.replay.next t.place
      ⟨replay, S.traversals.set i ⟨place, t.log ++ [answer]⟩⟩

/-- Asking a traversal that has not been started does nothing. -/
lemma act_next_of_none {S : Session σ} {i : Nat} (h : S.traversals[i]? = none) :
    S.act (.next i) = S := by
  simp only [act, h]

/-- A traversal that is asked gets its answer at the end of its log. -/
lemma act_next {S : Session σ} {i : Nat} {t : Started} {answer : Option Item} {r : Replay σ}
    {place : Traversal} (found : S.traversals[i]? = some t)
    (answered : S.replay.next t.place = (answer, r, place)) :
    S.act (.next i) = ⟨r, S.traversals.set i ⟨place, t.log ++ [answer]⟩⟩ := by
  simp only [act, found, answered]

/-- Makes one step after another. -/
def run (S : Session σ) (acts : List Act) : Session σ := acts.foldl act S

/-- A session is faithful to a source, of which `apart` answers have not been asked for. -/
structure Faithful (s : σ) (apart : Nat) (S : Session σ) : Prop where
  keeps : S.replay.Keeps s
  follows : ∀ t ∈ S.traversals, Replay.Follows s S.replay t.place t.log
  counted : S.replay.pulls + apart = S.replay.edge
  reached : S.replay.pulls ≤ S.longest

namespace Faithful

variable {s : σ} {apart : Nat} {S : Session σ}

/-- A traversal that is started leaves a session faithful. -/
lemma start (h : S.Faithful s apart) : (S.act .start).Faithful s apart where
  keeps := h.keeps
  follows t member := by
    rcases List.mem_append.mp member with old | new
    · exact h.follows t old
    · rw [List.mem_singleton.mp new]
      exact .start s S.replay
  counted := h.counted
  reached := by
    refine h.reached.trans (longest_le fun t member => ?_)
    exact le_longest (S := S.act .start) (List.mem_append_left _ member)

/-- A request leaves a session faithful. -/
lemma next (h : S.Faithful s apart) (i : Nat) : (S.act (.next i)).Faithful s apart := by
  cases found : S.traversals[i]? with
  | none =>
    rw [act_next_of_none found]
    exact h
  | some t =>
    obtain ⟨inside, -⟩ := List.getElem?_eq_some_iff.mp found
    have follows := h.follows t (List.mem_of_getElem? found)
    rcases answered : S.replay.next t.place with ⟨answer, r, place⟩
    have nexts := Replay.nexts_of_next answered
    rw [act_next found answered]
    refine ⟨nexts.keeps h.keeps, fun other member => ?_, ?_, ?_⟩
    · rcases List.mem_or_eq_of_mem_set member with old | rfl
      · exact (h.follows other old).grow nexts.grows
      · exact nexts.follows h.keeps follows
    · have counted := h.counted
      rcases nexts.pulls follows with rfl | ⟨pulls, edge, -⟩
      · exact counted
      · dsimp only
        omega
    · have longer := longest_le_set found ⟨place, t.log ++ [answer]⟩ (by simp) r
      -- where the source is asked, this traversal has got all that is held, and now one answer more
      rcases nexts.pulls follows with rfl | ⟨pulls, -, edge⟩
      · exact h.reached.trans longer
      · have new := le_longest (S := ⟨r, S.traversals.set i ⟨place, t.log ++ [answer]⟩⟩)
          (List.mem_set inside _)
        have counted := h.counted
        rw [List.length_append, List.length_singleton] at new
        dsimp only
        omega

/-- Every step preserves faithfulness. -/
lemma act (h : S.Faithful s apart) (a : Act) : (S.act a).Faithful s apart := by
  cases a with
  | start => exact h.start
  | next i => exact h.next i

/-- Every run preserves faithfulness. -/
lemma run (h : S.Faithful s apart) (acts : List Act) : (S.run acts).Faithful s apart := by
  induction acts generalizing S with
  | nil => exact h
  | cons a rest ih => exact ih (h.act a)

/-- The source has been asked as often as the traversal that was asked most, but no more after an answer
that is no part. -/
lemma pulls (h : S.Faithful s 0) :
    (S.replay.pulls : ℕ∞) = min (Source.extent s + 1) S.longest := by
  have counted := h.counted
  have reached := h.reached
  simp only [Replay.edge, Nat.add_zero] at counted
  cases exhausted : S.replay.exhausted with
  | true =>
    have extent := Source.extent_eq h.keeps.isPart (h.keeps.not_isPart exhausted)
    simp only [exhausted, ↓reduceIte] at counted
    rw [extent, min_eq_left (by exact_mod_cast counted ▸ reached), counted]
    rfl
  | false =>
    have extent := Source.le_extent_iff.mpr h.keeps.isPart
    -- no traversal has seen the end, so none has got more answers than there are parts
    have logs : S.longest ≤ S.replay.buffer.length := by
      refine longest_le fun t member => ?_
      rcases (h.follows t member).place with ⟨-, length, inside⟩ | ⟨-, ended, -⟩
      · exact length.le.trans inside
      · rw [exhausted] at ended
        cases ended
    simp only [exhausted, Bool.false_eq_true, ↓reduceIte, Nat.add_zero] at counted
    have same : S.longest = S.replay.pulls := by omega
    rw [same, counted, min_eq_right (extent.trans le_self_add)]

/-- The state of the source is the one after as many requests as have been counted. -/
lemma source (h : S.Faithful s 0) : S.replay.source = Source.after s S.replay.pulls := by
  rw [h.keeps.source, ← h.counted, Nat.add_zero]

end Faithful

/-- A session on a replay that has not been asked is faithful. -/
lemma Faithful.ofSource (s : σ) : (ofReplay (.ofSource s)).Faithful s 0 where
  keeps := .ofSource s
  follows _ member := by cases member
  counted := rfl
  reached := le_rfl

end Act

end Session

end Formula
