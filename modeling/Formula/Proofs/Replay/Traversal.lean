import Formula.Proofs.Replay.Script

/-!
# Traversals of a replay

`Replay.Nexts` lists what a request for the next item can do. A replay *keeps* what its source tells
(`Replay.Keeps`), and a traversal follows it when its log is the beginning of what the source tells and
its place fits the log (`Replay.Follows`). Whatever the traversal, its request is answered as the source
tells (`Nexts.answer_eq`), the replay still keeps (`Nexts.keeps`), and the traversal still follows
(`Nexts.follows`).
-/

namespace Formula

variable {σ : Type} [Source σ]

namespace Replay

/-- What a request for the next item can do. -/
inductive Nexts (r : Replay σ) (t : Traversal) : Option Item → Replay σ → Traversal → Prop where
  /-- The traversal has seen the end. -/
  | finished :
    t.done = true →
    Nexts r t none r t
  /-- The part has been kept. -/
  | kept {part : Part} :
    t.done = false →
    r.buffer[t.index]? = some part →
    Nexts r t (some (.ok part)) r { t with index := t.index + 1 }
  /-- All parts have been seen, and the source is not asked. -/
  | last :
    t.done = false →
    r.buffer.length ≤ t.index →
    r.exhausted = true ∨ r.error ≠ none →
    Nexts r t (r.error.map .error) r { t with done := true }
  /-- The source is asked and yields a part. -/
  | part {part : Part} {source : σ} :
    t.done = false →
    r.buffer.length ≤ t.index →
    r.exhausted = false →
    Source.next r.source = (some (.ok part), source) →
    Nexts r t (some (.ok part))
      { r with source, buffer := r.buffer ++ [part], pulls := r.pulls + 1 }
      { t with index := t.index + 1 }
  /-- The source is asked and yields no part. -/
  | noPart {error : Option ParseError} {source : σ} :
    t.done = false →
    r.buffer.length ≤ t.index →
    r.exhausted = false →
    r.error = none →
    Source.next r.source = (error.map .error, source) →
    Nexts r t (error.map .error)
      { r with source, error, exhausted := true, pulls := r.pulls + 1 }
      { t with done := true }

/-- A request for the next item does one of these. -/
lemma nexts_of_next {r r' : Replay σ} {t t' : Traversal} {answer : Option Item}
    (h : r.next t = (answer, r', t')) : Nexts r t answer r' t' := by
  unfold next at h
  split at h
  · next finished => cases h; exact .finished finished
  · next unfinished =>
    have unended := Bool.eq_false_iff.mpr unfinished
    split at h
    · next part found => cases h; exact .kept unended found
    · next beyond =>
      have beyond := List.getElem?_eq_none_iff.mp beyond
      split at h
      · next e failed =>
        cases h
        have stopped := Nexts.last unended beyond (.inr (by simp [failed]))
        rwa [failed] at stopped
      · next no_error =>
        unfold pull at h
        split at h
        · next ended =>
          cases h
          have stopped := Nexts.last unended beyond (.inl ended)
          rwa [no_error] at stopped
        · next asking =>
          have asking := Bool.eq_false_iff.mpr asking
          split at h
          · next answered => cases h; exact .part unended beyond asking answered
          · next e source answered =>
            cases h
            exact @Nexts.noPart _ _ r t (some e) _ unended beyond asking no_error answered
          · next source answered =>
            cases h
            have ended := @Nexts.noPart _ _ r t none _ unended beyond asking no_error answered
            simpa only [no_error, Option.map_none, Traversal.after] using ended

/-- The number of answers that a replay holds. -/
def edge (r : Replay σ) : Nat := r.buffer.length + if r.exhausted then 1 else 0

/-- A replay holds the first answers of its source, up to the first that is no part. -/
structure Keeps (s : σ) (r : Replay σ) : Prop where
  parts : ∀ k part, r.buffer[k]? = some part → Source.answer s k = some (.ok part)
  source : r.source = Source.after s r.edge
  asking : r.exhausted = false → r.error = none
  ended : r.exhausted = true → Source.answer s r.buffer.length = r.error.map .error

/-- A replay is as far as another one, and where that asks no more, it is the same. -/
structure Grows (r r' : Replay σ) : Prop where
  length_le : r.buffer.length ≤ r'.buffer.length
  eq_of_exhausted : r.exhausted = true → r' = r

/-- A traversal has got, in order, what the source tells, and its place in the replay fits: it has seen
as many parts as it has got answers, or the end. -/
structure Follows (s : σ) (r : Replay σ) (t : Traversal) (log : List (Option Item)) : Prop where
  told : ∀ k answer, log[k]? = some answer → answer = Source.told s k
  place : t.done = false ∧ log.length = t.index ∧ t.index ≤ r.buffer.length ∨
    t.done = true ∧ r.exhausted = true ∧ r.buffer.length < log.length

/-- A replay that has not asked its source yet keeps what this tells. -/
lemma Keeps.ofSource (s : σ) : Keeps s (.ofSource s) where
  parts _ _ found := by cases found
  source := rfl
  asking _ := rfl
  ended exhausted := by cases exhausted

/-- A replay of fixed parts keeps them as one of a source that lists them. -/
lemma Keeps.ofParts (parts : List Part) : Keeps ⟨parts.map (some <| .ok ·)⟩ (.ofParts parts) where
  parts k part found := by
    rw [Listed.answer_eq]
    exact congrArg (Option.map _) found
  source := by
    change _ = Source.after _ (parts.length + 1)
    rw [Listed.after_eq, List.drop_eq_nil_of_le (by simp)]
    rfl
  asking unended := by cases unended
  ended _ := by
    change Source.answer _ parts.length = none
    rw [Listed.answer_eq, List.getElem?_eq_none le_rfl]
    rfl

namespace Keeps

variable {s : σ} {r r' : Replay σ} {t t' : Traversal} {log : List (Option Item)}
  {answer : Option Item}

/-- The answers that are kept are parts. -/
lemma isPart (h : r.Keeps s) : ∀ j < r.buffer.length, Source.IsPart (Source.answer s j) :=
  fun j inside => ⟨r.buffer[j], h.parts j _ (List.getElem?_eq_getElem inside)⟩

/-- A part that is kept is what the source tells. -/
lemma told_of_getElem? (h : r.Keeps s) {k : Nat} {part : Part} (found : r.buffer[k]? = some part) :
    Source.told s k = some (.ok part) := by
  have inside := (List.getElem?_eq_some_iff.mp found).1
  rw [Source.told_of_parts fun j lower => h.isPart j (lower.trans inside), h.parts k part found]

/-- Behind the parts that are kept, a source tells what it answers. -/
lemma told_length (h : r.Keeps s) :
    Source.told s r.buffer.length = Source.answer s r.buffer.length :=
  Source.told_of_parts h.isPart

/-- What the source answered last, where it is asked no more, is no part. -/
lemma not_isPart (h : r.Keeps s) (exhausted : r.exhausted = true) :
    ¬ Source.IsPart (Source.answer s r.buffer.length) := by
  rw [h.ended exhausted]
  rintro ⟨part, same⟩
  cases failed : r.error <;> simp [failed] at same

/-- A replay holds no more answers than the source tells before and at its end. -/
lemma edge_le (h : r.Keeps s) : (r.edge : ℕ∞) ≤ Source.extent s + 1 := by
  cases exhausted : r.exhausted with
  | true =>
    rw [Source.extent_eq h.isPart (h.not_isPart exhausted), edge, exhausted]
    rfl
  | false =>
    rw [edge, exhausted]
    exact (Source.le_extent_iff.mpr h.isPart).trans le_self_add

/-- Behind its end a source tells nothing. -/
lemma told_of_lt (h : r.Keeps s) (exhausted : r.exhausted = true) {k : Nat}
    (later : r.buffer.length < k) : Source.told s k = none :=
  Source.told_of_lt (h.not_isPart exhausted) later

/-- A replay that has stopped asking has seen the end of its source. -/
lemma exhausted_of (h : r.Keeps s) (stopped : r.exhausted = true ∨ r.error ≠ none) :
    r.exhausted = true := by
  rcases stopped with exhausted | failed
  · exact exhausted
  · by_contra asking
    exact failed (h.asking (Bool.eq_false_iff.mpr asking))

/-- A source that is asked gives the answer behind the parts that are kept. -/
lemma next_source (h : r.Keeps s) (asking : r.exhausted = false) :
    Source.next r.source =
      (Source.answer s r.buffer.length, Source.after s (r.buffer.length + 1)) := by
  rw [h.source, edge, asking]
  rfl

/-- A replay that has got a part keeps it. -/
lemma push (h : r.Keeps s) (asking : r.exhausted = false) {part : Part} {source : σ}
    (answered : Source.next r.source = (some (.ok part), source)) :
    Keeps s { r with source, buffer := r.buffer ++ [part], pulls := r.pulls + 1 } := by
  rw [h.next_source asking] at answered
  obtain ⟨answer_eq, source_eq⟩ := Prod.mk.inj answered
  refine ⟨fun k other found => ?_, ?_, h.asking, fun exhausted => ?_⟩
  -- an older part, the new one, or none
  · rcases Nat.lt_trichotomy k r.buffer.length with before | rfl | after
    · rw [List.getElem?_append_left before] at found
      exact h.parts k other found
    · rw [List.getElem?_concat_length] at found
      rw [← Option.some.inj found, answer_eq]
    · rw [List.getElem?_eq_none (by simpa using after)] at found
      cases found
  · simp [edge, asking, ← source_eq]
  · rw [asking] at exhausted
    cases exhausted

/-- A replay that has got no part keeps what it has got instead. -/
lemma stop (h : r.Keeps s) (asking : r.exhausted = false) {error : Option ParseError} {source : σ}
    (answered : Source.next r.source = (error.map .error, source)) :
    Keeps s { r with source, error, exhausted := true, pulls := r.pulls + 1 } := by
  rw [h.next_source asking] at answered
  obtain ⟨answer_eq, source_eq⟩ := Prod.mk.inj answered
  refine ⟨h.parts, ?_, fun unended => ?_, fun _ => answer_eq⟩
  · simp [edge, ← source_eq]
  · cases unended

end Keeps

namespace Follows

variable {s : σ} {r r' : Replay σ} {t : Traversal} {log : List (Option Item)}

/-- A traversal that has got nothing follows its replay. -/
lemma start (s : σ) (r : Replay σ) : Follows s r .start [] where
  told _ _ found := by cases found
  place := .inl ⟨rfl, rfl, Nat.zero_le _⟩

/-- A traversal that is not done has got as many parts as it has passed. -/
lemma of_unended (h : Follows s r t log) (unended : t.done = false) :
    log.length = t.index ∧ t.index ≤ r.buffer.length := by
  rcases h.place with ⟨-, place⟩ | ⟨finished, -⟩
  · exact place
  · rw [unended] at finished
    cases finished

/-- A traversal that is done has got more answers than there are parts. -/
lemma of_finished (h : Follows s r t log) (finished : t.done = true) :
    r.exhausted = true ∧ r.buffer.length < log.length := by
  rcases h.place with ⟨unended, -⟩ | ⟨-, place⟩
  · rw [unended] at finished
    cases finished
  · exact place

/-- A traversal that has seen all parts is at the end of the buffer. -/
lemma length_of_beyond (h : Follows s r t log) (unended : t.done = false)
    (beyond : r.buffer.length ≤ t.index) : log.length = r.buffer.length := by
  obtain ⟨length, inside⟩ := h.of_unended unended
  omega

/-- A traversal follows a replay that has grown. -/
lemma grow (h : Follows s r t log) (grows : r.Grows r') : Follows s r' t log where
  told := h.told
  place := by
    rcases h.place with ⟨unended, length, inside⟩ | ⟨finished, exhausted, beyond⟩
    · exact .inl ⟨unended, length, inside.trans grows.length_le⟩
    · rw [grows.eq_of_exhausted exhausted]
      exact .inr ⟨finished, exhausted, beyond⟩

/-- A log with one answer more is told, if that answer is. -/
lemma told_concat (h : Follows s r t log) {answer : Option Item}
    (next : answer = Source.told s log.length) (k : Nat) (other : Option Item)
    (found : (log ++ [answer])[k]? = some other) : other = Source.told s k := by
  rcases Nat.lt_trichotomy k log.length with before | rfl | after
  · rw [List.getElem?_append_left before] at found
    exact h.told k other found
  · rw [List.getElem?_concat_length] at found
    rw [← Option.some.inj found, next]
  · rw [List.getElem?_eq_none (by simpa using after)] at found
    cases found

end Follows

namespace Nexts

variable {s : σ} {r r' : Replay σ} {t t' : Traversal} {log : List (Option Item)}
  {answer : Option Item}

/-- A request lets a replay grow. -/
lemma grows (step : Nexts r t answer r' t') : r.Grows r' := by
  cases step with
  | finished _ => exact ⟨le_rfl, fun _ => rfl⟩
  | kept _ _ => exact ⟨le_rfl, fun _ => rfl⟩
  | last _ _ _ => exact ⟨le_rfl, fun _ => rfl⟩
  | part _ _ asking _ =>
    refine ⟨by simp, fun exhausted => ?_⟩
    rw [asking] at exhausted
    cases exhausted
  | noPart _ _ asking _ _ =>
    refine ⟨le_rfl, fun exhausted => ?_⟩
    rw [asking] at exhausted
    cases exhausted

/-- A request lets a replay keep what its source tells. -/
lemma keeps (step : Nexts r t answer r' t') (h : r.Keeps s) : r'.Keeps s := by
  cases step with
  | finished _ => exact h
  | kept _ _ => exact h
  | last _ _ _ => exact h
  | part _ _ asking answered => exact h.push asking answered
  | noPart _ _ asking _ answered => exact h.stop asking answered

/-- A request is answered as the source tells. -/
lemma answer_eq (step : Nexts r t answer r' t') (h : r.Keeps s) (follows : Follows s r t log) :
    answer = Source.told s log.length := by
  cases step with
  | finished finished =>
    obtain ⟨exhausted, beyond⟩ := follows.of_finished finished
    exact (h.told_of_lt exhausted beyond).symm
  | kept unended found =>
    rw [(follows.of_unended unended).1]
    exact (h.told_of_getElem? found).symm
  | last unended beyond stopped =>
    rw [follows.length_of_beyond unended beyond, h.told_length, h.ended (h.exhausted_of stopped)]
  | part unended beyond asking answered =>
    rw [h.next_source asking] at answered
    rw [follows.length_of_beyond unended beyond, h.told_length, (Prod.mk.inj answered).1]
  | noPart unended beyond asking _ answered =>
    rw [h.next_source asking] at answered
    rw [follows.length_of_beyond unended beyond, h.told_length, (Prod.mk.inj answered).1]

/-- A traversal whose request has been answered follows. -/
lemma follows (step : Nexts r t answer r' t') (h : r.Keeps s) (follows : Follows s r t log) :
    Follows s r' t' (log ++ [answer]) := by
  refine ⟨follows.told_concat (step.answer_eq h follows), ?_⟩
  rw [List.length_append, List.length_singleton]
  cases step with
  | finished finished =>
    obtain ⟨exhausted, beyond⟩ := follows.of_finished finished
    exact .inr ⟨finished, exhausted, by omega⟩
  | kept unended found =>
    have inside := (List.getElem?_eq_some_iff.mp found).1
    obtain ⟨length, -⟩ := follows.of_unended unended
    exact .inl ⟨unended, by simp [length], inside⟩
  | last unended beyond stopped =>
    have length := follows.length_of_beyond unended beyond
    exact .inr ⟨rfl, h.exhausted_of stopped, by omega⟩
  | part unended beyond asking answered =>
    obtain ⟨length, inside⟩ := follows.of_unended unended
    exact .inl ⟨unended, by simp [length], by simpa using inside⟩
  | noPart unended beyond asking _ answered =>
    have length := follows.length_of_beyond unended beyond
    exact .inr ⟨rfl, rfl, by simp [length]⟩

/-- The source is asked for an answer that no traversal has got, and once only. -/
lemma pulls (step : Nexts r t answer r' t') (follows : Follows s r t log) :
    r' = r ∨ r'.pulls = r.pulls + 1 ∧ r'.edge = r.edge + 1 ∧ r.edge = log.length := by
  cases step with
  | finished _ => exact .inl rfl
  | kept _ _ => exact .inl rfl
  | last _ _ _ => exact .inl rfl
  | part unended beyond asking _ =>
    have length := follows.length_of_beyond unended beyond
    exact .inr ⟨rfl, by simp [edge, asking], by simp [edge, asking, length]⟩
  | noPart unended beyond asking _ _ =>
    have length := follows.length_of_beyond unended beyond
    exact .inr ⟨rfl, by simp [edge, asking], by simp [edge, asking, length]⟩

end Nexts

end Replay

end Formula
