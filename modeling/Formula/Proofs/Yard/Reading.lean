import Formula.Rpn
import Formula.Proofs.Yard.Shunting

/-!
# What a reading yields

A reading takes a token only when no part is ready. `Rpn.items_ofAnswers` says that it yields all the
same what a yard lets pass that takes the tokens at one go, and last the error if there is one.
-/

namespace Formula

namespace FiniteSource

variable {σ : Type} [FiniteSource σ] {s s' : σ} {item : Item}

/-- The items of a source are its next answer and those after it. -/
lemma items_of_some (h : Source.next s = (some item, s')) : items s = item :: items s' := by
  rw [items]
  split
  · next answered =>
    rw [h] at answered
    cases answered
  · next answered =>
    rw [h] at answered
    cases answered
    rfl

/-- A source that answers nothing has no items. -/
lemma items_of_none (h : Source.next s = (none, s')) : items s = [] := by
  rw [items]
  split
  · rfl
  · next answered =>
    rw [h] at answered
    cases answered

/-- Sources with the same next answer have the same items. -/
lemma items_congr (h : Source.next s = Source.next s') : items s = items s' := by
  cases answered : Source.next s' with
  | mk answer s'' =>
    cases answer with
    | none => rw [items_of_none (h.trans answered), items_of_none answered]
    | some item => rw [items_of_some (h.trans answered), items_of_some answered]

end FiniteSource

/-- The tokens before the first answer that is none. -/
def Answers.tokens : Answers → List Token
  | some token :: rest => token :: Answers.tokens rest
  | _ => []

/-- The tokens that answers give are the tokens. -/
@[simp] lemma Answers.tokens_map_some (tokens : List Token) :
    Answers.tokens (tokens.map some) = tokens := by
  induction tokens with
  | nil => rfl
  | cons token rest ih => rw [List.map_cons, Answers.tokens, ih]

/-- The parts that have passed, and last the error if there is one. -/
def Yard.yielded (outcome : Yard × Option ParseError) : List Item :=
  outcome.1.output.map .ok ++ (outcome.2.map .error).toList

namespace Rpn

variable {r : Rpn}

/-- Where the next answer needs no token, none is taken. -/
lemma fill_of_isReady (ready : r.isReady = true) (answers : Answers) :
    fill answers r = { r with answers } := by
  rcases answers with _ | ⟨_ | token, rest⟩ <;> rw [fill, if_pos ready]

/-- Taking a token does not depend on the answers that are left. -/
lemma take_answers (r : Rpn) (answers : Answers) (token : Token) :
    Rpn.take { r with answers } token = { r.take token with answers } := by
  change settle _ (r.yard.shunt r.dialect token) =
    { settle _ (r.yard.shunt r.dialect token) with answers }
  unfold settle
  split <;> rfl

/-- Closing does not depend on the answers that are left. -/
lemma close_answers (r : Rpn) (answers : Answers) :
    close { r with answers } = { r.close with answers } := by
  change settle _ r.yard.finish = { settle _ r.yard.finish with answers }
  unfold settle
  split <;> rfl

/-- The end leaves a reading with nothing to wait for. -/
lemma isReady_close (r : Rpn) : r.close.isReady = true := by
  unfold close settle
  split <;> simp [isReady]

/-- A request takes tokens until something is ready. -/
lemma isReady_fill (answers : Answers) (r : Rpn) : (fill answers r).isReady = true := by
  induction answers generalizing r with
  | nil =>
    rw [fill]
    split
    · next ready => exact ready
    · exact isReady_close _
  | cons answer rest ih =>
    cases answer with
    | none =>
      rw [fill]
      split
      · next ready => exact ready
      · exact isReady_close _
    | some token =>
      rw [fill]
      split
      · next ready => exact ready
      · exact ih _

/-- A token that is shunted leaves the yard behind it. -/
lemma take_of_shunt {token : Token} {yard : Yard} (h : r.yard.shunt r.dialect token = (yard, none)) :
    r.take token = { r with yard, taken := r.taken + 1 } := by
  rw [take, h]
  rfl

/-- A token that is an error leaves its error to be yielded. -/
lemma take_of_error {token : Token} {yard : Yard} {e : ParseError}
    (h : r.yard.shunt r.dialect token = (yard, some e)) :
    r.take token = { r with yard, error := some e, finished := true, taken := r.taken + 1 } := by
  rw [take, h]
  rfl

/-- What is filled does not depend on the answers that were there before. -/
lemma fill_answers (answers before : Answers) (r : Rpn) :
    fill answers { r with answers := before } = fill answers r := by
  induction answers generalizing r with
  | nil => rfl
  | cons answer rest ih =>
    cases answer with
    | none => rfl
    | some token =>
      rw [fill, fill, take_answers, ih]
      rfl

/-- Parts that have passed are yielded first. -/
lemma items_behind (parts : List Part) (r : Rpn) :
    FiniteSource.items { r with yard := r.yard.behind parts } =
      parts.map .ok ++ FiniteSource.items r := by
  induction parts with
  | nil => rfl
  | cons part parts ih =>
    have yields : Source.next { r with yard := r.yard.behind (part :: parts) } =
        (some (.ok part), { r with yard := r.yard.behind parts }) := by
      change yieldReady (fill _ _) = _
      rw [fill_of_isReady rfl]
      rfl
    rw [FiniteSource.items_of_some yields, ih, List.map_cons, List.cons_append]

/-- A reading that takes no more tokens yields what has passed and the error. -/
lemma items_of_finished (r : Rpn) (finished : r.finished = true) :
    FiniteSource.items r = Yard.yielded (r.yard, r.error) := by
  obtain ⟨d, answers, yard, error, _, taken⟩ := r
  cases finished
  have passed := items_behind yard.output ⟨d, answers, { yard with output := [] }, error, true, taken⟩
  simp only [Yard.behind, List.append_nil] at passed
  rw [passed, Yard.yielded, List.append_cancel_left_eq]
  have ends (error : Option ParseError) :
      Source.next (⟨d, answers, { yard with output := [] }, error, true, taken⟩ : Rpn) =
        (error.map .error, ⟨d, answers, { yard with output := [] }, none, true, taken⟩) := by
    change yieldReady (fill _ _) = _
    rw [fill_of_isReady (by simp [isReady])]
    cases error <;> rfl
  cases error with
  | none => exact FiniteSource.items_of_none (ends none)
  | some e =>
    rw [FiniteSource.items_of_some (ends (some e)), FiniteSource.items_of_none (ends none)]
    rfl

/-- A reading that waits for a token yields what it yields once it has taken it. -/
lemma items_of_token {token : Token} {rest : Answers} (waits : r.isReady = false)
    (h : r.answers = some token :: rest) :
    FiniteSource.items r = FiniteSource.items { r.take token with answers := rest } := by
  refine FiniteSource.items_congr ?_
  change yieldReady (fill r.answers r) = yieldReady (fill rest { r.take token with answers := rest })
  rw [h, fill, if_neg (by simp [waits])]
  exact congrArg yieldReady (fill_answers rest rest _).symm

/-- The end of a reading yields what passes then. -/
lemma items_of_close (r : Rpn) (answers : Answers) (waits : r.isReady = false) :
    FiniteSource.items { r.close with answers } = Yard.yielded r.yard.finish := by
  have no_error : r.error = none := by simp_all [isReady]
  unfold close settle
  cases r.yard.finish with
  | mk yard error =>
    cases error with
    | none =>
      rw [items_of_finished _ rfl]
      simp only [no_error]
    | some e => rw [items_of_finished _ rfl]

/-- A reading that waits where no token is left yields what the end lets pass. -/
lemma items_of_end (rest : Answers) (waits : r.isReady = false)
    (h : r.answers = [] ∧ rest = [] ∨ r.answers = none :: rest) :
    FiniteSource.items r = Yard.yielded r.yard.finish := by
  rw [← items_of_close r rest waits]
  refine FiniteSource.items_congr ?_
  have ready : isReady { r.close with answers := rest } = true := isReady_close r
  change yieldReady (fill r.answers r) = yieldReady (fill rest { r.close with answers := rest })
  rw [fill_of_isReady ready]
  -- the end is the same whether the answers are cut before it or after it
  rcases h with ⟨left, rfl⟩ | left
  · rw [left, fill, if_neg (by simp [waits]), close_answers]
  · rw [left, fill, if_neg (by simp [waits]), close_answers]

/-- What a reading yields is right if it is right without the parts that have passed already. -/
lemma items_of_output {tokens : List Token}
    (h : FiniteSource.items { r with yard := { r.yard with output := [] } } =
      Yard.yielded (Yard.parse r.dialect { r.yard with output := [] } tokens)) :
    FiniteSource.items r = Yard.yielded (r.yard.parse r.dialect tokens) := by
  have same : { r.yard with output := [] }.behind r.yard.output = r.yard := by simp [Yard.behind]
  have items := items_behind r.yard.output { r with yard := { r.yard with output := [] } }
  have parsed := Yard.parse_behind r.yard.output { r.yard with output := [] } r.dialect tokens
  simp only [same] at items parsed
  rw [items, parsed, h]
  simp [Yard.yielded, Yard.behind]

/-- A reading that has not ended yields what its yard will let pass, then the error. -/
lemma items_of_reading (answers : Answers) (r : Rpn) (h : r.answers = answers)
    (no_error : r.error = none) (unfinished : r.finished = false) :
    FiniteSource.items r = Yard.yielded (r.yard.parse r.dialect answers.tokens) := by
  induction answers generalizing r with
  | nil =>
    refine items_of_output (items_of_end [] ?_ (.inl ⟨h, rfl⟩))
    simp [isReady, no_error, unfinished]
  | cons answer rest ih =>
    -- a reading with parts ready takes no token, so those that have passed are set aside first
    refine items_of_output ?_
    have waits : isReady { r with yard := { r.yard with output := [] } } = false := by
      simp [isReady, no_error, unfinished]
    cases answer with
    | none => exact items_of_end rest waits (.inr h)
    | some token =>
      rw [items_of_token waits h, Answers.tokens]
      rcases shunted : Yard.shunt r.dialect { r.yard with output := [] } token with ⟨yard, _ | e⟩
      · rw [take_of_shunt shunted, Yard.parse, Yard.shuntAll_cons_eq, shunted]
        exact ih _ rfl no_error unfinished
      · rw [take_of_error shunted, Yard.parse, Yard.shuntAll_cons_eq, shunted]
        exact items_of_finished _ rfl

/-- A reading yields what a yard lets pass that takes all tokens at one go. -/
lemma items_ofAnswers (d : Dialect) (answers : Answers) :
    FiniteSource.items (ofAnswers d answers) = Yard.yielded (Yard.empty.parse d answers.tokens) :=
  items_of_reading _ _ rfl rfl rfl

end Rpn

end Formula
