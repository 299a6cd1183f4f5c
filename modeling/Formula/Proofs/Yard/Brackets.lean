import Formula.Lexer.Cursor
import Mathlib.Data.List.Infix
import Mathlib.Tactic.Lemma

/-!
# Matching parentheses

Which parentheses of a sequence of tokens have a partner, told by counting: an open one is closed by the
first token after it up to which more have been closed than opened. `Token.Leaves` follows the parentheses
that are open so far, one token after another, and `Leaves.exists_last` finds the last of them.
-/

namespace Formula.Token

/-- How often a text occurs among tokens. -/
def count (text : String) (tokens : List Token) : Nat := (tokens.map Token.text).count text

/-- Tokens that close nothing before them. -/
def Inward (tokens : List Token) : Prop :=
  ∀ part, part <+: tokens → count ")" part ≤ count "(" part

/-- A closing parenthesis after which more have been closed than opened. -/
def Unopened (before : List Token) (token : Token) : Prop :=
  token.text = ")" ∧ count "(" (before ++ [token]) < count ")" (before ++ [token])

/-- An open parenthesis that none of the tokens after it closes. -/
def Unclosed (token : Token) (after : List Token) : Prop := token.text = "(" ∧ Inward after

structure LastUnclosed (token : Token) (after : List Token) : Prop where
  unclosed : Unclosed token after
  last : ∀ between other rest, after = between ++ other :: rest → ¬ Unclosed other rest

/-- Tokens that close what they open and nothing else. -/
structure Matched (tokens : List Token) : Prop where
  inward : Inward tokens
  closed : count "(" tokens ≤ count ")" tokens

/-- Tokens that leave the parentheses at these places open, the last one first. -/
inductive Leaves : List Token → List Span → Prop where
  | matched {tokens} :
    Matched tokens →
    Leaves tokens []
  | opened {before spans token between} :
    Leaves before spans →
    token.text = "(" →
    Matched between →
    Leaves (before ++ token :: between) (token.span :: spans)

/-- No token means no text. -/
@[simp] lemma count_nil (text : String) : count text [] = 0 := rfl

/-- A text occurs in two sequences as often as in both. -/
@[simp] lemma count_append (text : String) (tokens more : List Token) :
    count text (tokens ++ more) = count text tokens + count text more := by
  simp [count]

/-- The first token counts where it has the text. -/
@[simp] lemma count_cons (text : String) (token : Token) (tokens : List Token) :
    count text (token :: tokens) = count text tokens + if token.text = text then 1 else 0 := by
  simp [count, List.count_cons]

variable {tokens more before between after : List Token} {token other : Token} {span : Span}
  {spans : List Span}

namespace Inward

/-- Without tokens nothing is closed. -/
lemma nil : Inward [] := by
  intro part within
  rw [List.prefix_nil.mp within]
  exact Nat.le_refl _

/-- What closes nothing before it closes no more than it opens. -/
lemma count_le (h : Inward tokens) : count ")" tokens ≤ count "(" tokens := h tokens List.prefix_rfl

/-- Two sequences that close nothing before them do so one after the other. -/
lemma append (h : Inward tokens) (h' : Inward more) : Inward (tokens ++ more) := by
  rintro part ⟨rest, same⟩
  rcases List.append_eq_append_iff.mp same with ⟨left, rfl, -⟩ | ⟨right, rfl, rfl⟩
  · exact h part ⟨left, rfl⟩
  · have first := h.count_le
    have second := h' right ⟨rest, rfl⟩
    simp only [count_append]
    omega

/-- A token may follow what closes nothing before it, and may close what is open there. -/
lemma concat (h : Inward tokens)
    (closes : token.text = ")" → count ")" tokens < count "(" tokens) : Inward (tokens ++ [token]) := by
  intro part within
  rcases List.prefix_concat_iff.mp within with rfl | within
  · have counted := h.count_le
    by_cases same : token.text = ")"
    · have strictly := closes same
      simp [same]
      omega
    · simp [same]
      omega
  · exact h part within

end Inward

namespace Matched

/-- Without tokens nothing is left open. -/
lemma nil : Matched [] := ⟨.nil, Nat.le_refl _⟩

/-- Where everything is closed, as many parentheses are closed as are opened. -/
lemma count_eq (h : Matched tokens) : count "(" tokens = count ")" tokens :=
  Nat.le_antisymm h.closed h.inward.count_le

/-- A token that is no parenthesis leaves everything closed. -/
lemma concat (h : Matched tokens) (no_paren : token.text ≠ "(" ∧ token.text ≠ ")") :
    Matched (tokens ++ [token]) where
  inward := h.inward.concat fun closes => absurd closes no_paren.2
  closed := by simpa [no_paren] using h.closed

/-- What stands in parentheses closes nothing outside them. -/
lemma enclose (h : Matched before) (opens : token.text = "(") (h' : Matched between)
    (closes : other.text = ")") : Matched (before ++ token :: between ++ [other]) where
  inward := by
    have opening : Inward [token] := Inward.nil.concat fun same => by simp [opens] at same
    refine (h.inward.append (opening.append h'.inward)).concat ?_
    intro _
    simp [h.count_eq, h'.count_eq, opens]
  closed := by
    simp [h.count_eq, h'.count_eq, opens, closes]

end Matched

/-- Two places in a list are the same, or one comes before the other. -/
lemma place_cases {before' after' : List Token}
    (h : before ++ token :: after = before' ++ other :: after') :
    (before = before' ∧ token = other ∧ after = after') ∨
      (∃ between, before' = before ++ token :: between ∧ after = between ++ other :: after') ∨
      ∃ between, before = before' ++ other :: between ∧ after' = between ++ token :: after := by
  rcases List.append_eq_append_iff.mp h with ⟨_ | ⟨first, between⟩, rfl, same⟩ |
    ⟨_ | ⟨first, between⟩, rfl, same⟩
  · cases same
    exact .inl ⟨(List.append_nil _).symm, rfl, rfl⟩
  · cases same
    exact .inr (.inl ⟨between, rfl, rfl⟩)
  · cases same
    exact .inl ⟨List.append_nil _, rfl, rfl⟩
  · cases same
    exact .inr (.inr ⟨between, rfl, rfl⟩)

/-- There is only one last parenthesis that is left open. -/
lemma LastUnclosed.unique {before' after' : List Token} (h : LastUnclosed token after)
    (h' : LastUnclosed other after') (same : before ++ token :: after = before' ++ other :: after') :
    token = other := by
  rcases place_cases same with ⟨-, same, -⟩ | ⟨between, -, later⟩ | ⟨between, -, later⟩
  · exact same
  · exact absurd h'.unclosed (h.last between other after' later)
  · exact absurd h.unclosed (h'.last between token after later)

namespace Leaves

/-- A token that is no parenthesis leaves the same ones open. -/
lemma concat (h : Leaves tokens spans) (no_paren : token.text ≠ "(" ∧ token.text ≠ ")") :
    Leaves (tokens ++ [token]) spans := by
  cases h with
  | matched matched => exact .matched (matched.concat no_paren)
  | opened outer opens matched =>
    rw [List.append_assoc, List.cons_append]
    exact .opened outer opens (matched.concat no_paren)

/-- An open parenthesis comes to those that are left open. -/
lemma opening (h : Leaves tokens spans) (opens : token.text = "(") :
    Leaves (tokens ++ [token]) (token.span :: spans) :=
  .opened h opens .nil

/-- A closing parenthesis closes the last one that is open. -/
lemma closing (h : Leaves tokens (span :: spans)) (closes : token.text = ")") :
    Leaves (tokens ++ [token]) spans := by
  cases h with
  | opened outer opens matched =>
    cases outer with
    | matched before => exact .matched (before.enclose opens matched closes)
    | opened outer opens' before =>
      have enclosed := before.enclose opens matched closes
      simpa using Leaves.opened outer opens' enclosed

/-- As many more parentheses are opened than closed as are left open. -/
lemma count_eq (h : Leaves tokens spans) : count "(" tokens = count ")" tokens + spans.length := by
  induction h with
  | matched matched => exact matched.count_eq
  | opened _ opens matched ih =>
    simp [ih, matched.count_eq, opens]
    omega

/-- The first of the places is that of the last parenthesis that is left open. -/
lemma exists_last (h : Leaves tokens (span :: spans)) :
    ∃ before token after, tokens = before ++ token :: after ∧ token.span = span ∧
      LastUnclosed token after := by
  cases h with
  | @opened before _ token after outer opens matched =>
    refine ⟨before, token, after, rfl, rfl, ⟨opens, matched.inward⟩, ?_⟩
    rintro between other rest rfl ⟨opens', inward⟩
    -- the other one would be opened, and nothing that comes later makes up for it
    have balance := matched.closed
    have earlier := matched.inward between ⟨_, rfl⟩
    have later := inward.count_le
    simp [opens'] at balance
    omega

end Leaves

end Formula.Token
