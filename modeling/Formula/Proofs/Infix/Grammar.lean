import Formula.Proofs.Phrase
import Mathlib.Data.List.Chain

/-!
# A grammar of infix expressions

An expression is operands with operators between them. An operand may have operators before it and after
it, may be an expression in parentheses, and may be a call, where an operator that stands between operands
comes before them. A vocabulary says which words stand for what; precedences play no part in the grammar.
-/

namespace Formula

/-- The kinds of phrases. -/
inductive Category where
  /-- An operand, a group or a call, and the operators after it. -/
  | closed
  /-- A closed phrase and the operators before it. -/
  | unary
  /-- Unary phrases and the operators between them. -/
  | expression

/-- What words stand for, each in its place. -/
structure Vocabulary where
  operand : String → Operand → Prop
  leading : String → Operator → Prop
  trailing : String → Operator → Prop
  between : String → Operator → Prop
  /-- Operators between operands that may be called. -/
  called : String → Operator → Prop

namespace Vocabulary

/-- The words of a phrase, and what they stand for from left to right. Parentheses and commas stand for
nothing, and an operator that is called counts as if it stood between its operands. -/
inductive Derives (v : Vocabulary) : Category → List String → List Part → Prop where
  | operand {word o} :
    v.operand word o →
    Derives v .closed [word] [.operand o]
  | group {words parts} :
    Derives v .expression words parts →
    Derives v .closed ("(" :: words ++ [")"]) parts
  | call {word op left right parts parts'} :
    v.called word op →
    Derives v .expression left parts →
    Derives v .expression right parts' →
    Derives v .closed (word :: ("(" :: (left ++ "," :: right) ++ [")"]))
      (parts ++ .operator op :: parts')
  | trailing {words word op parts} :
    Derives v .closed words parts →
    v.trailing word op →
    Derives v .closed (words ++ [word]) (parts ++ [.operator op])
  | closed {words parts} :
    Derives v .closed words parts →
    Derives v .unary words parts
  | leading {word op words parts} :
    v.leading word op →
    Derives v .unary words parts →
    Derives v .unary (word :: words) (.operator op :: parts)
  | unary {words parts} :
    Derives v .unary words parts →
    Derives v .expression words parts
  | between {words word op more parts parts'} :
    Derives v .expression words parts →
    v.between word op →
    Derives v .unary more parts' →
    Derives v .expression (words ++ word :: more) (parts ++ .operator op :: parts')

/-- In a dialect, words stand for what a vocabulary says. -/
structure Fits (v : Vocabulary) (d : Dialect) : Prop where
  parens : d.Parenthesizes
  operand : ∀ {word o}, v.operand word o → d.operand? word = some o
  leading : ∀ {token : Token} {op}, v.leading token.text op →
    Spells d token true op ∧ op.fixity.precedesOperand = true
  trailing : ∀ {token : Token} {op}, v.trailing token.text op →
    Spells d token false op ∧ op.fixity = .unaryPostfix
  between : ∀ {token : Token} {op}, v.between token.text op →
    Spells d token false op ∧ op.fixity = .binary
  called : ∀ {token : Token} {op}, v.called token.text op →
    Spells d token true op ∧ op.fixity = .binary ∧ d.operand? "," = none

/-- An operator on the first word waits when an operator is called on the second. -/
def Bides (v : Vocabulary) (first second : String) : Prop :=
  ∀ o op, v.leading first o ∨ v.between first o → v.called second op → o.precedes op = false

/-- No operator that waits is let pass by a call before its operand has come: not what lies on top when the
first word comes, and not what the words themselves spell. -/
structure Timely (v : Vocabulary) (waiting : List Operator) (words : List String) : Prop where
  starts : ∀ word ∈ words.head?, ∀ op, v.called word op →
    ∀ top ∈ waiting.head?, top.precedes op = false
  follows : words.IsChain v.Bides

namespace Timely

variable {v : Vocabulary} {waiting : List Operator} {words more : List String} {word : String}
  {op : Operator}

/-- Words that come in time do so without what comes after them. -/
lemma left (h : v.Timely waiting (words ++ more)) : v.Timely waiting words where
  starts first begins := by
    apply h.starts first
    cases words with
    | nil => cases begins
    | cons other rest => exact begins
  follows := (List.isChain_append.mp h.follows).1

/-- No part of words that come in time calls an operator too early. -/
lemma part (h : v.Timely waiting words) (within : more <:+: words) : more.IsChain v.Bides :=
  List.IsChain.infix h.follows within

/-- Where nothing waits, only what the words spell counts. -/
lemma of_isChain (h : words.IsChain v.Bides) : v.Timely [] words where
  starts _ _ _ _ _ nothing := by cases nothing
  follows := h

/-- An operator waits on top for what comes after it. -/
lemma after (h : (word :: more).IsChain v.Bides) (spelled : v.leading word op ∨ v.between word op)
    (below : List Operator) : v.Timely (op :: below) more := by
  cases more with
  | nil => exact ⟨nofun, .nil⟩
  | cons next rest =>
    obtain ⟨bides, others⟩ := List.isChain_cons_cons.mp h
    refine ⟨?_, others⟩
    rintro _ ⟨⟩ called calls _ ⟨⟩
    exact bides op called spelled calls

end Timely

end Vocabulary

end Formula
