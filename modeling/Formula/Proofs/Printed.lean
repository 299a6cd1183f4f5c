import Formula.Proofs.Lexing.Operands
import Formula.Proofs.Library.Alias
import Formula.Proofs.Number.Printing
import Formula.Proofs.Number.Unpacked
import Formula.Proofs.Respacing
import Formula.Proofs.Term

/-!
# Printed numbers

A finite number evaluates to itself as it is shown (`evaluate_render`). What is shown is a literal, or a minus
sign and a literal; the sign has no operand before it, so it negates the number of the literal.
-/

namespace Formula

namespace Number

/-- The negative of a decimal is nearest to the negative float. -/
lemma Decimal.neg_toFloat (d : Decimal) : -d.toFloat = toFloat ⟨!d.negative, d.digits, d.exponent⟩ :=
  neg_ofMagnitude (decimalBits_le d.exponent)

/-- A finite number is shown as a literal that stands for it, or as a minus sign and a literal of which it is
the negative. -/
lemma Format.exists_literal {x : Float} (finite : IsFinite x) :
    ∃ l : Lexer.Literal, (plain.write x).toList = l.text.toList ∧ l.number = x ∨
      (plain.write x).toList = '-' :: l.text.toList ∧ -l.number = x := by
  obtain ⟨p, text, value, -, positional⟩ := plain.exists_parts finite
  have no_exponent : p.exponent = none := positional fun _ => rfl
  have unsigned : p.unsigned = p.literal.text.toList := by
    rw [Numeral.Parts.unsigned, Numeral.Parts.exponentText, no_exponent, Option.elim_none, List.append_nil]
  have decimal : p.decimal = ⟨p.negative, Numeral.value (p.literal.whole ++ p.literal.fraction),
      -p.literal.fraction.length⟩ := by
    rw [Numeral.Parts.decimal, Numeral.Parts.power, no_exponent]
    exact congrArg _ (Int.zero_sub _)
  rw [decimal] at value
  rw [Numeral.Parts.text, unsigned] at text
  refine ⟨p.literal, ?_⟩
  cases negative : p.negative with
  | false =>
    rw [negative] at text value
    exact .inl ⟨text, value⟩
  | true =>
    rw [negative] at text value
    exact .inr ⟨text, (Decimal.neg_toFloat _).trans value⟩

end Number

namespace Lexer

variable {symbols : List (List Char)} {c : Cursor}

/-- A literal is a single token. -/
lemma Literal.tokens_eq (l : Literal) (whole : c.rest = l.text.toList) :
    (c.tokens symbols).map Token.text = [l.text] := by
  have alone : Spaced [l.text] ([] ++ (l.text.toList ++ [])) := .cons nofun nofun (.nil nofun)
  rw [List.nil_append, List.append_nil] at alone
  exact Cursor.tokens_of_spaced alone (List.forall_mem_singleton.mpr l.isLexeme) whole

/-- A sign before a literal is a token by itself. -/
lemma Literal.tokens_minus (l : Literal) (short : symbols.all (·.length ≤ 1) = true)
    (whole : c.rest = '-' :: l.text.toList) : (c.tokens symbols).map Token.text = ["-", l.text] := by
  have stands : Stands symbols c.rest [] ['-'] l.text.toList :=
    ⟨whole, ⟨'-', [], rfl, by decide⟩, lexemeAt_of_single short (by decide) (by decide)⟩
  rw [Cursor.tokens_of_some (Cursor.next?_of_stands stands (List.forall_mem_nil _)), List.map_cons,
    l.tokens_eq rfl]
  rfl

end Lexer

section Signed

variable {d : Dialect} {token minus : Token} {l : Lexer.Literal}

/-- A literal reads as its number. -/
lemma Reads.literal (text : token.text = l.text) :
    Reads d [token] [] [] [.operand (.number l.number)] := by
  refine .operand ?_
  rw [text, Dialect.operand?, l.parse?_text]

/-- A minus sign before a literal negates its number. -/
lemma Reads.negative (sign : minus.text = "-") (text : token.text = l.text) :
    Reads .math [minus, token] [] [Library.negation]
      [.operand (.number l.number), .operator Library.negation] := by
  have listed : ("-", Library.negation) ∈ Library.aliases := List.mem_of_getElem? (i := 2) rfl
  have negates : Spells .math minus true Library.negation :=
    (⟨"-", Library.negation, listed, rfl⟩ : Alias .unaryPrefix).spells sign
  exact .leading negates (.inl rfl) (.literal text) (List.forall_mem_nil _)

end Signed

/-- A source that reads as a term evaluates as the term does. -/
lemma evaluate_of_fills {source : String} {bindings : Bindings} {x : Float} (t : Term)
    (fills : Fills .math (Lexer.tokens Dialect.math.registry.symbols source) t.postOrder)
    (value : t.eval standardLookup bindings = .ok (.number x)) : evaluate source bindings = .ok x := by
  have lexes : Dialect.math.tokenize = lexWith Dialect.math.registry.symbols := rfl
  rw [evaluate, Dialect.evaluate, Evaluator.evaluate_of_lexes lexes, fills.read,
    Term.evaluateItems_postOrder, value]
  rfl

/-- A finite number that is shown, the negative zero too, evaluates to itself. -/
theorem evaluate_render {x : Float} (finite : Number.IsFinite x) (bindings : Bindings) :
    evaluate (Operand.render (.number x)) bindings = .ok x := by
  obtain ⟨l, ⟨text, rfl⟩ | ⟨text, rfl⟩⟩ := Number.Format.exists_literal finite
  · have texts : (Lexer.tokens Dialect.math.registry.symbols
        (Operand.render (.number l.number))).map Token.text = [l.text] := l.tokens_eq text
    obtain ⟨token, found, same⟩ := List.map_eq_singleton_iff.mp texts
    exact evaluate_of_fills (.operand (.number l.number)) (found ▸ (Reads.literal same).fills) rfl
  · have texts : (Lexer.tokens Dialect.math.registry.symbols
        (Operand.render (.number (-l.number)))).map Token.text = ["-", l.text] :=
      l.tokens_minus Library.length_symbols text
    obtain ⟨minus, rest, found, sign, others⟩ := List.map_eq_cons_iff.mp texts
    obtain ⟨token, rfl, same⟩ := List.map_eq_singleton_iff.mp others
    exact evaluate_of_fills (.unary Library.negation rfl (.operand (.number l.number)))
      (found ▸ (Reads.negative sign same).fills) rfl

/-- The negative zero is shown with its sign, and keeps it. -/
theorem evaluate_render_negativeZero :
    Operand.render (.number (-0)) = "-0" ∧ evaluate "-0" .empty = .ok (-0) := by
  have shown : Operand.render (.number (-0)) = "-0" := by decide +kernel
  have finite : Number.IsFinite (-0) := ⟨true, 0, by decide +kernel⟩
  exact ⟨shown, shown ▸ evaluate_render finite .empty⟩

end Formula
