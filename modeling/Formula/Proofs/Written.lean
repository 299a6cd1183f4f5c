import Formula.Calculator
import Formula.Proofs.Phrase
import Formula.Proofs.Term

/-!
# Expressions as they are written

A written expression is a term with the tokens that spell it: parentheses, operators before, after and
between operands, and calls. It conforms to the precedences of its operators when each of them lets pass
what has to pass before it and waits for what has to come first. `read_eq_postOrder` says that an
expression that conforms, and whose tokens mean what it says, is read as the post-order of its term.
-/

namespace Formula

/-- A token with the operator that it is meant to spell, which stands in this place. -/
structure Sign (fixity : Fixity) where
  token : Token
  operator : Operator
  placed : operator.fixity = fixity

/-- An operator with the token for it. -/
def Operator.sign (op : Operator) (token : Token) : Sign op.fixity := ⟨token, op, rfl⟩

/-- A sign takes as many operands as its fixity says. -/
lemma Sign.arity {fixity : Fixity} (s : Sign fixity) : s.operator.arity = fixity.arity :=
  congrArg Fixity.arity s.placed

/-- An expression with the tokens that spell it. -/
inductive Written where
  /-- An operand. -/
  | operand (token : Token) (value : Operand)
  /-- An expression in parentheses. -/
  | group (opening closing : Span) (inner : Written)
  /-- A function with its operand in parentheses. -/
  | call (sign : Sign .function) (opening closing : Span) (inner : Written)
  /-- An operator before its operand. -/
  | leading (sign : Sign .unaryPrefix) (inner : Written)
  /-- A function before a bare operand. -/
  | bareCall (sign : Sign .function) (inner : Written)
  /-- An operator after its operand. -/
  | trailing (inner : Written) (sign : Sign .unaryPostfix)
  /-- An operator between its operands. -/
  | between (left : Written) (sign : Sign .binary) (right : Written)
  /-- An operator before its two operands in parentheses. -/
  | binaryCall (sign : Sign .binary) (opening separator closing : Span) (left right : Written)

namespace Written

/-- The tokens of an expression. -/
def tokens : Written → List Token
  | .operand token _ => [token]
  | .group opening closing inner => Token.enclose opening closing inner.tokens
  | .call sign opening closing inner => sign.token :: Token.enclose opening closing inner.tokens
  | .leading sign inner => sign.token :: inner.tokens
  | .bareCall sign inner => sign.token :: inner.tokens
  | .trailing inner sign => inner.tokens ++ [sign.token]
  | .between left sign right => left.tokens ++ sign.token :: right.tokens
  | .binaryCall sign opening separator closing left right =>
    sign.token :: Token.enclose opening closing (left.tokens ++ ⟨",", separator⟩ :: right.tokens)

/-- The term that an expression stands for. -/
def term : Written → Term
  | .operand _ value => .operand value
  | .group _ _ inner => inner.term
  | .call sign _ _ inner => .unary sign.operator sign.arity inner.term
  | .leading sign inner => .unary sign.operator sign.arity inner.term
  | .bareCall sign inner => .unary sign.operator sign.arity inner.term
  | .trailing inner sign => .unary sign.operator sign.arity inner.term
  | .between left sign right => .binary sign.operator sign.arity left.term right.term
  | .binaryCall sign _ _ _ left right => .binary sign.operator sign.arity left.term right.term

/-- The operators that still wait at the right edge of an expression, the outermost first. -/
def pending : Written → List Operator
  | .leading sign inner => sign.operator :: inner.pending
  | .bareCall sign inner => sign.operator :: inner.pending
  | .between _ sign right => sign.operator :: right.pending
  | .binaryCall sign _ _ _ _ _ => [sign.operator]
  | _ => []

/-- The operators between operands that come at the left edge of an expression. -/
def exposed : Written → List Operator
  | .between left sign _ => left.exposed ++ [sign.operator]
  | .binaryCall sign _ _ _ _ _ => [sign.operator]
  | _ => []

/-- At every node, the operators meet others only in the order that their precedences ask for. -/
def Conforms : Written → Prop
  | .operand _ _ => True
  | .group _ _ inner => inner.Conforms
  | .call _ _ _ inner => inner.Conforms
  | .leading sign inner => inner.Conforms ∧ ∀ o ∈ inner.exposed, sign.operator.precedes o = false
  | .bareCall sign inner => inner.Conforms ∧ ∀ o ∈ inner.exposed, sign.operator.precedes o = false
  | .trailing inner _ => inner.Conforms ∧ inner.pending = []
  | .between left sign right =>
    left.Conforms ∧ right.Conforms ∧ (∀ o ∈ left.pending, o.precedes sign.operator = true) ∧
      ∀ o ∈ right.exposed, sign.operator.precedes o = false
  | .binaryCall _ _ _ _ left right => left.Conforms ∧ right.Conforms

/-- The tokens of an expression mean in their places what it says. -/
def Means (d : Dialect) : Written → Prop
  | .operand token value => d.operand? token.text = some value
  | .group _ _ inner => d.Parenthesizes ∧ inner.Means d
  | .call sign _ _ inner =>
    Spells d sign.token true sign.operator ∧ d.Parenthesizes ∧ inner.Means d
  | .leading sign inner => Spells d sign.token true sign.operator ∧ inner.Means d
  | .bareCall sign inner =>
    Spells d sign.token true sign.operator ∧ ¬ Token.Opens inner.tokens ∧ inner.Means d
  | .trailing inner sign => Spells d sign.token false sign.operator ∧ inner.Means d
  | .between left sign right =>
    Spells d sign.token false sign.operator ∧ left.Means d ∧ right.Means d
  | .binaryCall sign _ _ _ left right =>
    Spells d sign.token true sign.operator ∧ d.Parenthesizes ∧ d.operand? "," = none ∧
      left.Means d ∧ right.Means d

/-- Where nothing is pending, nothing is exposed. -/
lemma exposed_of_pending {e : Written} (h : e.pending = []) : e.exposed = [] := by
  cases e with
  | between left sign right => cases h
  | binaryCall sign opening separator closing left right => cases h
  | _ => rfl

/-- An expression that conforms is a phrase for its post-order. -/
lemma reads {d : Dialect} {e : Written} (means : e.Means d) (conforms : e.Conforms) :
    Reads d e.tokens e.exposed e.pending e.term.postOrder := by
  induction e with
  | operand token value => exact .operand means
  | group opening closing inner ih =>
    obtain ⟨parens, means⟩ := means
    exact .group (ih means conforms).fills parens opening closing
  | call sign opening closing inner ih =>
    obtain ⟨spells, parens, means⟩ := means
    exact .call spells sign.placed (ih means conforms).fills parens opening closing
  | leading sign inner ih =>
    obtain ⟨spells, means⟩ := means
    obtain ⟨conforms, waits⟩ := conforms
    exact .leading spells (.inl sign.placed) (ih means conforms) waits
  | bareCall sign inner ih =>
    obtain ⟨spells, apart, means⟩ := means
    obtain ⟨conforms, waits⟩ := conforms
    exact .leading spells (.inr ⟨sign.placed, apart⟩) (ih means conforms) waits
  | trailing inner sign ih =>
    obtain ⟨spells, means⟩ := means
    obtain ⟨conforms, complete⟩ := conforms
    have inner_reads := ih means conforms
    rw [complete, exposed_of_pending complete] at inner_reads
    exact inner_reads.trailing spells sign.placed
  | between left sign right ihl ihr =>
    obtain ⟨spells, left_means, right_means⟩ := means
    obtain ⟨left_conforms, right_conforms, passes, waits⟩ := conforms
    exact (ihl left_means left_conforms).between spells sign.placed
      (ihr right_means right_conforms) passes waits
  | binaryCall sign opening separator closing left right ihl ihr =>
    obtain ⟨spells, parens, separates, left_means, right_means⟩ := means
    obtain ⟨left_conforms, right_conforms⟩ := conforms
    have filled := (ihl left_means left_conforms).fills.append separates
      (ihr right_means right_conforms).fills separator
    exact .binaryCall spells sign.placed filled parens opening closing

/-- An expression that conforms to the precedences of its operators, and whose tokens mean what it says,
is read without an error as the post-order of its term. -/
theorem read_eq_postOrder (d : Dialect) (e : Written) (means : e.Means d) (conforms : e.Conforms) :
    d.read e.tokens = e.term.postOrder.map .ok :=
  (reads means conforms).fills.read

/-- The expression `√ - :x ^ :y * max ( :a , :b ! )`. -/
def rootTimesMaximum : Written :=
  .between
    (.bareCall (Library.squareRoot.sign ⟨"√", ⟨0, 3⟩⟩)
      (.leading (Library.negation.sign ⟨"-", ⟨4, 5⟩⟩)
        (.between (.operand ⟨":x", ⟨6, 8⟩⟩ (.variable ":x"))
          (Library.power.sign ⟨"^", ⟨9, 10⟩⟩)
          (.operand ⟨":y", ⟨11, 13⟩⟩ (.variable ":y")))))
    (Library.multiplication.sign ⟨"*", ⟨14, 15⟩⟩)
    (.binaryCall (Library.maximum.sign ⟨"max", ⟨16, 19⟩⟩) ⟨20, 21⟩ ⟨25, 26⟩ ⟨32, 33⟩
      (.operand ⟨":a", ⟨22, 24⟩⟩ (.variable ":a"))
      (.trailing (.operand ⟨":b", ⟨27, 29⟩⟩ (.variable ":b"))
        (Library.factorial.sign ⟨"!", ⟨30, 31⟩⟩)))

/-- A root over a negated power is read in post-order, and so is a maximum that it is multiplied by. -/
theorem read_rootTimesMaximum :
    rootTimesMaximum.Means .math ∧ rootTimesMaximum.Conforms ∧
      Dialect.math.read rootTimesMaximum.tokens =
        [.ok (.operand (.variable ":x")), .ok (.operand (.variable ":y")),
          .ok (.operator Library.power), .ok (.operator Library.negation),
          .ok (.operator Library.squareRoot), .ok (.operand (.variable ":a")),
          .ok (.operand (.variable ":b")), .ok (.operator Library.factorial),
          .ok (.operator Library.maximum), .ok (.operator Library.multiplication)] := by
  have means : rootTimesMaximum.Means .math := by
    refine ⟨⟨rfl, by decide, rfl⟩, ⟨⟨rfl, by decide, rfl⟩, ?_, ⟨rfl, by decide, rfl⟩,
      ⟨rfl, by decide, rfl⟩, rfl, rfl⟩, ⟨rfl, by decide, rfl⟩, ⟨rfl, rfl⟩, rfl, rfl,
      ⟨rfl, by decide, rfl⟩, rfl⟩
    rintro ⟨token, rest, same, opens⟩
    cases same
    revert opens
    decide
  have conforms : rootTimesMaximum.Conforms := by
    simp [rootTimesMaximum, Conforms, pending, exposed, Operator.sign, Operator.precedes,
      Library.squareRoot, Library.negation, Library.power, Library.multiplication, Library.maximum,
      Operator.unary, Operator.binary]
  exact ⟨means, conforms, read_eq_postOrder .math rootTimesMaximum means conforms⟩

end Written

end Formula
