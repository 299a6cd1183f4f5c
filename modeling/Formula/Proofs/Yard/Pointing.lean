import Formula.Calculator
import Formula.Proofs.Lexing.Partition
import Formula.Proofs.Outcome
import Formula.Proofs.Yard.Rejection

/-!
# Errors point at what they tell of

An open parenthesis keeps its place while it waits on the stack, and every token keeps the place where it
was found. So the place of a parse error, however late it is found out, is that of the text it tells of:
`Yard.Marks.shunt` says so of one token, `Yard.pointsAt_of_parse` of all of them and their end.
-/

namespace Formula

/-- The place of an error is that of the text it tells of. -/
def ParseError.PointsAt (source : List Char) : ParseError → Prop
  | .unknownToken token span => span.slice? source = some token.toList
  | .unknownFunction name span => span.slice? source = some name.toList
  | .mismatchedParentheses span => span.slice? source = some ['('] ∨ span.slice? source = some [')']

/-- The places of a move are those of parentheses, or of what an error tells of. -/
def Move.PointsAt (source : List Char) : Move → Prop
  | .opening span => span.slice? source = some ['(']
  | .closing span => span.slice? source = some [')']
  | .unknown e => e.PointsAt source
  | _ => True

/-- An empty span points at nothing. -/
lemma ParseError.PointsAt.ne_default {source : List Char} {e : ParseError} (h : e.PointsAt source) :
    e ≠ .mismatchedParentheses default := by
  rintro rfl
  have nothing : Span.slice? default source = some [] := Span.slice?_append [] [] source
  rcases h with opens | closes
  · rw [nothing] at opens
    cases opens
  · rw [nothing] at closes
    cases closes

/-- The move of a token points at the token. -/
lemma Dialect.pointsAt_move {source : List Char} {token : Token}
    (piece : token.span.slice? source = some token.text.toList) (d : Dialect) (operandExpected : Bool) :
    (d.move token operandExpected).PointsAt source := by
  unfold Dialect.move
  split
  · trivial
  · split
    · next opens =>
      rw [opens] at piece
      exact piece
    · split
      · next closes =>
        rw [closes] at piece
        exact piece
      · split
        · trivial
        · split
          · trivial
          · unfold Yard.unknown
            split
            · exact piece
            · exact piece

namespace Yard

variable {source : List Char} {y : Yard} {tokens : List Token} {d : Dialect}

/-- The places of the open parentheses on the stack are those of open parentheses in the source text. -/
def Marks (source : List Char) (y : Yard) : Prop :=
  ∀ span ∈ opened y.stack, span.slice? source = some ['(']

/-- Closing a group opens no parenthesis. -/
lemma opened_closeTop_subset (y : Yard) (span : Span) :
    opened (y.closeTop span).1.stack ⊆ opened y.stack := by
  unfold closeTop
  split
  · next opening below top =>
    change opened (call _).stack ⊆ _
    rw [opened_call, top]
    exact List.subset_cons_self _ _
  · exact List.Subset.refl _

/-- Closing a group fails only for a parenthesis that closes nothing, and at its place. -/
lemma eq_of_error_closeTop {span : Span} {e : ParseError} (h : (y.closeTop span).2 = some e) :
    e = .mismatchedParentheses span := by
  unfold closeTop at h
  split at h
  · cases h
  · exact (Option.some.inj h).symm

/-- Every move keeps the places of the open parentheses, and points at what its error tells of. -/
lemma Marks.make (h : Marks source y) {move : Move} (points : move.PointsAt source) :
    Marks source (y.make move).1 ∧ ∀ e, (y.make move).2 = some e → e.PointsAt source := by
  have no_error : ∀ e : ParseError, none = some e → e.PointsAt source := by rintro e ⟨⟩
  cases move with
  | operand value => exact ⟨h, no_error⟩
  | opening span => exact ⟨List.forall_mem_cons.mpr ⟨points, h⟩, no_error⟩
  | closing span =>
    refine ⟨fun opening member => h opening ?_, fun e failed => ?_⟩
    · have kept := opened_closeTop_subset y.releaseAll span member
      rwa [releaseAll, opened_release] at kept
    · rw [eq_of_error_closeTop failed]
      exact .inr points
  | separator =>
    refine ⟨fun opening member => h opening ?_, no_error⟩
    rwa [Yard.make, releaseAll, opened_release] at member
  | operator op =>
    refine ⟨fun opening member => h opening ?_, no_error⟩
    rwa [Yard.make, opened_place] at member
  | unknown e =>
    refine ⟨h, ?_⟩
    rintro e' ⟨⟩
    exact points

/-- So does every token that is a piece of the source text. -/
lemma Marks.shunt (h : Marks source y) {token : Token}
    (piece : token.span.slice? source = some token.text.toList) :
    Marks source (y.shunt d token).1 ∧ ∀ e, (y.shunt d token).2 = some e → e.PointsAt source := by
  rw [shunt_eq_make]
  exact h.make (Dialect.pointsAt_move piece d y.operandExpected)

/-- So do all tokens, one after another. -/
lemma Marks.shuntAll (h : Marks source y)
    (pieces : ∀ token ∈ tokens, token.span.slice? source = some token.text.toList) :
    Marks source (y.shuntAll d tokens).1 ∧
      ∀ e, (y.shuntAll d tokens).2 = some e → e.PointsAt source := by
  induction tokens generalizing y with
  | nil => exact ⟨h, nofun⟩
  | cons token rest ih =>
    obtain ⟨piece, others⟩ := List.forall_mem_cons.mp pieces
    have taken := h.shunt (d := d) piece
    rw [Yard.shuntAll_cons_eq]
    split
    · next y' same =>
      rw [same] at taken
      exact ih taken.1 others
    · next y' e same =>
      rw [same] at taken
      exact taken

/-- The error of pieces of a source text, or of their end, points at what it tells of. -/
lemma pointsAt_of_parse {e : ParseError}
    (pieces : ∀ token ∈ tokens, token.span.slice? source = some token.text.toList)
    (failed : (Yard.empty.parse d tokens).2 = some e) : e.PointsAt source := by
  have marks : Marks source Yard.empty := nofun
  have taken := marks.shuntAll (d := d) pieces
  have balanced := Balanced.empty.shuntAll d tokens
  unfold Yard.parse at failed
  split at failed
  · next y same =>
    rw [same] at taken balanced
    rw [finish_error balanced] at failed
    obtain ⟨span, top, rfl⟩ := Option.map_eq_some_iff.mp failed
    exact .inl (taken.1 span (List.mem_of_head? top))
  · next y e' same =>
    rw [same] at taken
    exact taken.2 e failed

end Yard

namespace Evaluator

variable {lookup : Lookup} {bindings : Bindings} {parts : List Part}

/-- Parts fail in other ways than reading does. -/
lemma ne_parse_of_run {stack : Stack Operand} {failure : Failure}
    (h : run lookup bindings (parts.map .ok) stack = .error failure) (e : ParseError) :
    failure ≠ .parse e := by
  induction parts generalizing stack with
  | nil => cases h
  | cons part rest ih =>
    rw [List.map_cons, run, stepItem] at h
    cases stepped : step lookup bindings stack part with
    | ok stack' =>
      rw [stepped] at h
      exact ih h
    | error e' =>
      rw [stepped] at h
      cases h
      rintro ⟨⟩

/-- A parse error is the outcome just where no part before it fails. -/
lemma evaluateItems_eq_parse_iff (e : ParseError) :
    evaluateItems lookup bindings (parts.map .ok ++ [.error e]) = .error (.parse e) ↔
      Succeeds lookup bindings parts := by
  constructor
  · intro evaluated
    rw [succeeds_iff]
    cases ran : run lookup bindings (parts.map .ok) .empty with
    | ok stack => exact ⟨stack, rfl⟩
    | error failure =>
      rw [evaluateItems, run_append, ran] at evaluated
      cases evaluated
      exact absurd rfl (ne_parse_of_run ran e)
  · intro succeeds
    exact (evaluateItems_of_first succeeds .parse []).1

end Evaluator

/-- Gathered parts with an error behind them are the error. -/
lemma gather_map_ok (parts : List Part) (e : ParseError) :
    gather (parts.map .ok ++ [.error e]) = .error e := by
  induction parts with
  | nil => rfl
  | cons part rest ih =>
    rw [List.map_cons, List.cons_append, gather, ih]
    rfl

/-- Where what is read from a source text has an error, the place of the error is that of the token or name it
tells of, or of a parenthesis. The error is the last item, gathering the parts gives it, and so does an
evaluation unless a part before it fails. -/
theorem Dialect.pointsAt_of_mem {d : Dialect} {symbols : List String} (lexes : d.tokenize = lexWith symbols)
    (source : String) :
    let items := FiniteSource.items (Rpn.ofSource d source)
    ∀ e : ParseError, .error e ∈ items →
      e.PointsAt source.toList ∧ e ≠ .mismatchedParentheses default ∧
      (d.parse source).toList.1 = .error e ∧
      ∃ parts : List Part, items = parts.map .ok ++ [.error e] ∧
        ∀ lookup bindings, (Evaluator.evaluate lookup bindings (d.parse source)).1 = .error (.parse e) ↔
          Evaluator.Succeeds lookup bindings parts := by
  intro items e member
  have keeps := Replay.Keeps.ofSource (Rpn.ofSource d source)
  have read : items = Yard.yielded (Yard.empty.parse d (Lexer.tokens symbols source)) := by
    rw [← read_eq_yielded]
    exact items_ofSource lexes source
  have failed : (Yard.empty.parse d (Lexer.tokens symbols source)).2 = some e := by
    rw [read] at member
    simpa [Yard.yielded] using member
  have last : items = (Yard.empty.parse d (Lexer.tokens symbols source)).1.output.map .ok ++ [.error e] := by
    rw [read, Yard.yielded, failed]
    rfl
  have partitions : Lexer.Partitions source.toList [] (Lexer.tokens symbols source) :=
    (Lexer.Cursor.Passed.ofSource source).partitions
  have points := Yard.pointsAt_of_parse (fun token found => (partitions.of_mem found).2.1) failed
  refine ⟨points, points.ne_default, ?_, _, last, fun lookup bindings => ?_⟩
  · rw [Dialect.parse, keeps.makes.list]
    change gather items = _
    rw [last, gather_map_ok]
  · rw [Dialect.parse, keeps.evaluate_eq]
    change Evaluator.evaluateItems lookup bindings items = _ ↔ _
    rw [last, Evaluator.evaluateItems_eq_parse_iff]

/-- The first parenthesis in `√((:a)` is never closed, which is known only at the end; in `(√é` a character of
two bytes is no token that is known. -/
theorem Dialect.pointsAt_of_mem_roots :
    let d : Dialect := ⟨Setup.math.catalogue.registry, lexWith ["√"], standardOperand?⟩
    let bindings : Bindings := Dictionary.empty.insert ":a" (.operand (.number 1))
    d.tokenize = lexWith ["√"] ∧
      .error (.mismatchedParentheses ⟨3, 4⟩) ∈ FiniteSource.items (Rpn.ofSource d "√((:a)") ∧
      ParseError.PointsAt "√((:a)".toList (.mismatchedParentheses ⟨3, 4⟩) ∧
      (Evaluator.evaluate standardLookup bindings (d.parse "√((:a)")).1 =
        .error (.parse (.mismatchedParentheses ⟨3, 4⟩)) ∧
      .error (.unknownToken "é" ⟨4, 6⟩) ∈ FiniteSource.items (Rpn.ofSource d "(√é") ∧
      ParseError.PointsAt "(√é".toList (.unknownToken "é" ⟨4, 6⟩) := by
  intro d bindings
  have lexes : d.tokenize = lexWith ["√"] := rfl
  have roots : Lexer.tokens ["√"] "√((:a)" = [⟨"√", ⟨0, 3⟩⟩, ⟨"(", ⟨3, 4⟩⟩, ⟨"(", ⟨4, 5⟩⟩, ⟨":a", ⟨5, 7⟩⟩,
      ⟨")", ⟨7, 8⟩⟩] :=
    Lexer.Cursor.tokens_of_within 5 (by decide)
  have letter : Lexer.tokens ["√"] "(√é" = [⟨"(", ⟨0, 1⟩⟩, ⟨"√", ⟨1, 4⟩⟩, ⟨"é", ⟨4, 6⟩⟩] :=
    Lexer.Cursor.tokens_of_within 3 (by decide)
  have unclosed : FiniteSource.items (Rpn.ofSource d "√((:a)") =
      List.map .ok [.operand (.variable ":a")] ++ [.error (.mismatchedParentheses ⟨3, 4⟩)] := by
    rw [items_ofSource lexes, roots, read_eq_yielded]
    rfl
  have unknown : FiniteSource.items (Rpn.ofSource d "(√é") = [.error (.unknownToken "é" ⟨4, 6⟩)] := by
    rw [items_ofSource lexes, letter, read_eq_yielded]
    rfl
  have late : .error (.mismatchedParentheses ⟨3, 4⟩) ∈ FiniteSource.items (Rpn.ofSource d "√((:a)") := by
    simp [unclosed]
  have early : .error (.unknownToken "é" ⟨4, 6⟩) ∈ FiniteSource.items (Rpn.ofSource d "(√é") := by
    simp [unknown]
  obtain ⟨points, -, -, parts, last, outcome⟩ := pointsAt_of_mem lexes "√((:a)" _ late
  have taken : parts.map .ok = List.map (.ok : Part → Item) [.operand (.variable ":a")] :=
    List.append_inj_left' (last.symm.trans unclosed) rfl
  have succeeds : Evaluator.Succeeds standardLookup bindings parts := by
    rw [Evaluator.succeeds_iff, taken]
    exact ⟨⟨[.number 1]⟩, rfl⟩
  exact ⟨lexes, late, points, (outcome _ _).mpr succeeds, early, (pointsAt_of_mem lexes "(√é" _ early).1⟩

end Formula
