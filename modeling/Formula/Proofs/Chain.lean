import Formula.Calculator
import Formula.Proofs.Phrase
import Formula.Proofs.Written
import Mathlib.Data.Finset.Max
import Mathlib.Data.List.TakeWhile

/-!
# Chains of operators

A chain is operands with operators between them, each to be grouped from the left or from the right. The
reference reading of a chain divides it where an operator binds least, the last such operator if they
group from the left and the first if they group from the right, and reads the two sides by themselves.
The yard never looks further than the top of its stack; `Chain.read_eq_reference` says that it comes to
the same.
-/

namespace Formula

/-- A phrase is read as what it is a phrase for. -/
lemma Reads.parts {d : Dialect} {tokens : List Token} {exposed pending : List Operator}
    {rpn : List Part} (h : Reads d tokens exposed pending rpn) : d.parts tokens = rpn := by
  rw [Dialect.parts, h.fills.read]
  simp [List.filterMap_map, Function.comp_def, Except.toOption]

namespace Chain

/-- Tokens that stand for an operand of a chain: one token, or a group that holds no error. -/
inductive IsOperand (d : Dialect) : List Token → Prop where
  | single {token : Token} {value : Operand} :
    d.operand? token.text = some value →
    IsOperand d [token]
  | group {opening closing : Span} {inside : List Token} :
    d.Parenthesizes →
    d.Accepts inside →
    IsOperand d (Token.enclose opening closing inside)

/-- An operand of a chain is a phrase for what it is read as by itself. -/
lemma IsOperand.reads {d : Dialect} {tokens : List Token} (h : IsOperand d tokens) :
    Reads d tokens [] [] (d.parts tokens) := by
  cases h with
  | single operand =>
    have phrase := Reads.operand operand
    rwa [← phrase.parts] at phrase
  | @group opening closing inside parens accepted =>
    have phrase := Reads.group (fills_of_read accepted.read) parens opening closing
    rwa [← phrase.parts] at phrase

/-- An operator of a chain, and the tokens of the operand after it. -/
structure Link where
  sign : Sign .binary
  operand : List Token

namespace Link

def precedence (l : Link) : Nat := l.sign.operator.precedence

def associativity (l : Link) : Associativity := l.sign.operator.associativity

/-- Tells whether the operator waits no longer when that of `coming` comes. -/
def precedes (waiting coming : Link) : Bool :=
  waiting.sign.operator.precedes coming.sign.operator

/-- An operator that waits passes before a left-associative one that binds as much or less. -/
lemma precedes_of_left {waiting coming : Link} (left : coming.associativity = .left) :
    waiting.precedes coming = decide (coming.precedence ≤ waiting.precedence) := by
  unfold precedes Operator.precedes
  rw [show coming.sign.operator.associativity = .left from left]
  rfl

/-- An operator that waits passes before a right-associative one that binds less. -/
lemma precedes_of_right {waiting coming : Link} (right : coming.associativity = .right) :
    waiting.precedes coming = decide (coming.precedence < waiting.precedence) := by
  unfold precedes Operator.precedes
  rw [show coming.sign.operator.associativity = .right from right]
  rfl

def tokens (l : Link) : List Token := l.sign.token :: l.operand

end Link

/-- Tells whether no operator of `links` has a lower precedence. -/
def Link.isLowest (links : List Link) (l : Link) : Bool :=
  links.all fun m => l.precedence ≤ m.precedence

/-- Divides links at one of the lowest precedence: at the first of these if that is grouped from the
right, else at the last. -/
def divide (links : List Link) : Option (List Link × Link × List Link) :=
  match links.dropWhile (!Link.isLowest links ·) with
  | [] => none
  | first :: after =>
    if first.associativity = .right then
      some (links.takeWhile (!Link.isLowest links ·), first, after)
    else
      match links.reverse.dropWhile (!Link.isLowest links ·) with
      | [] => none
      | last :: before =>
        some (before.reverse, last, (links.reverse.takeWhile (!Link.isLowest links ·)).reverse)

/-- Nothing is lost where links are divided. -/
lemma eq_of_divide {links before after : List Link} {link : Link}
    (h : divide links = some (before, link, after)) : links = before ++ link :: after := by
  unfold divide at h
  split at h
  · cases h
  · next first rest found =>
    split at h
    · cases h
      rw [← found, List.takeWhile_append_dropWhile]
    · split at h
      · cases h
      · next last rest found' =>
        cases h
        have whole := List.takeWhile_append_dropWhile
          (p := (!Link.isLowest links ·)) (l := links.reverse)
        rw [found'] at whole
        simpa using (congrArg List.reverse whole).symm

/-- On either side of the link at which a chain is divided there are fewer links. -/
lemma length_lt_of_divide {links before after : List Link} {link : Link}
    (h : divide links = some (before, link, after)) :
    before.length < links.length ∧ after.length < links.length := by
  rw [eq_of_divide h, List.length_append, List.length_cons]
  omega

/-- The reference reading of a chain: where there is an operator, the chain is divided. -/
def reference (d : Dialect) (first : List Token) (links : List Link) : List Part :=
  match _h : divide links with
  | none => d.parts first
  | some (before, link, after) =>
    reference d first before ++ reference d link.operand after ++ [.operator link.sign.operator]
termination_by links.length
decreasing_by
  · exact (length_lt_of_divide _h).1
  · exact (length_lt_of_divide _h).2

/-- The tokens of an operand and the links after it. -/
def tokens (first : List Token) (links : List Link) : List Token :=
  first ++ links.flatMap Link.tokens

/-- Links whose tokens mean what they say, and whose operators are grouped from one side each, from the
same side where they have the same precedence. -/
structure Linked (d : Dialect) (links : List Link) : Prop where
  operands : ∀ l ∈ links, IsOperand d l.operand
  spells : ∀ l ∈ links, Spells d l.sign.token false l.sign.operator
  sided : ∀ l ∈ links, l.associativity = .left ∨ l.associativity = .right
  agree : ∀ l ∈ links, ∀ m ∈ links, l.precedence = m.precedence → l.associativity = m.associativity

/-- No operator has a lower precedence than that of `link`, and none with the same one comes after it, if
it is grouped from the left, or before it, if it is grouped from the right. -/
structure Divides (before : List Link) (link : Link) (after : List Link) : Prop where
  lowest : ∀ l ∈ before ++ after, link.precedence ≤ l.precedence
  last : link.associativity = .left → ∀ l ∈ after, link.precedence < l.precedence
  first : link.associativity = .right → ∀ l ∈ before, link.precedence < l.precedence

section Divide

variable {links searched rest : List Link} {l m : Link}

/-- The links that bind least are those that no link binds less than. -/
lemma isLowest_iff : Link.isLowest links l = true ↔ ∀ m ∈ links, l.precedence ≤ m.precedence := by
  simp [Link.isLowest]

/-- The search ends at an operator with the lowest precedence. -/
lemma isLowest_of_dropWhile (h : searched.dropWhile (!Link.isLowest links ·) = l :: rest) :
    Link.isLowest links l = true := by
  have found := List.head_dropWhile_not (!Link.isLowest links ·) (l := searched) (by simp [h])
  simpa [h] using found

/-- The search passes over higher precedences only. -/
lemma lt_of_mem_takeWhile (lowest : Link.isLowest links l = true)
    (member : m ∈ searched.takeWhile (!Link.isLowest links ·)) : l.precedence < m.precedence := by
  have passed := List.mem_takeWhile_imp member
  simp only [Link.isLowest, Bool.not_eq_true', List.all_eq_false, decide_eq_true_eq, not_le]
    at passed
  obtain ⟨k, present, lower⟩ := passed
  exact lt_of_le_of_lt (isLowest_iff.mp lowest k present) lower

/-- Among some links there is one that binds least. -/
lemma exists_isLowest (some_link : links ≠ []) : ∃ l ∈ links, Link.isLowest links l = true := by
  obtain ⟨l, member, lowest⟩ := Multiset.exists_min_image Link.precedence
    (s := (links : Multiset Link)) (by simpa using some_link)
  exact ⟨l, member, isLowest_iff.mpr lowest⟩

/-- A search among the same links stops at one that is lowest. -/
lemma exists_dropWhile (some_link : links ≠ []) (same : ∀ l, l ∈ links ↔ l ∈ searched) :
    ∃ l rest, searched.dropWhile (!Link.isLowest links ·) = l :: rest := by
  refine List.exists_cons_of_ne_nil fun nothing => ?_
  obtain ⟨l, member, lowest⟩ := exists_isLowest some_link
  have passed := List.dropWhile_eq_nil_iff.mp nothing l ((same l).mp member)
  simp [lowest] at passed

/-- The links on both sides of a division are those of the chain. -/
lemma mem_of_divide {before after : List Link} (h : divide links = some (before, m, after))
    (member : l ∈ before ++ after) : l ∈ links := by
  rw [eq_of_divide h]
  rcases List.mem_append.mp member with left | right
  · exact List.mem_append_left _ left
  · exact List.mem_append_right _ (List.mem_cons_of_mem _ right)

/-- A chain with an operator is divided, and where it should be. -/
lemma divide_spec {d : Dialect} (h : Linked d links) (some_link : links ≠ []) :
    ∃ before link after, divide links = some (before, link, after) ∧ Divides before link after := by
  obtain ⟨first, after, found⟩ := exists_dropWhile some_link fun _ => Iff.rfl
  obtain ⟨last, before, found'⟩ := exists_dropWhile some_link fun _ => List.mem_reverse.symm
  have first_lowest := isLowest_of_dropWhile found
  have last_lowest := isLowest_of_dropWhile found'
  have first_member : first ∈ links :=
    (List.dropWhile_suffix _).subset (found ▸ List.mem_cons_self)
  have last_member : last ∈ links :=
    List.mem_reverse.mp ((List.dropWhile_suffix _).subset (found' ▸ List.mem_cons_self))
  by_cases grouped : first.associativity = .right
  · have divided : divide links =
        some (links.takeWhile (!Link.isLowest links ·), first, after) := by
      rw [divide, found]
      simp [grouped]
    refine ⟨_, _, _, divided, fun l member => ?_, ?_, ?_⟩
    · exact isLowest_iff.mp first_lowest l (mem_of_divide divided member)
    · simp [grouped]
    · exact fun _ l member => lt_of_mem_takeWhile first_lowest member
  · have divided : divide links = some (before.reverse, last,
        (links.reverse.takeWhile (!Link.isLowest links ·)).reverse) := by
      rw [divide, found]
      simp [grouped, found']
    -- the last operator has the same precedence as the first, so it is grouped alike
    have same : last.associativity = first.associativity :=
      h.agree last last_member first first_member (Nat.le_antisymm
        (isLowest_iff.mp last_lowest first first_member)
        (isLowest_iff.mp first_lowest last last_member))
    refine ⟨_, _, _, divided, fun l member => ?_, ?_, ?_⟩
    · exact isLowest_iff.mp last_lowest l (mem_of_divide divided member)
    · intro _ l member
      exact lt_of_mem_takeWhile last_lowest (List.mem_reverse.mp member)
    · intro right
      exact absurd (same.symm.trans right) grouped

end Divide

section Reading

variable {d : Dialect} {links before after : List Link} {link : Link}

/-- What is said of the links of a chain holds of some of them. -/
lemma Linked.subset (h : Linked d links) (fewer : before ⊆ links) : Linked d before where
  operands l member := h.operands l (fewer member)
  spells l member := h.spells l (fewer member)
  sided l member := h.sided l (fewer member)
  agree l member m member' := h.agree l (fewer member) m (fewer member')

/-- Where a chain is divided, the operators before the division pass. -/
lemma Divides.passes (h : Divides before link after) {l : Link} (member : l ∈ before)
    (sided : link.associativity = .left ∨ link.associativity = .right) :
    l.precedes link = true := by
  rcases sided with left | right
  · rw [Link.precedes_of_left left]
    exact decide_eq_true (h.lowest l (List.mem_append_left _ member))
  · rw [Link.precedes_of_right right]
    exact decide_eq_true (h.first right l member)

/-- Where a chain is divided, the operator waits for those after the division. -/
lemma Divides.waits (h : Divides before link after) {l : Link} (member : l ∈ after)
    (sided : l.associativity = .left ∨ l.associativity = .right)
    (agree : l.precedence = link.precedence → l.associativity = link.associativity) :
    link.precedes l = false := by
  have lowest := h.lowest l (List.mem_append_right _ member)
  rcases sided with left | right
  · rw [Link.precedes_of_left left]
    -- an operator of the same precedence would be grouped from the left and come after the last
    refine decide_eq_false fun lower => ?_
    have same := Nat.le_antisymm lower lowest
    have higher := h.last ((agree same).symm.trans left) l member
    omega
  · rw [Link.precedes_of_right right]
    exact decide_eq_false (Nat.not_lt.mpr lowest)

/-- The tokens of a chain that is divided are those before the operator, the operator, and those after it. -/
lemma tokens_append (first : List Token) :
    tokens first (before ++ link :: after) =
      tokens first before ++ link.sign.token :: tokens link.operand after := by
  simp [tokens, Link.tokens]

/-- A chain is a phrase for its reference reading, at whose edges there are operators of the chain. -/
lemma reads_reference (first : List Token) (links : List Link) (operand : IsOperand d first)
    (linked : Linked d links) :
    ∃ exposed pending, exposed ⊆ links ∧ pending ⊆ links ∧
      Reads d (tokens first links) (exposed.map (·.sign.operator))
        (pending.map (·.sign.operator)) (reference d first links) := by
  -- along the divisions of the reference: what is exposed or pending on a side is of that side, so the
  -- operator at the division compares with it as with any operator there
  fun_induction reference d first links with
  | case1 first links divided =>
    have no_link : links = [] := by
      by_contra some_link
      obtain ⟨before, link, after, found, -⟩ := divide_spec linked some_link
      rw [divided] at found
      cases found
    subst no_link
    refine ⟨[], [], List.nil_subset _, List.nil_subset _, ?_⟩
    simpa [tokens] using operand.reads
  | case2 first links before link after divided ihb iha =>
    have whole := eq_of_divide divided
    have place : Divides before link after := by
      obtain ⟨_, _, _, found, spec⟩ := divide_spec linked (by simp [whole])
      rw [divided] at found
      cases found
      exact spec
    subst whole
    have in_before : before ⊆ before ++ link :: after := List.subset_append_left _ _
    have in_after : after ⊆ before ++ link :: after := fun l member =>
      List.mem_append_right _ (List.mem_cons_of_mem _ member)
    have present : link ∈ before ++ link :: after := by simp
    obtain ⟨exposed, pending, exposed_sub, pending_sub, left⟩ :=
      ihb operand (linked.subset in_before)
    obtain ⟨exposed', pending', exposed_sub', pending_sub', right⟩ :=
      iha (linked.operands link present) (linked.subset in_after)
    refine ⟨exposed ++ [link], link :: pending', ?_, ?_, ?_⟩
    · exact List.append_subset.mpr ⟨List.Subset.trans exposed_sub in_before, by simp⟩
    · exact List.cons_subset.mpr ⟨present, List.Subset.trans pending_sub' in_after⟩
    · rw [tokens_append, List.map_append, List.map_cons]
      refine left.between (linked.spells link present) link.sign.placed right ?_ ?_
      · intro o member
        obtain ⟨l, waiting, rfl⟩ := List.mem_map.mp member
        exact place.passes (pending_sub waiting) (linked.sided link present)
      · intro o member
        obtain ⟨l, coming, rfl⟩ := List.mem_map.mp member
        have inside := in_after (exposed_sub' coming)
        exact place.waits (exposed_sub' coming) (linked.sided l inside)
          (linked.agree l inside link present)

/-- A chain of operators, each grouped from the left or from the right and alike where they have the
same precedence, is read as the reference says. -/
theorem read_eq_reference (d : Dialect) (first : List Token) (links : List Link)
    (operand : IsOperand d first) (linked : Linked d links) :
    d.read (tokens first links) = (reference d first links).map .ok := by
  obtain ⟨_, _, -, -, phrase⟩ := reads_reference first links operand linked
  exact phrase.fills.read

end Reading

/-- The chain `:a - ( :b , :c ) - :d ^ :e ^ :f * :g` after its first operand. -/
def differences : List Link :=
  [⟨Library.subtraction.sign ⟨"-", ⟨3, 4⟩⟩,
      Token.enclose ⟨5, 6⟩ ⟨15, 16⟩ [⟨":b", ⟨7, 9⟩⟩, ⟨",", ⟨10, 11⟩⟩, ⟨":c", ⟨12, 14⟩⟩]⟩,
    ⟨Library.subtraction.sign ⟨"-", ⟨17, 18⟩⟩, [⟨":d", ⟨19, 21⟩⟩]⟩,
    ⟨Library.power.sign ⟨"^", ⟨22, 23⟩⟩, [⟨":e", ⟨24, 26⟩⟩]⟩,
    ⟨Library.power.sign ⟨"^", ⟨27, 28⟩⟩, [⟨":f", ⟨29, 31⟩⟩]⟩,
    ⟨Library.multiplication.sign ⟨"*", ⟨32, 33⟩⟩, [⟨":g", ⟨34, 36⟩⟩]⟩]

/-- The reference of an operand alone is its parts. -/
lemma reference_nil (d : Dialect) (first : List Token) : reference d first [] = d.parts first := by
  rw [reference]
  rfl

/-- The reference reads a chain by the two sides of its division. -/
lemma reference_of_divide {d : Dialect} {first : List Token} {links before after : List Link}
    {link : Link} (h : divide links = some (before, link, after)) :
    reference d first links =
      reference d first before ++ reference d link.operand after ++ [.operator link.sign.operator] := by
  rw [reference]
  split
  · next divided =>
    rw [h] at divided
    cases divided
  · next divided =>
    rw [h] at divided
    cases divided
    rfl

/-- Differences and powers are grouped by precedence, and equal ones by associativity. -/
theorem read_differences :
    IsOperand .math [⟨":a", ⟨0, 2⟩⟩] ∧ Linked .math differences ∧
      Dialect.math.read (tokens [⟨":a", ⟨0, 2⟩⟩] differences) =
        (reference .math [⟨":a", ⟨0, 2⟩⟩] differences).map .ok ∧
      reference .math [⟨":a", ⟨0, 2⟩⟩] differences =
        [.operand (.variable ":a"), .operand (.variable ":b"), .operand (.variable ":c"),
          .operator Library.subtraction, .operand (.variable ":d"), .operand (.variable ":e"),
          .operand (.variable ":f"), .operator Library.power, .operator Library.power,
          .operand (.variable ":g"), .operator Library.multiplication,
          .operator Library.subtraction] := by
  have parens : Dialect.math.Parenthesizes := ⟨rfl, rfl⟩
  have inside : Fills .math [⟨":b", ⟨7, 9⟩⟩, ⟨",", ⟨10, 11⟩⟩, ⟨":c", ⟨12, 14⟩⟩]
      [.operand (.variable ":b"), .operand (.variable ":c")] :=
    (Reads.operand rfl).fills.append rfl (Reads.operand rfl).fills ⟨10, 11⟩
  have first : IsOperand .math [⟨":a", ⟨0, 2⟩⟩] := .single rfl
  have linked : Linked .math differences := by
    refine ⟨?_, ?_, ?_, ?_⟩
    · simp only [differences, List.forall_mem_cons, List.not_mem_nil, false_imp_iff, implies_true,
        and_true]
      exact ⟨.group parens (Dialect.accepts_of_read inside.read), .single rfl, .single rfl,
        .single rfl, .single rfl⟩
    · simp only [differences, List.forall_mem_cons, List.not_mem_nil, false_imp_iff, implies_true,
        and_true]
      exact ⟨⟨rfl, by decide, rfl⟩, ⟨rfl, by decide, rfl⟩, ⟨rfl, by decide, rfl⟩,
        ⟨rfl, by decide, rfl⟩, ⟨rfl, by decide, rfl⟩⟩
    · decide
    · decide
  refine ⟨first, linked, read_eq_reference .math _ differences first linked, ?_⟩
  -- the last difference, then the first one, the product, and the powers from the left
  rw [reference_of_divide
      (show divide differences = some (differences.take 1, differences[1], differences.drop 2) from rfl),
    reference_of_divide (show divide (differences.take 1) = some ([], differences[0], []) from rfl),
    reference_of_divide (show divide (differences.drop 2) =
      some ([differences[2], differences[3]], differences[4], []) from rfl),
    reference_of_divide (show divide [differences[2], differences[3]] =
      some ([], differences[2], [differences[3]]) from rfl),
    reference_of_divide (show divide [differences[3]] = some ([], differences[3], []) from rfl)]
  have parts_b : Dialect.math.parts differences[0].operand = _ :=
    (Reads.group inside parens ⟨5, 6⟩ ⟨15, 16⟩).parts
  have parts_d : Dialect.math.parts differences[1].operand = _ := (Reads.operand rfl).parts
  have parts_e : Dialect.math.parts differences[2].operand = _ := (Reads.operand rfl).parts
  have parts_f : Dialect.math.parts differences[3].operand = _ := (Reads.operand rfl).parts
  have parts_g : Dialect.math.parts differences[4].operand = _ := (Reads.operand rfl).parts
  simp only [reference_nil]
  rw [(Reads.operand rfl).parts, parts_b, parts_d, parts_e, parts_f, parts_g]
  rfl

end Chain

end Formula
