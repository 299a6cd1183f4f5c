import Formula.Json.Basic
import Formula.Json.Notation
import Formula.Proofs.Number.Finite
import Formula.Proofs.Number.Parts

/-!
# The grammar of JSON

Which value a text denotes (`Denotes`), with all the freedom that the notation leaves: blanks around items, keys
and values, and escapes in strings. No reader is looked at; only the float that a numeral stands for is left to
the reader, which may round as it likes.
-/

namespace Formula

namespace Number.Numeral.Parts

/-- The integer that a number is: digits alone, which 64 bits hold. The negative zero is none. -/
def integer? (p : Parts) : Option Int :=
  let n : Int := if p.negative then -(value p.literal.whole : Int) else value p.literal.whole
  if p.literal.fraction = [] ∧ p.power = none ∧ ¬(p.negative = true ∧ n = 0) ∧
      Json.leastInteger ≤ n ∧ n < Json.integerLimit then
    some n
  else none

/-- The value that a number is: an integer if it can be one, and else the finite float that its text is read as. -/
inductive Stands (real? : List Char → Option Float) (p : Parts) : Json → Prop where
  | integer {n} :
    p.integer? = some n →
    Stands real? p (.integer n)
  | real {x} :
    p.integer? = none →
    real? p.text = some x →
    IsFinite x →
    Stands real? p (.real x)

/-- An integer of JSON is held by 64 bits. -/
lemma bounds_of_integer? {p : Parts} {n : Int} (whole : p.integer? = some n) :
    Json.leastInteger ≤ n ∧ n < Json.integerLimit := by
  rw [integer?, Option.ite_none_right_eq_some] at whole
  obtain ⟨⟨-, -, -, least, below⟩, same⟩ := whole
  cases same
  exact ⟨least, below⟩

end Number.Numeral.Parts

namespace Json

open Number.Numeral

/-- How the characters of a string may be written between its quotes. -/
inductive Quotes : List Char → List Char → Prop where
  | nil :
    Quotes [] []
  | plain {c quoted text} :
    c ≠ '"' →
    c ≠ '\\' →
    0x20 ≤ c.toNat →
    Quotes quoted text →
    Quotes (c :: quoted) (c :: text)
  | escaped {letter c quoted text} :
    escaped? letter = some c →
    Quotes quoted text →
    Quotes ('\\' :: letter :: quoted) (c :: text)
  | unit {d₁ d₂ d₃ d₄ n quoted text} :
    hex4? d₁ d₂ d₃ d₄ = some n →
    isHighUnit n = false →
    isLowUnit n = false →
    Quotes quoted text →
    Quotes ('\\' :: 'u' :: d₁ :: d₂ :: d₃ :: d₄ :: quoted) (Char.ofNat n :: text)
  | pair {d₁ d₂ d₃ d₄ e₁ e₂ e₃ e₄ high low quoted text} :
    hex4? d₁ d₂ d₃ d₄ = some high →
    hex4? e₁ e₂ e₃ e₄ = some low →
    isHighUnit high = true →
    isLowUnit low = true →
    Quotes quoted text →
    Quotes ('\\' :: 'u' :: d₁ :: d₂ :: d₃ :: d₄ :: '\\' :: 'u' :: e₁ :: e₂ :: e₃ :: e₄ :: quoted)
      (pairChar high low :: text)

/-- A string between its quotes. -/
def InQuotes (s text : List Char) : Prop := ∃ quoted, s = '"' :: quoted ++ ['"'] ∧ Quotes quoted text

/-- A text with blanks around it. -/
structure Spaced where
  before : List Char
  body : List Char
  after : List Char
  isSpace_before : ∀ c ∈ before, isSpace c = true
  isSpace_after : ∀ c ∈ after, isSpace c = true

namespace Spaced

def text (s : Spaced) : List Char := s.before ++ s.body ++ s.after

/-- A text with no blanks around it. -/
def tight (body : List Char) : Spaced := ⟨[], body, [], List.forall_mem_nil _, List.forall_mem_nil _⟩

/-- Without blanks there is nothing but the text. -/
@[simp]
lemma text_tight (body : List Char) : (tight body).text = body := by
  simp [tight, text]

end Spaced

/-- A member of an object as it is written: its key in quotes, and its value. -/
structure Member where
  key : String
  name : Spaced
  value : Spaced
  inQuotes : InQuotes name.body key.toList

def Member.text (m : Member) : List Char := m.name.text ++ ':' :: m.value.text

def boolText (value : Bool) : List Char := if value then ['t', 'r', 'u', 'e'] else ['f', 'a', 'l', 's', 'e']

/-- Pieces between brackets, with commas between them. -/
def enclose (opening closing : Char) (pieces : List (List Char)) : List Char :=
  opening :: List.intercalate [','] pieces ++ [closing]

/-- The value that a text denotes, where `real?` tells the floats of numerals. -/
inductive Denotes (real? : List Char → Option Float) : List Char → Json → Prop where
  | null :
    Denotes real? ['n', 'u', 'l', 'l'] .null
  | bool {value} :
    Denotes real? (boolText value) (.bool value)
  | number {p : Parts} {v} :
    p.Stands real? v →
    Denotes real? p.text v
  | string {s text} :
    InQuotes s text.toList →
    Denotes real? s (.string text)
  | noItems {blanks} :
    (∀ c ∈ blanks, isSpace c = true) →
    Denotes real? ('[' :: blanks ++ [']']) (.array [])
  | array {items : List (Spaced × Json)} :
    items ≠ [] →
    (∀ item ∈ items, Denotes real? item.1.body item.2) →
    Denotes real? (enclose '[' ']' (items.map (·.1.text))) (.array (items.map (·.2)))
  | noMembers {blanks} :
    (∀ c ∈ blanks, isSpace c = true) →
    Denotes real? ('\x7b' :: blanks ++ ['\x7d']) (.object [])
  | object {members : List (Member × Json)} :
    members ≠ [] →
    (∀ m ∈ members, Denotes real? m.1.value.body m.2) →
    Denotes real? (enclose '\x7b' '\x7d' (members.map (·.1.text))) (.object (members.map fun m => (m.1.key, m.2)))

/-- The values that a reader keeps: integers of 64 bits, finite reals, and objects with ascending keys. -/
inductive Canonical : Json → Prop where
  | null :
    Canonical .null
  | bool {value} :
    Canonical (.bool value)
  | integer {n} :
    leastInteger ≤ n →
    n < integerLimit →
    Canonical (.integer n)
  | real {x} :
    Number.IsFinite x →
    Canonical (.real x)
  | string {text} :
    Canonical (.string text)
  | array {items} :
    (∀ item ∈ items, Canonical item) →
    Canonical (.array items)
  | object {members} :
    (∀ m ∈ members, Canonical m.2) →
    (members.map Prod.fst).Pairwise (· < ·) →
    Canonical (.object members)

mutual

/-- How deep the arrays and objects of a value nest. -/
def depth : Json → Nat
  | .array items => depthItems items + 1
  | .object members => depthMembers members + 1
  | _ => 0

/-- How deep the items of an array nest. -/
def depthItems : List Json → Nat
  | [] => 0
  | item :: rest => max (depth item) (depthItems rest)

/-- How deep the members of an object nest. -/
def depthMembers : List (String × Json) → Nat
  | [] => 0
  | (_, value) :: rest => max (depth value) (depthMembers rest)

end

/-- No item of an array nests deeper than all of them. -/
lemma depth_le_depthItems {item : Json} {items : List Json} (member : item ∈ items) :
    item.depth ≤ depthItems items := by
  induction member with
  | head => exact Nat.le_max_left _ _
  | tail _ _ ih => exact ih.trans (Nat.le_max_right _ _)

/-- No member of an object nests deeper than all of them. -/
lemma depth_le_depthMembers {member : String × Json} {members : List (String × Json)}
    (within : member ∈ members) : member.2.depth ≤ depthMembers members := by
  induction within with
  | head => exact Nat.le_max_left _ _
  | tail _ _ ih => exact ih.trans (Nat.le_max_right _ _)

/-- What a number stands for is canonical. -/
lemma canonical_of_stands {real? : List Char → Option Float} {p : Parts} {v : Json} (stands : p.Stands real? v) :
    v.Canonical := by
  cases stands with
  | integer whole =>
    obtain ⟨least, below⟩ := Parts.bounds_of_integer? whole
    exact .integer least below
  | real _ _ finite => exact .real finite

end Json

end Formula
