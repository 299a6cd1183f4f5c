import Formula.Json.Basic
import Formula.Json.Notation
import Formula.Number.Numeral

/-!
# Reading JSON

`read?` accepts a text that is one JSON value with optional blanks around it. Arrays and objects nest
at most `depthLimit` deep. Objects keep their members as written, repeated keys too.
-/

namespace Formula.Json

/-- How deep arrays and objects may nest. -/
def depthLimit : Nat := 127

/-- Drops the blanks that a text begins with. -/
def skip (s : List Char) : List Char := s.dropWhile isSpace

/-- A piece of a string: a character, or a 16-bit unit written in hexadecimal. -/
inductive Piece where
  | char (c : Char)
  | unit (n : Nat)
deriving DecidableEq

/-- Reads the pieces of a string up to its closing quote. -/
def pieces? : List Char → Option (List Piece × List Char)
  | [] => none
  | '"' :: r => some ([], r)
  | '\\' :: 'u' :: a :: b :: c :: d :: r => do
    let n ← hex4? a b c d
    let (rest, r) ← pieces? r
    some (.unit n :: rest, r)
  | '\\' :: e :: r => do
    let c ← escaped? e
    let (rest, r) ← pieces? r
    some (.char c :: rest, r)
  | c :: r =>
    if c = '\\' ∨ c.toNat < 0x20 then none
    else do
      let (rest, r) ← pieces? r
      some (.char c :: rest, r)

/-- Joins the pieces of a string. Two units that make a pair are one character; a half of a pair
that stands alone is refused. -/
def join? : List Piece → Option (List Char)
  | [] => some []
  | .char c :: rest => (join? rest).map (c :: ·)
  | .unit high :: .unit low :: rest =>
    if isHighUnit high then
      if isLowUnit low then
        (join? rest).map (pairChar high low :: ·)
      else none
    else if isLowUnit high then none
    else (join? (.unit low :: rest)).map (Char.ofNat high :: ·)
  | .unit n :: rest =>
    if isHighUnit n || isLowUnit n then none else (join? rest).map (Char.ofNat n :: ·)

/-- Reads a string after its opening quote. -/
def string? (s : List Char) : Option (List Char × List Char) := do
  let (pieces, r) ← pieces? s
  let text ← join? pieces
  some (text, r)

/-- Reads the digits after a point, of which there must be one. -/
def fraction? : List Char → Option (List Char × List Char)
  | '.' :: r =>
    let ds := Number.Numeral.digits r
    if ds = [] then none else some (ds, Number.Numeral.afterDigits r)
  | r => some ([], r)

/-- Reads an exponent, if there is one. -/
def exponent? : List Char → Option (Option Int × List Char)
  | [] => some (none, [])
  | mark :: r =>
    if mark = 'e' ∨ mark = 'E' then
      let (negative, r) := Number.Numeral.sign r
      let ds := Number.Numeral.digits r
      if ds = [] then none
      else
        let n : Int := Number.Numeral.value ds
        some (some (if negative then -n else n), Number.Numeral.afterDigits r)
    else
      some (none, mark :: r)

/-- A number written with a fraction or an exponent, or too large for an integer; it has to be
finite. -/
def real? (d : Number.Decimal) : Option Json := d.toFinite?.map .real

/-- A number written as digits alone: an integer if 64 bits hold it, where `-0` is none. -/
def whole? (negative : Bool) (n : Nat) : Option Json :=
  let value : Int := if negative then -(n : Int) else n
  if (negative ∧ n = 0) ∨ value < leastInteger ∨ integerLimit ≤ value then real? ⟨negative, n, 0⟩
  else some (.integer value)

def number? (s : List Char) : Option (Json × List Char) := do
  let (negative, s) :=
    match s with
    | '-' :: r => (true, r)
    | r => (false, r)
  let whole := Number.Numeral.digits s
  if whole = [] ∨ (whole.head? = some '0' ∧ 1 < whole.length) then none
  else
    let (fraction, r) ← fraction? (Number.Numeral.afterDigits s)
    let (exponent, r) ← exponent? r
    let value ←
      if fraction = [] ∧ exponent = none then whole? negative (Number.Numeral.value whole)
      else
        real? ⟨negative, Number.Numeral.value (whole ++ fraction),
          exponent.getD 0 - fraction.length⟩
    some (value, r)

/-- Reads entries with commas between them up to a closing mark. Each takes a character at least, so
the length of the text bounds their number. -/
def entries {α : Type} (entry : List Char → Option (α × List Char)) (close : Char) :
    Nat → List Char → Option (List α × List Char)
  | 0, _ => none
  | bound + 1, s => do
    let (first, r) ← entry (skip s)
    match skip r with
    | [] => none
    | mark :: r =>
      if mark = ',' then do
        let (rest, r) ← entries entry close bound r
        some (first :: rest, r)
      else if mark = close then some ([first], r)
      else none

/-- Reads what follows an opening mark: the closing mark, or entries and then the closing mark. -/
def enclosed {α : Type} (entry : List Char → Option (α × List Char)) (close : Char)
    (s : List Char) : Option (List α × List Char) :=
  match skip s with
  | [] => none
  | mark :: r => if mark = close then some ([], r) else entries entry close s.length (mark :: r)

def member? (value : List Char → Option (Json × List Char)) :
    List Char → Option ((String × Json) × List Char)
  | '"' :: s => do
    let (key, r) ← string? s
    match skip r with
    | ':' :: r => do
      let (v, r) ← value (skip r)
      some ((String.ofList key, v), r)
    | _ => none
  | _ => none

/-- Reads a value in which arrays and objects nest at most `depth` deep. -/
def value? : (depth : Nat) → List Char → Option (Json × List Char)
  | _, 'n' :: 'u' :: 'l' :: 'l' :: r => some (.null, r)
  | _, 't' :: 'r' :: 'u' :: 'e' :: r => some (.bool true, r)
  | _, 'f' :: 'a' :: 'l' :: 's' :: 'e' :: r => some (.bool false, r)
  | _, '"' :: s => (string? s).map fun (text, r) => (.string (String.ofList text), r)
  | depth + 1, '[' :: s =>
    (enclosed (value? depth) ']' s).map fun (items, r) => (.array items, r)
  | depth + 1, '\x7b' :: s =>
    (enclosed (member? (value? depth)) '\x7d' s).map fun (members, r) => (.object members, r)
  | _, s => number? s

/-- Reads a text that is one value, as written. -/
def read? (s : List Char) : Option Json :=
  match value? depthLimit (skip s) with
  | some (value, r) => if skip r = [] then some value else none
  | none => none

end Formula.Json
