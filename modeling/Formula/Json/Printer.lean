import Formula.Json.Basic
import Formula.Number.Numeral

/-!
# Writing JSON

Values are written without blanks. In a string only the quote, the backslash and control characters
are escaped.
-/

namespace Formula.Json

/-- Writes one character of a string. -/
def escapeChar (c : Char) : List Char :=
  match c with
  | '"' => ['\\', '"']
  | '\\' => ['\\', '\\']
  | '\n' => ['\\', 'n']
  | '\r' => ['\\', 'r']
  | '\t' => ['\\', 't']
  | '\x08' => ['\\', 'b']
  | '\x0c' => ['\\', 'f']
  | c =>
    let n := c.toNat
    if n < 0x20 then ['\\', 'u', '0', '0', (n / 16).digitChar, (n % 16).digitChar] else [c]

/-- Writes a string between quotes. -/
def writeString (s : List Char) : List Char := '"' :: s.flatMap escapeChar ++ ['"']

def writeInteger (n : Int) : List Char :=
  if n < 0 then '-' :: Nat.toDigits 10 n.natAbs else Nat.toDigits 10 n.natAbs

/-- Writes a real number, or `null` if it is not finite. -/
def writeReal (x : Float) : List Char := (Number.Format.json.write x).toList

mutual

def write : Json → List Char
  | .null => ['n', 'u', 'l', 'l']
  | .bool true => ['t', 'r', 'u', 'e']
  | .bool false => ['f', 'a', 'l', 's', 'e']
  | .integer n => writeInteger n
  | .real x => writeReal x
  | .string s => writeString s.toList
  | .array items => '[' :: writeItems items ++ [']']
  | .object members => '\x7b' :: writeMembers members ++ ['\x7d']

/-- Writes the items of an array with commas between them. -/
def writeItems : List Json → List Char
  | [] => []
  | [item] => write item
  | item :: rest => write item ++ ',' :: writeItems rest

/-- Writes the members of an object with commas between them. -/
def writeMembers : List (String × Json) → List Char
  | [] => []
  | [(key, value)] => writeString key.toList ++ ':' :: write value
  | (key, value) :: rest => writeString key.toList ++ ':' :: write value ++ ',' :: writeMembers rest

end

def render (value : Json) : String := String.ofList value.write

end Formula.Json
