/-!
# Byte offsets

Lengths and offsets of a text count the bytes of its UTF-8 encoding. `cut` splits a text at an
offset; an offset inside a character counts as the offset before that character, and `cut?` refuses
it.
-/

namespace Formula.Text

/-- The number of bytes a text takes in UTF-8. -/
def byteLength (s : List Char) : Nat := (s.map Char.utf8Size).foldr (· + ·) 0

/-- The longest beginning of a text that takes at most `n` bytes, and the rest. -/
def cut : Nat → List Char → List Char × List Char
  | _, [] => ([], [])
  | n, c :: s =>
    if c.utf8Size ≤ n then
      let (front, rest) := cut (n - c.utf8Size) s
      (c :: front, rest)
    else
      ([], c :: s)

/-- Splits a text after exactly `n` bytes, if a character ends there. -/
def cut? (n : Nat) (s : List Char) : Option (List Char × List Char) :=
  let halves := cut n s
  if byteLength halves.1 = n then some halves else none

/-- The empty text has no bytes. -/
@[simp] theorem byteLength_nil : byteLength [] = 0 := rfl

/-- The first character adds its bytes. -/
@[simp] theorem byteLength_cons (c : Char) (s : List Char) :
    byteLength (c :: s) = c.utf8Size + byteLength s := rfl

/-- The bytes of two texts add up. -/
@[simp] theorem byteLength_append (s t : List Char) :
    byteLength (s ++ t) = byteLength s + byteLength t := by
  induction s with
  | nil => simp
  | cons c s ih => simp [ih, Nat.add_assoc]

/-- Cutting loses nothing. -/
theorem cut_append (n : Nat) (s : List Char) : (cut n s).1 ++ (cut n s).2 = s := by
  induction s generalizing n with
  | nil => rfl
  | cons c s ih =>
    rw [cut]
    split
    · simpa using ih _
    · rfl

/-- Cutting after the bytes of a beginning gives that beginning back. -/
theorem cut_byteLength (s t : List Char) : cut (byteLength s) (s ++ t) = (s, t) := by
  induction s with
  | nil =>
    cases t with
    | nil => rfl
    | cons c t =>
      have pos := Char.utf8Size_pos c
      simp [cut, Nat.ne_of_gt pos]
  | cons c s ih => simp [cut, ih]

end Formula.Text
