import Formula.Json.Printer
import Formula.Json.Reader
import Formula.Proofs.Json.Grammar

/-!
# JSON strings

However the grammar allows a string to be written, it is read as what stands between its quotes
(`InQuotes.exists_tail`); and a string is written as the grammar allows (`inQuotes_writeString`).
-/

namespace Formula.Json

/-- Adds a piece that has been read before the others. -/
def Piece.push (piece : Piece) : List Piece × List Char → List Piece × List Char
  | (pieces, r) => (piece :: pieces, r)

variable {c : Char} {s text : List Char}

/-- A letter behind a backslash is read as the character that it stands for. -/
lemma pieces?_escaped {letter : Char} (escape : escaped? letter = some c) (s : List Char) :
    pieces? ('\\' :: letter :: s) = (pieces? s).map (Piece.char c).push := by
  have no_unit : letter ≠ 'u' := by
    rintro rfl
    cases escape
  rw [pieces?, escape]
  · cases pieces? s <;> rfl
  · exact fun _ _ _ _ _ unit _ => no_unit unit

/-- Four hexadecimal digits behind their mark are read as a unit. -/
lemma pieces?_unit {d₁ d₂ d₃ d₄ : Char} {n : Nat} (digits : hex4? d₁ d₂ d₃ d₄ = some n) (s : List Char) :
    pieces? ('\\' :: 'u' :: d₁ :: d₂ :: d₃ :: d₄ :: s) = (pieces? s).map (Piece.unit n).push := by
  rw [pieces?, digits]
  cases pieces? s <;> rfl

/-- A character that need not be escaped is read as it is. -/
lemma pieces?_char (no_quote : c ≠ '"') (no_backslash : c ≠ '\\') (printable : ¬c.toNat < 0x20)
    (s : List Char) : pieces? (c :: s) = (pieces? s).map (Piece.char c).push := by
  rw [pieces?, if_neg (not_or.mpr ⟨no_backslash, printable⟩)]
  · cases pieces? s <;> rfl
  · exact no_quote
  · exact fun _ _ _ _ _ backslash _ => no_backslash backslash
  · exact fun _ _ backslash _ => no_backslash backslash

/-- A unit that is no half of a pair is a character. -/
lemma join?_unit {n : Nat} (no_high : isHighUnit n = false) (no_low : isLowUnit n = false)
    (pieces : List Piece) : join? (.unit n :: pieces) = (join? pieces).map (Char.ofNat n :: ·) := by
  cases pieces with
  | nil => simp [join?, no_high, no_low]
  | cons piece pieces => cases piece <;> simp [join?, no_high, no_low]

/-- Two units that make a pair are one character. -/
lemma join?_pair {high low : Nat} (isHigh : isHighUnit high = true) (isLow : isLowUnit low = true)
    (pieces : List Piece) :
    join? (.unit high :: .unit low :: pieces) = (join? pieces).map (pairChar high low :: ·) := by
  rw [join?, if_pos isHigh, if_pos isLow]

/-- What may be written for a string is read in pieces, up to the quote behind it. -/
lemma Quotes.exists_pieces (h : Quotes s text) (r : List Char) :
    ∃ pieces, pieces? (s ++ '"' :: r) = some (pieces, r) ∧ join? pieces = some text := by
  induction h with
  | nil => exact ⟨[], rfl, rfl⟩
  | @plain c _ _ no_quote no_backslash printable _ ih =>
    obtain ⟨pieces, read, joined⟩ := ih
    refine ⟨.char c :: pieces, ?_, by rw [join?, joined]; rfl⟩
    rw [List.cons_append, pieces?_char no_quote no_backslash (Nat.not_lt.mpr printable), read]
    rfl
  | @escaped _ c _ _ stands _ ih =>
    obtain ⟨pieces, read, joined⟩ := ih
    refine ⟨.char c :: pieces, ?_, by rw [join?, joined]; rfl⟩
    rw [List.cons_append, List.cons_append, pieces?_escaped stands, read]
    rfl
  | @unit _ _ _ _ n _ _ digits no_high no_low _ ih =>
    obtain ⟨pieces, read, joined⟩ := ih
    refine ⟨.unit n :: pieces, ?_, by rw [join?_unit no_high no_low, joined]; rfl⟩
    simp only [List.cons_append]
    rw [pieces?_unit digits, read]
    rfl
  | @pair _ _ _ _ _ _ _ _ high low _ _ high_digits low_digits isHigh isLow _ ih =>
    obtain ⟨pieces, read, joined⟩ := ih
    refine ⟨.unit high :: .unit low :: pieces, ?_, by rw [join?_pair isHigh isLow, joined]; rfl⟩
    simp only [List.cons_append]
    rw [pieces?_unit high_digits, pieces?_unit low_digits, read]
    rfl

/-- A string in quotes is read up to the closing one. -/
lemma InQuotes.exists_tail (h : InQuotes s text) :
    ∃ tail, s = '"' :: tail ∧ ∀ r, string? (tail ++ r) = some (text, r) := by
  obtain ⟨quoted, rfl, quotes⟩ := h
  refine ⟨quoted ++ ['"'], rfl, fun r => ?_⟩
  obtain ⟨pieces, read, joined⟩ := quotes.exists_pieces r
  rw [List.append_assoc, string?]
  exact (congrArg (Option.bind · _) read).trans (congrArg (Option.bind · _) joined)

/-- A character is written as the grammar allows. -/
lemma Quotes.escape (h : Quotes s text) (c : Char) : Quotes (escapeChar c ++ s) (c :: text) := by
  unfold escapeChar
  split
  · exact .escaped rfl h
  · exact .escaped rfl h
  · exact .escaped rfl h
  · exact .escaped rfl h
  · exact .escaped rfl h
  · exact .escaped rfl h
  · exact .escaped rfl h
  · next no_quote no_backslash _ _ _ _ _ =>
    dsimp only
    split
    · next control =>
      have digits : ∀ n < 0x20, hex4? '0' '0' (n / 16).digitChar (n % 16).digitChar = some n := by decide
      have whole : ∀ n < 0x20, isHighUnit n = false ∧ isLowUnit n = false := by decide
      obtain ⟨no_high, no_low⟩ := whole c.toNat control
      have unit := Quotes.unit (digits c.toNat control) no_high no_low h
      rwa [Char.ofNat_toNat] at unit
    · next printable => exact .plain no_quote no_backslash (Nat.not_lt.mp printable) h

/-- A string is written in quotes. -/
lemma inQuotes_writeString (text : List Char) : InQuotes (writeString text) text := by
  refine ⟨text.flatMap escapeChar, rfl, ?_⟩
  induction text with
  | nil => exact .nil
  | cons c text ih =>
    rw [List.flatMap_cons]
    exact ih.escape c

end Formula.Json
