import QuickLaunch.Text.Ranges

/-!
# Blank text

Which characters are blank, and what is left of a text without the blanks at its ends. Line breaks,
the separators of the control characters and the spaces of every script are blank; a zero width
space is not.

* `trimChars_eq_nil_iff`: a text is blank when trimming leaves nothing of it.
-/

namespace QuickLaunch.Text

/-- The blank characters. -/
def blankRanges : List Range := [
  (0x09, 0x0d), (0x1c, 0x20), (0x85, 0x85), (0xa0, 0xa0), (0x1680, 0x1680), (0x2000, 0x200a),
  (0x2028, 0x2029), (0x202f, 0x202f), (0x205f, 0x205f), (0x3000, 0x3000)]

/-- Whether a character is blank. -/
def isBlankChar (c : Char) : Bool :=
  inRanges blankRanges c.toNat

/-- The text without the blanks at its start. -/
def trimLeft (s : List Char) : List Char :=
  s.dropWhile isBlankChar

/-- The text without the blanks at its end. -/
def trimRight (s : List Char) : List Char :=
  (s.reverse.dropWhile isBlankChar).reverse

/-- The text without the blanks at its ends. -/
def trimChars (s : List Char) : List Char :=
  trimRight (trimLeft s)

/-- Nothing but blanks. -/
def isBlankChars (s : List Char) : Bool :=
  s.all isBlankChar

/-- Nothing but blanks, or no text at all. -/
def isBlank : Option String → Bool
  | none => true
  | some s => isBlankChars s.toList

/-! ## Laws -/

/-- Nothing is left of a text without its blanks at the start when it is blank. -/
theorem trimLeft_eq_nil_iff {s : List Char} : trimLeft s = [] ↔ isBlankChars s = true := by
  induction s with
  | nil => simp [trimLeft, isBlankChars]
  | cons c rest ih =>
    rw [trimLeft, isBlankChars] at *
    by_cases h : isBlankChar c = true <;> simp [h, ih]

theorem isBlankChars_reverse (s : List Char) : isBlankChars s.reverse = isBlankChars s := by
  simp [isBlankChars]

/-- Nothing is left of a text without its blanks at the end when it is blank. -/
theorem trimRight_eq_nil_iff {s : List Char} : trimRight s = [] ↔ isBlankChars s = true := by
  rw [trimRight, List.reverse_eq_nil_iff, ← trimLeft, trimLeft_eq_nil_iff, isBlankChars_reverse]

theorem isBlankChars_trimLeft (s : List Char) : isBlankChars (trimLeft s) = isBlankChars s := by
  induction s with
  | nil => rfl
  | cons c rest ih =>
    rw [trimLeft, isBlankChars] at *
    by_cases h : isBlankChar c = true <;> simp_all [isBlankChars]

/-- A text is blank when trimming leaves nothing. -/
theorem trimChars_eq_nil_iff {s : List Char} : trimChars s = [] ↔ isBlankChars s = true := by
  rw [trimChars, trimRight_eq_nil_iff, isBlankChars_trimLeft]

end QuickLaunch.Text
