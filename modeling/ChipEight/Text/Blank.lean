import ChipEight.Text.Ranges

/-!
# Blanks

The blank characters of a text, the narrower set that may surround a numeral, and trimming.

## Main definitions

* `Text.isBlank` — white space and the four information separators
* `Text.isNumeralBlank` — white space alone
* `Text.trim` — a text without the leading and trailing characters of a class
-/

namespace ChipEight.Text

/-- The white space of Unicode. -/
def whiteSpace : Ranges := [
  (0x9, 0xD), (0x20, 0x20), (0x85, 0x85), (0xA0, 0xA0), (0x1680, 0x1680), (0x2000, 0x200A),
  (0x2028, 0x2029), (0x202F, 0x202F), (0x205F, 0x205F), (0x3000, 0x3000)
]

/-- The separators of files, groups, records and units. -/
def informationSeparators : Ranges := [(0x1C, 0x1F)]

/-- Whether `c` may surround a numeral. -/
def isNumeralBlank (c : Char) : Bool :=
  whiteSpace.contains c

/-- Whether `c` is blank in a text. -/
def isBlank (c : Char) : Bool :=
  whiteSpace.contains c || informationSeparators.contains c

theorem isBlank_of_isWhitespace (c : Char) (h : c.isWhitespace = true) : isBlank c = true := by
  simp only [Char.isWhitespace, Bool.or_eq_true, decide_eq_true_eq] at h
  rcases h with ((rfl | rfl) | rfl) | rfl <;> decide

/-- The text between the first and the last character outside the class `p`. -/
def trim (p : Char → Bool) (s : List Char) : List Char :=
  ((s.dropWhile p).reverse.dropWhile p).reverse

end ChipEight.Text
