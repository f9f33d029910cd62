import ChipEight.Text.Hex
import ChipEight.Text.Printable

/-!
# Quoted text

A text between quotes, on one line and in printable characters. Single quotes are used unless the
text holds a single quote and no double quote. The quote in use and the backslash are escaped; what
is not printable is written by name (tab, line feed, carriage return) or by its code point.

## Main definitions

* `Text.quoted` — the quoted form of a text
-/

namespace ChipEight.Text

/-- The quote that surrounds the text `s`. -/
def quoteOf (s : List Char) : Char :=
  if s.contains '\'' && !s.contains '"' then '"' else '\''

/-- The form of one character between quotes `quote`. -/
def escaped (quote : Char) (c : Char) : List Char :=
  if c = quote ∨ c = '\\' then ['\\', c]
  else if c = '\n' then ['\\', 'n']
  else if c = '\r' then ['\\', 'r']
  else if c = '\t' then ['\\', 't']
  else if isPrintable c then [c]
  else if c.toNat ≤ 0xFF then '\\' :: 'x' :: hexDigitsPadded 2 c.toNat
  else if c.toNat ≤ 0xFFFF then '\\' :: 'u' :: hexDigitsPadded 4 c.toNat
  else '\\' :: 'U' :: hexDigitsPadded 8 c.toNat

/-- The text `s` between quotes. -/
def quoted (s : String) : String :=
  let quote := quoteOf s.toList
  String.ofList ([quote] ++ s.toList.flatMap (escaped quote) ++ [quote])

end ChipEight.Text
