import ChipEight.Text.Numeral

/-!
# On/off switches

A switch is given by a text, such as the value of an environment variable. A number of at least one
and the words `true`, `yes` and `on` turn it on; blanks around them and the case of the letters do
not matter.

## Main definitions

* `Switch.read` — whether a text turns the switch on
-/

namespace ChipEight.Switch

open Text

/-- The words that turn a switch on. -/
def words : List String := ["true", "yes", "on"]

/-- The text that a switch is judged by: without surrounding blanks, ASCII letters in lower case. No
other letter has one of `words` among its lower-case forms. -/
def normal (text : String) : String :=
  String.ofList ((trim isBlank text.toList).map Char.toLower)

/-- Whether all of a text, which is not empty, is digits. -/
def isDigits (text : String) : Bool :=
  !text.toList.isEmpty && text.toList.all isDigit

/-- Whether `text` turns the switch on. A text of digits has to be a numeral. -/
def read (text : String) : Except Numeral.Error Bool :=
  let text := normal text
  if isDigits text then (Numeral.read text).map (1 ≤ ·)
  else .ok (words.contains text)

/-- The state of a switch of which no text is given. -/
def absent : String := "0"

end ChipEight.Switch
