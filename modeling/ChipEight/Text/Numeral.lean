import ChipEight.Text.Blank
import ChipEight.Text.Digit
import ChipEight.Text.Quoted

/-!
# Numerals

Whole numbers written in decimal. White space may surround the numeral, one sign may precede it, and
single underscores may stand between its digits, which may be the decimal digits of any script. A
numeral has at most `Numeral.maxDigits` digits.

## Main definitions

* `Numeral.read` — the number that a text denotes
* `Numeral.Error` — why a text denotes none, with its wording in `Numeral.Error.message`
-/

namespace ChipEight.Numeral

open Text

/-- Why a text is not a numeral. -/
inductive Error where
  /-- It does not have the form of a numeral. -/
  | malformed
  /-- It starts with a run of this many digits, which is more than `maxDigits`. -/
  | tooLong (digits : Nat)
  deriving DecidableEq, Repr

/-- The most digits that a numeral may have. -/
def maxDigits : Nat := 4300

/-- The sign in front of a numeral (`true` for minus) and what follows it. -/
def signed : List Char → Bool × List Char
  | '-' :: rest => (true, rest)
  | '+' :: rest => (false, rest)
  | rest => (false, rest)

/-- Whether `c` can stand in the digit part of a numeral. -/
def isBody (c : Char) : Bool :=
  c == '_' || (decimalValue? c).isSome

/-- Whether each underscore of a digit part stands between two digits, and the part ends in a digit;
`digit` tells whether a digit stands before the part. -/
def separated (digit : Bool) : List Char → Bool
  | [] => digit
  | c :: rest => if c == '_' then digit && separated false rest else separated true rest

/-- The number written by the digits of a digit part. -/
def value (body : List Char) : Nat :=
  (body.filterMap decimalValue?).foldl (fun n d => 10 * n + d) 0

/-- The number that the text `s` denotes. -/
def read (s : String) : Except Error Int :=
  let (negative, rest) := signed (trim isNumeralBlank s.toList)
  let body := rest.takeWhile isBody
  let digits := (body.filterMap decimalValue?).length
  if !separated false body then .error .malformed
  else if maxDigits < digits then .error (.tooLong digits)
  else if body.length < rest.length then .error .malformed
  else .ok (if negative then -(value body : Int) else value body)

/-- The most characters of a faulty text that a message shows. -/
def shownCharacters : Nat := 200

/-- The wording of the error that reading the text `s` gave. -/
def Error.message (s : String) : Error → String
  | .malformed =>
    "invalid literal for int() with base 10: "
      ++ String.ofList ((quoted s).toList.take shownCharacters)
  | .tooLong digits =>
    s!"Exceeds the limit ({maxDigits} digits) for integer string conversion: value has "
      ++ s!"{digits} digits; use sys.set_int_max_str_digits() to increase the limit"

end ChipEight.Numeral
