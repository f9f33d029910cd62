/-!
# Hexadecimal text

Numbers in base sixteen with lower-case digits, filled up with zeros to a least width. A sign counts
as one place of the width and stands before the zeros.

## Main definitions

* `Text.hexDigits` — the digits of a natural number
* `Text.hex` — an integer in at least a given number of places
-/

namespace ChipEight.Text

/-- The digits of `n` in base sixteen, without leading zeros. -/
def hexDigits (n : Nat) : List Char :=
  Nat.toDigits 16 n

/-- The digits of `n` in base sixteen, at least `width` of them. -/
def hexDigitsPadded (width n : Nat) : List Char :=
  List.replicate (width - (hexDigits n).length) '0' ++ hexDigits n

/-- The integer `n` in base sixteen, in at least `width` places. -/
def hex (width : Nat) (n : Int) : String :=
  match n with
  | .ofNat k => String.ofList (hexDigitsPadded width k)
  | .negSucc k => String.ofList ('-' :: hexDigitsPadded (width - 1) (k + 1))

end ChipEight.Text
