import ChipEight.Decimal.Shortest

/-!
# Layout of decimals

How the digits of a decimal are set out: positionally while the point falls near them, otherwise
with one digit before the point and a power of ten behind.

## Main definitions

* `Decimal.Layout` — the choices of a layout
* `Decimal.Layout.plain` — the layout in which this library shows fractional numbers
* `Decimal.Layout.float` — the text of a `Float`
-/

namespace ChipEight.Decimal

/-- The choices of a layout. A decimal whose first digit stands for `10 ^ e` is written positionally
if `least ≤ e ≤ most`. -/
structure Layout where
  least : Int
  most : Int
  exponentPlaces : Nat
  infinity : String
  notANumber : String

/-- Positional from `0.0001` to below `10 ^ 16`; at least two digits of exponent. -/
def Layout.plain : Layout := ⟨-4, 15, 2, "inf", "nan"⟩

/-- The digits of `n`, filled up with zeros to at least `width` of them. -/
def paddedDigits (width n : Nat) : List Char :=
  List.replicate (width - (Nat.toDigits 10 n).length) '0' ++ Nat.toDigits 10 n

/-- The digits set out with the point after the first `point` of them; a positional number has a
digit on both sides of the point. -/
def positional (digits : List Char) (point : Int) : List Char :=
  if point ≤ 0 then
    ['0', '.'] ++ List.replicate (-point).toNat '0' ++ digits
  else if digits.length ≤ point.toNat then
    digits ++ List.replicate (point.toNat - digits.length) '0' ++ ['.', '0']
  else
    digits.take point.toNat ++ ['.'] ++ digits.drop point.toNat

/-- The digits with the point after the first one, followed by the power of ten. -/
def scientific (places : Nat) (digits : List Char) (exponent : Int) : List Char :=
  let fraction := if digits.length ≤ 1 then [] else '.' :: digits.drop 1
  let sign := if exponent < 0 then '-' else '+'
  digits.take 1 ++ fraction ++ ['e', sign] ++ paddedDigits places exponent.natAbs

/-- A decimal that is not negative, set out. -/
def Layout.decimal (layout : Layout) (d : Number) : List Char :=
  let digits := Nat.toDigits 10 d.digits
  let exponent := if d.digits = 0 then 0 else d.exponent + digits.length - 1
  if layout.least ≤ exponent ∧ exponent ≤ layout.most then positional digits (exponent + 1)
  else scientific layout.exponentPlaces digits exponent

/-- The text of `x`: its shortest decimal, set out. -/
def Layout.float (layout : Layout) (x : Float) : String :=
  if x.isNaN then layout.notANumber
  else
    let negative := 0x8000000000000000 ≤ x.toBits.toNat
    let magnitude :=
      if x.isInf then layout.infinity
      else String.ofList (layout.decimal (shortest (.ofFloat x)))
    if negative then "-" ++ magnitude else magnitude

end ChipEight.Decimal
