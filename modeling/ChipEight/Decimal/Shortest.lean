/-!
# Shortest decimals of binary numbers

A binary number of limited precision stands for all reals that round to it. Among the decimals in
that interval this module finds one with the fewest digits, and of those the one nearest to the
number.

All arithmetic is exact. A number `m * 2 ^ e` and the ends of its interval are written as whole
multiples of one power of ten, so that a decimal with `n` digits is a multiple of a power of ten
there.

## Main definitions

* `Decimal.Number` — a decimal number
* `Decimal.Binary` — a positive binary number with its precision
* `Decimal.Binary.ofFloat` — the parts of a positive finite `Float`
* `Decimal.shortest` — its shortest decimal
-/

namespace ChipEight.Decimal

/-- The decimal `digits * 10 ^ exponent`. -/
structure Number where
  digits : Nat
  exponent : Int
  deriving DecidableEq, Repr

/-- The number `mantissa * 2 ^ exponent`, whose neighbours are `2 ^ exponent` away; `narrow` tells
that the lower neighbour is only half as far away. -/
structure Binary where
  mantissa : Nat
  exponent : Int
  narrow : Bool
  deriving DecidableEq, Repr

/-- The parts of the magnitude of a finite `Float`. -/
def Binary.ofFloat (x : Float) : Binary :=
  let bits := x.toBits.toNat
  let fraction : Nat := bits % 0x10000000000000
  let scale : Nat := bits / 0x10000000000000 % 2048
  if scale = 0 then ⟨fraction, -1074, false⟩
  else ⟨0x10000000000000 + fraction, scale - 1075, fraction = 0 && 1 < scale⟩

/-- The whole number of units `10 ^ min e 0` in `n * 2 ^ e`. -/
def units (n : Nat) (e : Int) : Nat :=
  if 0 ≤ e then n * Nat.pow 2 e.toNat else n * Nat.pow 5 (-e).toNat

/-- The number of digits of `n` in base ten. -/
def digitCount (n : Nat) : Nat :=
  (Nat.toDigits 10 n).length

/-- The multiple of `unit` nearest to `middle` among those for which `inside` holds, as a number of
units; of two at the same distance the even one. -/
def nearest (inside : Nat → Bool) (unit middle : Nat) : Option Nat :=
  let below := middle / unit
  let above := below + 1
  match inside (below * unit), inside (above * unit) with
  | false, false => none
  | true, false => some below
  | false, true => some above
  | true, true =>
    let down := middle - below * unit
    let up := above * unit - middle
    if down < up ∨ (down = up ∧ below % 2 = 0) then some below else some above

/-- The decimal without the zeros at the end of its digits. -/
def Number.trimmed (d : Number) : Number :=
  let zeros := ((Nat.toDigits 10 d.digits).reverse.takeWhile (· == '0')).length
  if d.digits = 0 then ⟨0, 0⟩ else ⟨d.digits / Nat.pow 10 zeros, d.exponent + zeros⟩

/-- The most digits that the shortest decimal of a number of 53 bits can have. -/
def maxDigits : Nat := 17

/-- The decimal with the fewest digits that rounds to `b`, and of those the nearest to `b`. -/
def shortest (b : Binary) : Number :=
  -- a quarter of the distance to the upper neighbour is a whole number of units
  let quarter := b.exponent - 2
  let middle := units (4 * b.mantissa) quarter
  let low := units (4 * b.mantissa - if b.narrow then 1 else 2) quarter
  let high := units (4 * b.mantissa + 2) quarter
  -- an end of the interval rounds to the number with the even mantissa
  let inside (n : Nat) : Bool :=
    if b.mantissa % 2 = 0 then low ≤ n && n ≤ high else low < n && n < high
  let length := digitCount middle
  let attempt (n : Nat) : Option Number :=
    let dropped := length - (n + 1)
    (nearest inside (Nat.pow 10 dropped) middle).map (⟨·, min quarter 0 + dropped⟩)
  (((List.range maxDigits).findSome? attempt).getD ⟨middle, min quarter 0⟩).trimmed

end ChipEight.Decimal
