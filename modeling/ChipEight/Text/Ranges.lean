/-!
# Sets of characters given by ranges

The properties of characters that this library needs beyond ASCII are tables of code point ranges.

## Main definitions

* `Text.Ranges` — a list of inclusive ranges of code points
* `Text.Ranges.contains` — whether a character lies in one of them
-/

namespace ChipEight.Text

/-- A set of code points as a list of inclusive ranges. -/
abbrev Ranges := List (Nat × Nat)

/-- Whether the code point of `c` lies in one of the ranges. -/
def Ranges.contains (ranges : Ranges) (c : Char) : Bool :=
  ranges.any fun (low, high) => low ≤ c.toNat && c.toNat ≤ high

end ChipEight.Text
