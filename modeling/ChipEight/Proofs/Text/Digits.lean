import ChipEight.Text.Hex
import Mathlib.Algebra.Group.Nat.Defs

/-!
# Reading digits

The digits of a number, in decimal or in hexadecimal, determine the number. Leading zeros do not
matter, and a number that fits has just as many hexadecimal digits as are asked for.

## Main definitions

* `Text.digitValue` — the value of a digit
* `Text.ofDigits` — the number that digits in a base stand for

## Main results

* `Text.toDigits_induction` — the digits of a number, one after the other
* `Text.ofDigits_toDigits`, `Text.ofDigits_hexDigitsPadded` — the digits of a number stand for it
* `Text.length_hexDigitsPadded` — how many digits a number has that fits
* `Text.isAlphanum_of_mem_toDigits`, `Text.isAlphanum_of_mem_hexDigitsPadded` — digits are figures
  and letters
-/

namespace ChipEight.Text

/-- The value of a digit, which is a figure or one of the letters `a` to `f`. -/
def digitValue (c : Char) : Nat :=
  -- `0` has the code 48, and `a`, which stands for ten, has the code 97
  if c.isDigit then c.toNat - 48 else c.toNat - 87

/-- The number that digits in a base stand for, the highest one first. -/
def ofDigits (base : Nat) (digits : List Char) : Nat :=
  digits.foldl (fun n c => base * n + digitValue c) 0

variable {base n width : Nat}

theorem digitValue_digitChar (digit : n < 16) : digitValue n.digitChar = n := by
  have all : ∀ d < 16, digitValue (Nat.digitChar d) = d := by decide
  exact all n digit

theorem ofDigits_concat (base : Nat) (digits : List Char) (c : Char) :
    ofDigits base (digits ++ [c]) = base * ofDigits base digits + digitValue c := by
  simp only [ofDigits, List.foldl_append, List.foldl_cons, List.foldl_nil]

/-- What holds of the digits of a number: it holds of a single digit, and when it holds of the
digits of a number it also holds with one more digit behind them. -/
theorem toDigits_induction {motive : Nat → List Char → Prop} (atLeast : 1 < base)
    (single : ∀ d < base, motive d [d.digitChar])
    (concat : ∀ n digits, ∀ d < base, motive n digits →
      motive (base * n + d) (digits ++ [d.digitChar])) (n : Nat) :
    motive n (Nat.toDigits base n) := by
  induction n using Nat.strongRecOn with
  | ind n ih =>
    by_cases small : n < base
    · rw [Nat.toDigits_of_lt_base small]
      exact single n small
    · -- the last digit is the remainder, and those before it are the digits of the quotient
      have quotient := ih (n / base) (Nat.div_lt_self (by omega) atLeast)
      have longer := concat _ _ (n % base) (Nat.mod_lt n (by omega)) quotient
      rw [Nat.div_add_mod n base] at longer
      rw [Nat.toDigits_of_base_le atLeast (Nat.le_of_not_lt small)]
      exact longer

/-- The digits of a number stand for it. -/
theorem ofDigits_toDigits (atLeast : 1 < base) (atMost : base ≤ 16) (n : Nat) :
    ofDigits base (Nat.toDigits base n) = n := by
  refine toDigits_induction (motive := fun n digits => ofDigits base digits = n) atLeast ?_ ?_ n
  · intro d digit
    have value := digitValue_digitChar (Nat.lt_of_lt_of_le digit atMost)
    simpa [ofDigits] using value
  · intro n digits d digit ih
    rw [ofDigits_concat, ih, digitValue_digitChar (Nat.lt_of_lt_of_le digit atMost)]

theorem ofDigits_zeros (base k : Nat) (digits : List Char) :
    ofDigits base (List.replicate k '0' ++ digits) = ofDigits base digits := by
  induction k with
  | zero => rfl
  | succ k ih =>
    rw [List.replicate_succ, List.cons_append, ← ih]
    rfl

/-- So do its hexadecimal digits when they are filled up with zeros. -/
theorem ofDigits_hexDigitsPadded (width n : Nat) : ofDigits 16 (hexDigitsPadded width n) = n := by
  rw [hexDigitsPadded, ofDigits_zeros]
  exact ofDigits_toDigits (by decide) (by decide) n

/-- A number that fits has just as many digits as are asked for. -/
theorem length_hexDigitsPadded (some : 0 < width) (fits : n < 16 ^ width) :
    (hexDigitsPadded width n).length = width := by
  have atMost : (hexDigits n).length ≤ width :=
    (Nat.length_toDigits_le_iff (by decide) some).mpr fits
  rw [hexDigitsPadded, List.length_append, List.length_replicate]
  omega

theorem toList_hex (width n : Nat) : (hex width n).toList = hexDigitsPadded width n :=
  String.toList_ofList

/-! ## The characters of numbers -/

theorem isAlphanum_digitChar (digit : n < 16) : n.digitChar.isAlphanum = true := by
  have all : ∀ d < 16, (Nat.digitChar d).isAlphanum = true := by decide
  exact all n digit

/-- Digits are figures and letters. -/
theorem isAlphanum_of_mem_toDigits (atLeast : 1 < base) (atMost : base ≤ 16) (n : Nat) :
    ∀ c ∈ Nat.toDigits base n, c.isAlphanum = true := by
  have figure : ∀ d < base, (Nat.digitChar d).isAlphanum = true := fun _ digit =>
    isAlphanum_digitChar (Nat.lt_of_lt_of_le digit atMost)
  refine toDigits_induction (motive := fun _ digits => ∀ c ∈ digits, c.isAlphanum = true)
    atLeast ?_ ?_ n
  · intro d digit c member
    rw [List.mem_singleton.mp member]
    exact figure d digit
  · intro n digits d digit ih c member
    rcases List.mem_append.mp member with early | last
    · exact ih c early
    · rw [List.mem_singleton.mp last]
      exact figure d digit

theorem isAlphanum_of_mem_hexDigitsPadded {c : Char} (member : c ∈ hexDigitsPadded width n) :
    c.isAlphanum = true := by
  rcases List.mem_append.mp member with zero | digit
  · rw [List.eq_of_mem_replicate zero]
    rfl
  · exact isAlphanum_of_mem_toDigits (by decide) (by decide) n c digit

end ChipEight.Text
