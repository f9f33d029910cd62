import ChipEight.Text.Numeral
import Mathlib.Data.List.Basic
import Mathlib.Data.List.TakeWhile
import Mathlib.Data.Nat.Digits.Defs

/-!
# Reading decimal numbers

A number in decimal figures, with a minus sign or without, is read as this number, also with zeros
in front. Only the number of its figures is limited. The digits of other scripts are read in the
same way, up to the first digit that belongs to no positional script.

## Main definitions

* `Numeral.leading` — the digits of a text that are read
* `Numeral.Spells` — digits that stand for certain values
* `Literal` — a number in decimal figures, with its text in `Literal.text` and its value in
  `Literal.value`

## Main results

* `Numeral.read_of_digits` — what reading a text of digits comes to
* `Numeral.Spells.value_eq` — the number that is read is the one that is written in base ten
* `Numeral.read_text` — a number in decimal figures is read
-/

namespace ChipEight

namespace Text

/-! ## Digits, signs and blanks -/

/-- No range of one set of characters meets a range of the other. -/
def Ranges.Apart (ranges others : Ranges) : Prop :=
  ∀ range ∈ ranges, ∀ other ∈ others, range.2 < other.1 ∨ other.2 < range.1

instance (ranges others : Ranges) : Decidable (Ranges.Apart ranges others) :=
  inferInstanceAs
    (Decidable (∀ range ∈ ranges, ∀ other ∈ others, range.2 < other.1 ∨ other.2 < range.1))

theorem Ranges.contains_iff {ranges : Ranges} {c : Char} :
    ranges.contains c = true ↔ ∃ range ∈ ranges, range.1 ≤ c.toNat ∧ c.toNat ≤ range.2 := by
  simp [Ranges.contains]

theorem Ranges.Apart.contains_eq_false {ranges others : Ranges} (apart : ranges.Apart others)
    {c : Char} (inside : ranges.contains c = true) : others.contains c = false := by
  obtain ⟨range, member, low, high⟩ := Ranges.contains_iff.mp inside
  refine Bool.eq_false_iff.mpr fun also => ?_
  obtain ⟨other, otherMember, otherLow, otherHigh⟩ := Ranges.contains_iff.mp also
  have := apart range member other otherMember
  omega

/-- The ranges of the digits of both sorts. -/
def digitRanges : Ranges :=
  decimalZeros.map (fun first => (first, first + 9)) ++ looseDigits

theorem contains_of_isDigit {c : Char} (digit : isDigit c = true) :
    digitRanges.contains c = true := by
  rw [isDigit, Bool.or_eq_true] at digit
  rcases digit with decimal | loose
  · obtain ⟨first, member, value⟩ := List.findSome?_isSome_iff.mp decimal
    split at value
    · next within =>
      exact Ranges.contains_iff.mpr ⟨(first, first + 9),
        List.mem_append_left _ (List.mem_map_of_mem member), within.1,
        Nat.le_of_lt_succ within.2⟩
    · cases value
  · obtain ⟨range, member, within⟩ := Ranges.contains_iff.mp loose
    exact Ranges.contains_iff.mpr ⟨range, List.mem_append_right _ member, within⟩

theorem isNumeralBlank_of_isDigit {c : Char} (digit : isDigit c = true) :
    isNumeralBlank c = false := by
  have apart : digitRanges.Apart whiteSpace := by decide +kernel
  exact apart.contains_eq_false (contains_of_isDigit digit)

/-- A figure is a digit. -/
theorem isDigit_of_figure {c : Char} (figure : c.isDigit = true) : isDigit c = true := by
  rw [isDigit, decimalValue?_of_isDigit figure, Option.isSome_some, Bool.true_or]

/-- A text without characters of a class is left as it is when they are trimmed. -/
theorem trim_eq_self {p : Char → Bool} {s : List Char} (kept : ∀ c ∈ s, p c = false) :
    trim p s = s := by
  have dropped : ∀ s : List Char, (∀ c ∈ s, p c = false) → s.dropWhile p = s := fun s kept =>
    List.dropWhile_eq_self_iff.mpr fun _ => by simp [kept s[0] (List.getElem_mem _)]
  have reversed : ∀ c ∈ s.reverse, p c = false :=
    fun c member => kept c (List.mem_reverse.mp member)
  rw [trim, dropped s kept, dropped s.reverse reversed, List.reverse_reverse]

end Text

open Text

namespace Numeral

/-- The digits of a text that are read: those before the first digit of no positional script. -/
def leading (digits : List Char) : List Char :=
  digits.takeWhile fun c => (decimalValue? c).isSome

theorem length_filterMap_leading (digits : List Char) :
    ((leading digits).filterMap decimalValue?).length = (leading digits).length := by
  rw [List.length_filterMap_eq_countP]
  exact List.countP_eq_length.mpr fun c => List.mem_takeWhile_imp

/-- Without underscores, there has to be a digit. -/
theorem separated_of_notMem {body : List Char} (noUnderscore : '_' ∉ body) {digit : Bool} :
    separated digit body = (digit || !body.isEmpty) := by
  induction body generalizing digit with
  | nil => simp [separated]
  | cons c rest ih =>
    have other : c ≠ '_' := fun same => noUnderscore (same ▸ List.mem_cons_self ..)
    have behind : '_' ∉ rest := fun member => noUnderscore (List.mem_cons_of_mem _ member)
    simp [separated, other, ih behind]

section Digits

variable {digits : List Char} (all : ∀ c ∈ digits, isDigit c = true)

include all

/-- Digits begin with no sign. -/
theorem signed_digits : signed digits = (false, digits) := by
  unfold signed
  split
  · exact absurd (all '-' (List.mem_cons_self ..)) (by decide)
  · exact absurd (all '+' (List.mem_cons_self ..)) (by decide)
  · rfl

theorem underscore_notMem : '_' ∉ digits := fun member => absurd (all '_' member) (by decide)

theorem takeWhile_isBody : digits.takeWhile isBody = leading digits := by
  have noUnderscore := underscore_notMem all
  clear all
  induction digits with
  | nil => rfl
  | cons c rest ih =>
    have other : c ≠ '_' := fun same => noUnderscore (same ▸ List.mem_cons_self ..)
    have behind := ih fun member => noUnderscore (List.mem_cons_of_mem _ member)
    rw [leading] at behind ⊢
    simp [List.takeWhile_cons, isBody, other, behind]

/-- **Reading digits.** The leading digits are counted first. If there are not too many of them and
they are all there is, the number is read. -/
theorem read_of_digits (some : digits ≠ []) {s : String} {negative : Bool}
    (apart : signed (trim isNumeralBlank s.toList) = (negative, digits)) :
    read s =
      if 4300 < (leading digits).length then .error (.tooLong (leading digits).length)
      else if leading digits = digits then
        .ok (if negative then -(value digits : Int) else value digits)
      else .error .malformed := by
  have isPrefix : leading digits <+: digits := List.takeWhile_prefix _
  have noUnderscore : '_' ∉ leading digits := fun member =>
    underscore_notMem all (isPrefix.subset member)
  unfold read
  rw [apart]
  simp only [takeWhile_isBody all, length_filterMap_leading, separated_of_notMem noUnderscore]
  by_cases none : leading digits = []
  · rw [none, if_neg (Ne.symm some)]
    exact (if_pos rfl).trans (if_neg (Nat.not_lt_zero _)).symm
  · have separate : (!(false || !(leading digits).isEmpty)) = false := by simpa using none
    rw [if_neg (Bool.eq_false_iff.mp separate)]
    by_cases long : 4300 < (leading digits).length
    · rw [if_pos long]
      exact if_pos long
    · rw [if_neg long]
      refine (if_neg long).trans ?_
      by_cases whole : leading digits = digits
      · rw [if_pos whole, whole, if_neg (Nat.lt_irrefl _)]
      · have shorter : (leading digits).length < digits.length :=
          Nat.lt_of_le_of_ne isPrefix.length_le fun same => whole (isPrefix.eq_of_length same)
        rw [if_neg whole, if_pos shorter]

end Digits

/-! ## Values -/

/-- Digits of positional scripts stand for these values. -/
def Spells (digits : List Char) (values : List Nat) : Prop :=
  digits.map decimalValue? = values.map some

theorem leading_eq_self_iff {digits : List Char} :
    leading digits = digits ↔ ∀ c ∈ digits, (decimalValue? c).isSome = true :=
  List.takeWhile_eq_self_iff

theorem exists_spells_iff {digits : List Char} :
    (∃ values, Spells digits values) ↔ leading digits = digits := by
  rw [leading_eq_self_iff]
  constructor
  · rintro ⟨values, spells⟩ c member
    have value : decimalValue? c ∈ values.map some := spells ▸ List.mem_map_of_mem member
    obtain ⟨n, -, found⟩ := List.mem_map.mp value
    rw [← found, Option.isSome_some]
  · intro all
    refine ⟨digits.filterMap decimalValue?, ?_⟩
    rw [Spells, List.map_filterMap_some_eq_filter_map_isSome]
    refine (List.filter_eq_self.mpr fun value member => ?_).symm
    obtain ⟨c, inDigits, rfl⟩ := List.mem_map.mp member
    exact all c inDigits

namespace Spells

variable {digits : List Char} {values : List Nat}

theorem length_eq (spells : Spells digits values) : digits.length = values.length := by
  have lengths := congrArg List.length spells
  rwa [List.length_map, List.length_map] at lengths

theorem filterMap_eq (spells : Spells digits values) : digits.filterMap decimalValue? = values := by
  calc digits.filterMap decimalValue?
    _ = (digits.map decimalValue?).filterMap id := by rw [List.filterMap_map]; rfl
    _ = (values.map some).filterMap id := by rw [spells]
    _ = values := by rw [List.filterMap_map]; exact List.filterMap_some

/-- The number that is read is the one with these digits in base ten. -/
theorem value_eq (spells : Spells digits values) :
    value digits = Nat.ofDigits 10 values.reverse := by
  rw [value, spells.filterMap_eq, Nat.ofDigits_eq_foldr, List.foldr_reverse]
  congr 1
  funext n d
  exact Nat.add_comm ..

end Spells

/-! ## Figures -/

section Figures

variable {figures : List Char} (all : ∀ c ∈ figures, c.isDigit = true)

include all

theorem isDigit_of_figures : ∀ c ∈ figures, isDigit c = true :=
  fun c member => isDigit_of_figure (all c member)

theorem spells_figures : Spells figures (figures.map fun c => c.toNat - 48) := by
  rw [Spells, List.map_map]
  exact List.map_congr_left fun c member => decimalValue?_of_isDigit (all c member)

theorem value_figures : value figures = Nat.ofDigitChars 10 figures 0 := by
  rw [value, (spells_figures all).filterMap_eq, List.foldl_map, Nat.ofDigitChars_eq_foldl]
  rfl

theorem leading_figures : leading figures = figures :=
  exists_spells_iff.mp ⟨_, spells_figures all⟩

end Figures

end Numeral

/-! ## Numbers in decimal figures -/

/-- A number in decimal figures, no more of them than a numeral may have, with a minus sign or
without. -/
structure Literal where
  negative : Bool
  figures : List Char
  isDigit : ∀ c ∈ figures, c.isDigit = true
  ne_nil : figures ≠ []
  length_le : figures.length ≤ 4300

namespace Literal

/-- The characters of a number. -/
def chars (literal : Literal) : List Char :=
  if literal.negative then '-' :: literal.figures else literal.figures

/-- The text of a number. -/
def text (literal : Literal) : String :=
  String.ofList literal.chars

/-- The number that is written. -/
def value (literal : Literal) : Int :=
  if literal.negative then -(Nat.ofDigitChars 10 literal.figures 0 : Int)
  else (Nat.ofDigitChars 10 literal.figures 0 : Int)

/-- A number consists of figures, apart from its sign. -/
theorem isDigit_of_mem_chars {literal : Literal} {c : Char} (member : c ∈ literal.chars) :
    c = '-' ∨ c.isDigit = true := by
  unfold chars at member
  split at member
  · exact (List.mem_cons.mp member).imp_right (literal.isDigit c)
  · exact .inr (literal.isDigit c member)

end Literal

namespace Numeral

/-- The sign of a number is told from its figures. -/
theorem signed_chars (literal : Literal) :
    signed (trim isNumeralBlank literal.chars) = (literal.negative, literal.figures) := by
  have digit := isDigit_of_figures literal.isDigit
  have noBlank : ∀ c ∈ literal.chars, isNumeralBlank c = false := by
    intro c member
    rcases Literal.isDigit_of_mem_chars member with rfl | figure
    · decide
    · exact isNumeralBlank_of_isDigit (isDigit_of_figure figure)
  rw [Text.trim_eq_self noBlank, Literal.chars]
  cases literal.negative with
  | true => rfl
  | false => exact signed_digits digit

/-- A number in decimal figures is read. -/
theorem read_text (literal : Literal) : read literal.text = .ok literal.value := by
  have digit := isDigit_of_figures literal.isDigit
  have apart :
      signed (trim isNumeralBlank literal.text.toList) = (literal.negative, literal.figures) := by
    rw [Literal.text, String.toList_ofList, signed_chars]
  have short : ¬ 4300 < (leading literal.figures).length := by
    rw [leading_figures literal.isDigit]
    exact Nat.not_lt.mpr literal.length_le
  rw [read_of_digits digit literal.ne_nil apart, if_neg short,
    if_pos (leading_figures literal.isDigit), value_figures literal.isDigit, Literal.value]

end Numeral

end ChipEight
