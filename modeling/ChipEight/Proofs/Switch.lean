import ChipEight.Proofs.Text.Numeral
import ChipEight.Switch
import Mathlib.Data.List.Forall2

/-!
# What a switch can be set to

Every text turns a switch on or off, apart from one kind. A text of digits is taken for a numeral,
but not every such text is one: a superscript is a digit that stands in no numeral, and a numeral
has at most 4300 digits. These texts do not set the switch at all; they are refused.

Only ASCII letters are brought to lower case before a text is judged. The other letters may have any
form that is not made of digits and not spelled in letters of the words, and the verdict stays the
same.

## Main definitions

* `Switch.judge` — what a text without surrounding blanks and in lower case sets a switch to
* `Switch.Lowers` — a text without its surrounding blanks and in lower case
* `Switch.Denotes` — the number that a text of digits denotes
* `Switch.Verdict` — the four kinds of texts, each with its verdict

## Main results

* `Switch.read_of_lowers` — the verdict does not depend on letters other than ASCII
* `Switch.judge_verdict` — the verdict on a text is that of its kind
* `Switch.read_settings` — which texts turn a switch on, which turn it off, and which are refused
-/

namespace ChipEight.Switch

open Text Numeral

variable {text : String} {n : Nat}

/-- What a text without surrounding blanks and in lower case sets a switch to. -/
def judge (text : String) : Except Numeral.Error Bool :=
  if isDigits text then (Numeral.read text).map (1 ≤ ·) else .ok (words.contains text)

theorem read_eq_judge (text : String) : read text = judge (normal text) := rfl

theorem isDigits_iff :
    isDigits text = true ↔ text.toList ≠ [] ∧ ∀ c ∈ text.toList, isDigit c = true := by
  simp [isDigits]

/-- A text turns a switch off when a character of it is no digit and a character of it stands in
none of the words. -/
theorem judge_of_strange (loose : ∃ c ∈ text.toList, isDigit c = false)
    (strange : ∃ c ∈ text.toList, ∀ word ∈ words, c ∉ word.toList) : judge text = .ok false := by
  have noDigits : ¬ isDigits text = true := fun digits => by
    obtain ⟨c, member, noDigit⟩ := loose
    exact Bool.false_ne_true (noDigit.symm.trans ((isDigits_iff.mp digits).2 c member))
  have noWord : text ∉ words := fun word => by
    obtain ⟨c, member, notMem⟩ := strange
    exact notMem text word member
  rw [judge, if_neg noDigits, List.contains_eq_mem, decide_eq_false noWord]

/-! ## Lower case -/

/-- What lower-case forms, which may be of several characters, have in common. The form of an ASCII
character is the usual one, and a digit is left as it is. Whatever the form of another character is,
a character of it is no digit, and a character of it stands in none of the words. -/
structure IsLowerCase (c : Char) (form : List Char) : Prop where
  ascii : c.toNat < 128 → form = [c.toLower]
  digit : isDigit c = true → form = [c]
  loose : 128 ≤ c.toNat → isDigit c = false → ∃ d ∈ form, isDigit d = false
  strange : 128 ≤ c.toNat → isDigit c = false → ∃ d ∈ form, ∀ word ∈ words, d ∉ word.toList

/-- The capital letters that have another form in lower case. -/
def capitals : Ranges := [(0x41, 0x5A)]

theorem toLower_eq_self {c : Char} (noCapital : capitals.contains c = false) : c.toLower = c := by
  unfold Char.toLower
  refine dif_neg fun ⟨low, high⟩ => ?_
  have within : capitals.contains c = true :=
    Ranges.contains_iff.mpr ⟨(0x41, 0x5A), List.mem_singleton_self _,
      UInt32.le_iff_toNat_le.mp low, UInt32.le_iff_toNat_le.mp high⟩
  exact Bool.false_ne_true (noCapital.symm.trans within)

theorem toLower_of_isDigit {c : Char} (digit : isDigit c = true) : c.toLower = c := by
  have apart : digitRanges.Apart capitals := by decide +kernel
  exact toLower_eq_self (apart.contains_eq_false (contains_of_isDigit digit))

theorem toLower_of_le {c : Char} (large : 128 ≤ c.toNat) : c.toLower = c := by
  refine toLower_eq_self (Bool.eq_false_iff.mpr fun capital => ?_)
  obtain ⟨range, member, -, high⟩ := Ranges.contains_iff.mp capital
  rw [List.mem_singleton.mp member] at high
  exact absurd (large.trans high) (by decide)

/-- The words are ASCII. -/
theorem notMem_of_le {c : Char} (large : 128 ≤ c.toNat) : ∀ word ∈ words, c ∉ word.toList := by
  have ascii : ∀ word ∈ words, ∀ d ∈ word.toList, d.toNat < 128 := by simp [words]
  exact fun word inWords inWord => Nat.not_lt.mpr large (ascii word inWords c inWord)

section Forms

variable {s : List Char} {forms : List (List Char)} (lower : List.Forall₂ IsLowerCase s forms)

include lower

theorem exists_form {c : Char} (member : c ∈ s) : ∃ form ∈ forms, IsLowerCase c form := by
  induction lower with
  | nil => cases member
  | cons first _ ih =>
    rcases List.mem_cons.mp member with rfl | behind
    · exact ⟨_, List.mem_cons_self .., first⟩
    · obtain ⟨form, inForms, isForm⟩ := ih behind
      exact ⟨form, List.mem_cons_of_mem _ inForms, isForm⟩

theorem flatten_forms (usual : ∀ c ∈ s, c.toNat < 128 ∨ isDigit c = true) :
    forms.flatten = s.map Char.toLower := by
  induction lower with
  | nil => rfl
  | @cons c form _ _ first _ ih =>
    have single : form = [c.toLower] := by
      rcases usual c (List.mem_cons_self ..) with ascii | digit
      · exact first.ascii ascii
      · rw [first.digit digit, toLower_of_isDigit digit]
    rw [List.flatten_cons, single, ih fun c member => usual c (List.mem_cons_of_mem _ member),
      List.map_cons]
    rfl

end Forms

/-- A text without its surrounding blanks is brought to lower case. -/
def Lowers (text lowered : String) : Prop :=
  ∃ forms, List.Forall₂ IsLowerCase (trim isBlank text.toList) forms ∧
    lowered = String.ofList forms.flatten

/-- Among these forms is the character that has been brought to lower case if it is ASCII. -/
theorem isLowerCase_toLower (c : Char) : IsLowerCase c [c.toLower] where
  ascii _ := rfl
  digit digit := congrArg ([·]) (toLower_of_isDigit digit)
  loose large noDigit := ⟨c, by rw [toLower_of_le large]; exact List.mem_singleton_self c, noDigit⟩
  strange large _ :=
    ⟨c, by rw [toLower_of_le large]; exact List.mem_singleton_self c, notMem_of_le large⟩

theorem lowers_normal (text : String) : Lowers text (normal text) := by
  refine ⟨(trim isBlank text.toList).map fun c => [c.toLower], ?_, ?_⟩
  · rw [List.forall₂_map_right_iff]
    exact List.forall₂_same.mpr fun c _ => isLowerCase_toLower c
  · rw [normal, List.map_eq_flatMap, List.flatMap_def]

/-- **Lower case.** The verdict is the same for all forms that letters other than ASCII may have in
lower case. -/
theorem read_of_lowers {lowered : String} (lowers : Lowers text lowered) :
    read text = judge lowered := by
  obtain ⟨forms, lower, rfl⟩ := lowers
  by_cases usual : ∀ c ∈ trim isBlank text.toList, c.toNat < 128 ∨ isDigit c = true
  · rw [read_eq_judge, normal, flatten_forms lower usual]
  · obtain ⟨c, member, unusual⟩ :
        ∃ c ∈ trim isBlank text.toList, ¬ (c.toNat < 128 ∨ isDigit c = true) := by
      simpa using usual
    obtain ⟨notAscii, noDigit⟩ := not_or.mp unusual
    have large := Nat.le_of_not_lt notAscii
    have inNormal : c ∈ (normal text).toList := by
      rw [normal, String.toList_ofList, ← toLower_of_le large]
      exact List.mem_map_of_mem member
    obtain ⟨form, inForms, isForm⟩ := exists_form lower member
    have inFlatten : ∀ d ∈ form, d ∈ (String.ofList forms.flatten).toList := fun d inForm => by
      rw [String.toList_ofList]
      exact List.mem_flatten_of_mem inForms inForm
    obtain ⟨d, inForm, dNoDigit⟩ := isForm.loose large (Bool.eq_false_iff.mpr noDigit)
    obtain ⟨e, eInForm, eStrange⟩ := isForm.strange large (Bool.eq_false_iff.mpr noDigit)
    rw [read_eq_judge, judge_of_strange ⟨c, inNormal, Bool.eq_false_iff.mpr noDigit⟩
        ⟨c, inNormal, notMem_of_le large⟩,
      judge_of_strange ⟨d, inFlatten d inForm, dNoDigit⟩ ⟨e, inFlatten e eInForm, eStrange⟩]

/-! ## Texts of digits -/

theorem notMem_words (digits : isDigits text = true) : text ∉ words := by
  have noDigits : ∀ word ∈ words, isDigits word = false := by decide
  exact fun word => Bool.false_ne_true ((noDigits text word).symm.trans digits)

/-- A text of digits denotes a number if its digits belong to positional scripts: the number with
their values as its digits in base ten. -/
def Denotes (text : String) (n : Nat) : Prop :=
  ∃ values, Spells text.toList values ∧ values ≠ [] ∧ n = Nat.ofDigits 10 values.reverse

theorem Denotes.eq_value (denotes : Denotes text n) : n = value text.toList := by
  obtain ⟨values, spells, -, number⟩ := denotes
  exact number.trans spells.value_eq.symm

theorem Denotes.isDigits (denotes : Denotes text n) : isDigits text = true := by
  obtain ⟨values, spells, some, -⟩ := denotes
  have all := leading_eq_self_iff.mp (exists_spells_iff.mp ⟨values, spells⟩)
  refine isDigits_iff.mpr ⟨fun none => some ?_, fun c member => ?_⟩
  · rw [← List.length_eq_zero_iff, ← spells.length_eq, none, List.length_nil]
  · rw [isDigit, all c member, Bool.true_or]

theorem not_denotes (noDigits : isDigits text = false) (n : Nat) : ¬ Denotes text n :=
  fun denotes =>
  Bool.false_ne_true (noDigits.symm.trans denotes.isDigits)

theorem exists_denotes_iff (digits : isDigits text = true) :
    (∃ n, Denotes text n) ↔ leading text.toList = text.toList := by
  rw [← exists_spells_iff]
  constructor
  · rintro ⟨n, values, spells, -⟩
    exact ⟨values, spells⟩
  · rintro ⟨values, spells⟩
    refine ⟨_, values, spells, fun none => (isDigits_iff.mp digits).1 ?_, rfl⟩
    rw [← List.length_eq_zero_iff, spells.length_eq, none, List.length_nil]

theorem Denotes.leading_eq (denotes : Denotes text n) : leading text.toList = text.toList :=
  (exists_denotes_iff denotes.isDigits).mp ⟨n, denotes⟩

/-- A text denotes one number. -/
theorem Denotes.iff_eq (denotes : Denotes text n) {k : Nat} : Denotes text k ↔ k = n :=
  ⟨fun also => also.eq_value.trans denotes.eq_value.symm, fun same => same ▸ denotes⟩

/-! ## Verdicts -/

/-- The verdict on a text of digits. -/
theorem judge_of_isDigits (digits : isDigits text = true) :
    judge text =
      if 4300 < (leading text.toList).length then .error (.tooLong (leading text.toList).length)
      else if leading text.toList = text.toList then .ok (decide (1 ≤ value text.toList))
      else .error .malformed := by
  obtain ⟨some, all⟩ := isDigits_iff.mp digits
  have apart : signed (trim isNumeralBlank text.toList) = (false, text.toList) := by
    rw [Text.trim_eq_self fun c member => isNumeralBlank_of_isDigit (all c member),
      signed_digits all]
  have positive : decide ((1 : Int) ≤ value text.toList) = decide (1 ≤ value text.toList) :=
    decide_eq_decide.mpr Int.ofNat_le
  rw [judge, if_pos digits, read_of_digits all some apart]
  split
  · rfl
  · split
    · exact congrArg Except.ok positive
    · rfl

theorem length_leading_le (text : String) : (leading text.toList).length ≤ text.length := by
  rw [← String.length_toList]
  exact (List.takeWhile_prefix _).length_le

/-- The four kinds of texts, each with its verdict. -/
inductive Verdict (text : String) : Except Numeral.Error Bool → Prop
  /-- A text that is not of digits. -/
  | other (noDigits : isDigits text = false) : Verdict text (.ok (decide (text ∈ words)))
  /-- A text that begins with too many digits. -/
  | long (digits : isDigits text = true) (long : 4300 < (leading text.toList).length) :
      Verdict text (.error (.tooLong (leading text.toList).length))
  /-- Another text of digits that denotes no number. -/
  | loose (digits : isDigits text = true) (short : (leading text.toList).length ≤ 4300)
      (noNumber : ∀ n, ¬ Denotes text n) : Verdict text (.error .malformed)
  /-- A text that denotes a number. -/
  | numeral {n : Nat} (denotes : Denotes text n) (short : text.length ≤ 4300) :
      Verdict text (.ok (decide (1 ≤ n)))

theorem judge_verdict (text : String) : Verdict text (judge text) := by
  by_cases digits : isDigits text = true
  · rw [judge_of_isDigits digits]
    split
    · next long => exact .long digits long
    · next notLong =>
      have short := Nat.le_of_not_lt notLong
      split
      · next whole =>
        obtain ⟨n, denotes⟩ := (exists_denotes_iff digits).mpr whole
        rw [whole, String.length_toList] at short
        exact denotes.eq_value ▸ .numeral denotes short
      · next partly =>
        exact .loose digits short fun n denotes => partly denotes.leading_eq
  · rw [judge, if_neg digits, List.contains_eq_mem]
    exact .other (Bool.eq_false_iff.mpr digits)

section Verdicts

variable {answer : Except Numeral.Error Bool}

theorem Verdict.eq_true_iff (verdict : Verdict text answer) :
    answer = .ok true ↔ (∃ n, Denotes text n ∧ text.length ≤ 4300 ∧ 1 ≤ n) ∨ text ∈ words := by
  cases verdict with
  | other noDigits => simp [not_denotes noDigits]
  | long digits long =>
    simp [notMem_words digits, Nat.not_le.mpr (long.trans_le (length_leading_le text))]
  | loose digits short noNumber => simp [notMem_words digits, noNumber]
  | numeral denotes short => simp [notMem_words denotes.isDigits, denotes.iff_eq, short]

theorem Verdict.eq_false_iff (verdict : Verdict text answer) :
    answer = .ok false ↔
      Denotes text 0 ∧ text.length ≤ 4300 ∨ isDigits text = false ∧ text ∉ words := by
  cases verdict with
  | other noDigits => simp [not_denotes noDigits, noDigits]
  | long digits long => simp [digits, Nat.not_le.mpr (long.trans_le (length_leading_le text))]
  | loose digits short noNumber => simp [digits, noNumber]
  | numeral denotes short => simp [denotes.isDigits, denotes.iff_eq, short, eq_comm]

theorem Verdict.refused_iff (verdict : Verdict text answer) :
    (∃ error, answer = .error error) ↔
      isDigits text = true ∧ ((∀ n, ¬ Denotes text n) ∨ 4300 < text.length) := by
  cases verdict with
  | other noDigits => simp [noDigits]
  | long digits long => simp [digits, long.trans_le (length_leading_le text)]
  | loose digits short noNumber => simp [digits, noNumber]
  | numeral denotes short => simp [denotes.iff_eq, Nat.not_lt.mpr short]

theorem Verdict.eq_tooLong_iff (verdict : Verdict text answer) {count : Nat} :
    answer = .error (.tooLong count) ↔
      isDigits text = true ∧ count = (leading text.toList).length ∧ 4300 < count := by
  cases verdict with
  | other noDigits => simp [noDigits]
  | long digits long =>
    constructor
    · rintro ⟨⟩
      exact ⟨digits, rfl, long⟩
    · rintro ⟨-, rfl, -⟩
      rfl
  | loose digits short noNumber =>
    refine ⟨nofun, ?_⟩
    rintro ⟨-, rfl, long⟩
    exact absurd long (Nat.not_lt.mpr short)
  | numeral denotes short =>
    refine ⟨nofun, ?_⟩
    rintro ⟨-, rfl, long⟩
    exact absurd (long.trans_le (length_leading_le text)) (Nat.not_lt.mpr short)

end Verdicts

/-- **The settings of a switch.** What a text sets a switch to is told from the text without its
surrounding blanks and in lower case. It turns the switch on if it consists of digits that denote a
number of at least one, or if it is one of the words. Any other text turns it off, unless it
consists of digits and still denotes no number, or has more than 4300 of them: then it is refused,
for its length if so many digits can be read. Without a text the switch is off. -/
theorem read_settings (text : String) :
    Lowers text (normal text) ∧
      (∀ lowered, Lowers text lowered →
        (read text = .ok true ↔
            (∃ n, Denotes lowered n ∧ lowered.length ≤ 4300 ∧ 1 ≤ n) ∨ lowered ∈ words) ∧
          (read text = .ok false ↔
            Denotes lowered 0 ∧ lowered.length ≤ 4300 ∨
              isDigits lowered = false ∧ lowered ∉ words) ∧
          ((∃ error, read text = .error error) ↔
            isDigits lowered = true ∧ ((∀ n, ¬ Denotes lowered n) ∨ 4300 < lowered.length)) ∧
          ∀ count, read text = .error (.tooLong count) ↔
            isDigits lowered = true ∧ count = (leading lowered.toList).length ∧ 4300 < count) ∧
      read absent = .ok false := by
  refine ⟨lowers_normal text, fun lowered lowers => ?_, rfl⟩
  rw [read_of_lowers lowers]
  have verdict := judge_verdict lowered
  exact ⟨verdict.eq_true_iff, verdict.eq_false_iff, verdict.refused_iff,
    fun _ => verdict.eq_tooLong_iff⟩

/-- The ones of a text of nothing but ones. -/
def ones (count : Nat) : List Char := List.replicate count '1'

theorem normal_ones (count : Nat) :
    normal (String.ofList (ones count)) = String.ofList (ones count) := by
  have noBlank : ∀ c ∈ ones count, isBlank c = false := fun c member => by
    rw [List.eq_of_mem_replicate member]
    decide
  rw [normal, String.toList_ofList, Text.trim_eq_self noBlank, ones, List.map_replicate]
  rfl

theorem isDigit_of_mem_ones {count : Nat} {c : Char} (member : c ∈ ones count) :
    c.isDigit = true := by
  rw [List.eq_of_mem_replicate member]
  rfl

/-- A superscript and a number with too many digits are refused, and a digit of another script is
read. -/
theorem read_settings_superscript :
    (∃ error, read "⁰" = .error error) ∧ read (String.ofList (ones 4301)) = .error (.tooLong 4301) ∧
      read " ٣ " = .ok true := by
  have superscript : normal "⁰" = "⁰" := rfl
  have three : normal " ٣ " = "٣" := rfl
  obtain ⟨lowers, told, -⟩ := read_settings "⁰"
  obtain ⟨-, -, refused, -⟩ := told _ lowers
  obtain ⟨lowers, told, -⟩ := read_settings (String.ofList (ones 4301))
  obtain ⟨-, -, -, tooLong⟩ := told _ lowers
  obtain ⟨lowers, told, -⟩ := read_settings " ٣ "
  obtain ⟨on, -⟩ := told _ lowers
  refine ⟨refused.mpr ?_, (tooLong 4301).mpr ?_, on.mpr (.inl ?_)⟩
  · have digits : isDigits "⁰" = true := by decide
    rw [superscript]
    refine ⟨digits, .inl fun n denotes => ?_⟩
    exact absurd denotes.leading_eq (by decide)
  · have digits : isDigits (String.ofList (ones 4301)) = true := by
      rw [isDigits_iff, String.toList_ofList]
      exact ⟨List.cons_ne_nil _ _, fun c member => isDigit_of_figure (isDigit_of_mem_ones member)⟩
    rw [normal_ones, String.toList_ofList, leading_figures fun _ => isDigit_of_mem_ones, ones,
      List.length_replicate]
    exact ⟨digits, rfl, Nat.lt_succ_self 4300⟩
  · rw [three]
    exact ⟨3, ⟨[3], rfl, by decide, by decide⟩, by decide, by decide⟩

end ChipEight.Switch
