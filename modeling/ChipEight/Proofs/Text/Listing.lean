import ChipEight.Proofs.Text.Digits

/-!
# Reading lists

A list is written between brackets, with a comma and a blank between its items. As long as neither
of them stands in an item, and no item is empty, the items can be read back.

## Main definitions

* `Text.bracketed` — items as a list
* `Text.items` — the items of a list that is written so
* `Text.readHex` — the number that is written in base sixteen

## Main results

* `Text.items_bracketed`, `Text.map_items_bracketed` — the items of a list can be read back
* `Text.readHex_items`, `Text.ofDigits_items` — numbers that are written as a list can be read back,
  whether in base sixteen or in decimal
-/

namespace ChipEight.Text

/-- Items between brackets, with a comma and a blank between them. -/
def bracketed (items : List String) : String :=
  "[" ++ ", ".intercalate items ++ "]"

/-- The texts between the brackets and commas of a list. -/
def items (s : String) : List (List Char) :=
  (((s.toList.filter (· != ' ')).tail.dropLast).splitOn ',').filter (· ≠ [])

/-- An item of a list is not empty, and no comma and no blank stands in it. -/
def IsItem (item : List Char) : Prop :=
  item ≠ [] ∧ ',' ∉ item ∧ ' ' ∉ item

theorem filter_blank {item : List Char} (proper : IsItem item) : item.filter (· != ' ') = item := by
  refine List.filter_eq_self.mpr fun c member => bne_iff_ne.mpr ?_
  rintro rfl
  exact proper.2.2 member

/-- Without its blanks, a list has just commas between its items. -/
theorem filter_intercalate {texts : List (List Char)} (proper : ∀ item ∈ texts, IsItem item) :
    ([',', ' '].intercalate texts).filter (· != ' ') = [','].intercalate texts := by
  induction texts with
  | nil => rfl
  | cons first rest ih =>
    have restProper : ∀ item ∈ rest, IsItem item := fun item member =>
      proper item (List.mem_cons_of_mem _ member)
    have firstProper := filter_blank (proper first (List.mem_cons_self ..))
    cases rest with
    | nil => simpa using firstProper
    | cons second rest =>
      rw [List.intercalate_cons_cons, List.intercalate_cons_cons, List.filter_append,
        List.filter_append, firstProper, ih restProper]
      rfl

theorem mem_intercalate {separator : List Char} {texts : List (List Char)} {c : Char}
    (member : c ∈ separator.intercalate texts) : c ∈ separator ∨ ∃ text ∈ texts, c ∈ text := by
  induction texts with
  | nil => cases member
  | cons first rest ih =>
    cases rest with
    | nil => exact .inr ⟨first, List.mem_cons_self .., by simpa using member⟩
    | cons second rest =>
      rw [List.intercalate_cons_cons, List.mem_append, List.mem_append] at member
      rcases member with (inFirst | inSeparator) | inRest
      · exact .inr ⟨first, List.mem_cons_self .., inFirst⟩
      · exact .inl inSeparator
      · exact (ih inRest).imp_right fun ⟨text, inTexts, inText⟩ =>
          ⟨text, List.mem_cons_of_mem _ inTexts, inText⟩

/-- What stands in a list stands in one of its items, apart from brackets, commas and blanks. -/
theorem mem_bracketed {texts : List String} {c : Char} (member : c ∈ (bracketed texts).toList) :
    c ∈ ['[', ',', ' ', ']'] ∨ ∃ text ∈ texts, c ∈ text.toList := by
  have frame : ['[', ',', ' ', ']'] = "[".toList ++ ", ".toList ++ "]".toList := rfl
  rw [bracketed, String.toList_append, String.toList_append, String.toList_intercalate,
    List.mem_append, List.mem_append] at member
  rw [frame, List.mem_append, List.mem_append]
  rcases member with (opening | inner) | closing
  · exact .inl (.inl (.inl opening))
  · rcases mem_intercalate inner with separator | ⟨text, inTexts, inText⟩
    · exact .inl (.inl (.inr separator))
    · obtain ⟨item, inItems, rfl⟩ := List.mem_map.mp inTexts
      exact .inr ⟨item, inItems, inText⟩
  · exact .inl (.inr closing)

/-- The items of a list can be read back. -/
theorem items_bracketed {texts : List String} (proper : ∀ item ∈ texts, IsItem item.toList) :
    items (bracketed texts) = texts.map String.toList := by
  have properLists : ∀ item ∈ texts.map String.toList, IsItem item := by
    intro item member
    obtain ⟨text, inTexts, rfl⟩ := List.mem_map.mp member
    exact proper text inTexts
  have inner : ((bracketed texts).toList.filter (· != ' ')).tail.dropLast =
      [','].intercalate (texts.map String.toList) := by
    rw [bracketed, String.toList_append, String.toList_append, String.toList_intercalate,
      List.filter_append, List.filter_append]
    change (('[' :: (([',', ' '].intercalate (texts.map String.toList)).filter (· != ' '))) ++
      [']']).tail.dropLast = _
    rw [filter_intercalate properLists, List.cons_append, List.tail_cons, List.dropLast_concat]
  rw [items, inner]
  by_cases none : texts.map String.toList = []
  · rw [none]
    rfl
  · rw [List.splitOn_intercalate ',' (fun item member => (properLists item member).2.1) none]
    exact List.filter_eq_self.mpr fun item member => decide_eq_true (properLists item member).1

/-- What is written as a list can be read back when each item of it can. -/
theorem map_items_bracketed {α : Type*} {write : α → String} {read : List Char → α}
    (proper : ∀ a, IsItem (write a).toList) (back : ∀ a, read (write a).toList = a)
    (values : List α) :
    (items (bracketed (values.map write))).map read = values := by
  rw [items_bracketed, List.map_map, List.map_map]
  · calc values.map _
      _ = values.map id := List.map_congr_left fun a _ => back a
      _ = values := List.map_id values
  · intro item member
    obtain ⟨a, -, rfl⟩ := List.mem_map.mp member
    exact proper a

/-! ## Hexadecimal numbers -/

/-- The number that is written in base sixteen, with a minus sign or without. -/
def readHex : List Char → Int
  | '-' :: digits => -ofDigits 16 digits
  | digits => ofDigits 16 digits

theorem readHex_hex (width : Nat) (n : Int) : readHex (hex width n).toList = n := by
  cases n with
  | ofNat k =>
    rw [hex, String.toList_ofList]
    have value := ofDigits_hexDigitsPadded width k
    have figures : ∀ c ∈ hexDigitsPadded width k, c.isAlphanum = true :=
      fun c => isAlphanum_of_mem_hexDigitsPadded
    generalize hexDigitsPadded width k = digits at value figures
    unfold readHex
    split
    · exact absurd (figures '-' (List.mem_cons_self ..)) (by decide)
    · exact congrArg Int.ofNat value
  | negSucc k =>
    rw [hex, String.toList_ofList, readHex, ofDigits_hexDigitsPadded]
    rfl

theorem hex_inj {width : Nat} {n k : Int} : hex width n = hex width k ↔ n = k := by
  refine ⟨fun same => ?_, congrArg _⟩
  rw [← readHex_hex width n, same, readHex_hex]

/-- A number in base sixteen consists of figures and letters, apart from its sign. -/
theorem isAlphanum_of_mem_hex {width : Nat} {n : Int} {c : Char}
    (member : c ∈ (hex width n).toList) :
    c = '-' ∨ c.isAlphanum = true := by
  cases n with
  | ofNat k =>
    rw [hex, String.toList_ofList] at member
    exact .inr (isAlphanum_of_mem_hexDigitsPadded member)
  | negSucc k =>
    rw [hex, String.toList_ofList] at member
    rcases List.mem_cons.mp member with sign | digit
    · exact .inl sign
    · exact .inr (isAlphanum_of_mem_hexDigitsPadded digit)

theorem toList_mark (s : String) : ("0x" ++ s).toList = '0' :: 'x' :: s.toList :=
  String.toList_append

/-- A number in base sixteen with its mark in front is an item of a list. -/
theorem isItem_hex (width : Nat) (n : Int) : IsItem ("0x" ++ hex width n).toList := by
  have notMem : ∀ c, c.isAlphanum = false → c ≠ '-' → c ∉ ("0x" ++ hex width n).toList := by
    intro c noFigure noSign member
    rw [toList_mark, List.mem_cons, List.mem_cons] at member
    rcases member with rfl | rfl | number
    · exact absurd noFigure (by decide)
    · exact absurd noFigure (by decide)
    · rcases isAlphanum_of_mem_hex number with sign | figure
      · exact noSign sign
      · exact Bool.false_ne_true (noFigure.symm.trans figure)
  refine ⟨?_, notMem ',' (by decide) (by decide), notMem ' ' (by decide) (by decide)⟩
  rw [toList_mark]
  exact List.cons_ne_nil _ _

/-- Numbers in base sixteen that are written as a list can be read back. -/
theorem readHex_items (width : Nat) (numbers : List Int) :
    (items (bracketed (numbers.map fun n => "0x" ++ hex width n))).map
      (fun item => readHex (item.drop 2)) = numbers := by
  refine map_items_bracketed (isItem_hex width) (fun n => ?_) numbers
  rw [toList_mark]
  exact readHex_hex width n

/-! ## Decimal numbers -/

theorem toList_toString (n : Nat) : (toString n).toList = Nat.toDigits 10 n :=
  Nat.toList_repr

theorem ofDigits_toString (n : Nat) : ofDigits 10 (toString n).toList = n := by
  rw [toList_toString]
  exact ofDigits_toDigits (by decide) (by decide) n

theorem toString_inj {n k : Nat} : toString n = toString k ↔ n = k := by
  refine ⟨fun same => ?_, congrArg _⟩
  rw [← ofDigits_toString n, same, ofDigits_toString]

/-- A number in decimal consists of figures and letters. -/
theorem isAlphanum_of_mem_toString {n : Nat} {c : Char} (member : c ∈ (toString n).toList) :
    c.isAlphanum = true := by
  rw [toList_toString] at member
  exact isAlphanum_of_mem_toDigits (by decide) (by decide) n c member

/-- A number in decimal is an item of a list. -/
theorem isItem_toString (n : Nat) : IsItem (toString n).toList := by
  have notMem : ∀ c, c.isAlphanum = false → c ∉ (toString n).toList := fun c noFigure member =>
    Bool.false_ne_true (noFigure.symm.trans (isAlphanum_of_mem_toString member))
  refine ⟨?_, notMem ',' (by decide), notMem ' ' (by decide)⟩
  rw [toList_toString]
  exact Nat.toDigits_ne_nil

/-- Numbers in decimal that are written as a list can be read back. -/
theorem ofDigits_items (numbers : List Nat) :
    (items (bracketed (numbers.map toString))).map (ofDigits 10) = numbers :=
  map_items_bracketed isItem_toString ofDigits_toString numbers

end ChipEight.Text
