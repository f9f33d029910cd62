import ChipEight.Instruction.Decode
import Mathlib.Algebra.Group.Nat.Defs

/-!
# What the decoder accepts

Decoding undoes `Instruction.encode`: an opcode stands for an instruction exactly when its lowest 16
bits are the word of that instruction. Every code that is listed for a family is in the table, and
the first digit of a word tells its family, so the order in which the families are tried does not
matter.

## Main definitions

* `Instruction.family` — the family that an instruction belongs to
* `Family.digits` — the first digits of the words of a family

## Main results

* `Family.code_word` — what the mask of a family clears
* `Family.exists_lookup` — the table has the codes of all families
* `Family.eq_of_accepts` — at most one family accepts an opcode
* `decodeIn_eq_some_iff` — which opcodes stand for an instruction when some families are tried
* `decode_eq_some_iff` — which opcodes stand for an instruction
-/

namespace ChipEight

/-- The family that an instruction belongs to. -/
def Instruction.family : Instruction → Family
  | clearScreen | ret => .whole
  | skipIfDown _ | skipIfUp _ | readDelay _ | awaitKey _ | setDelay _ | setSound _ | addIndex _
  | loadGlyph _ | storeDecimal _ | storeRegisters _ | loadRegisters _ => .unary
  | skipIfSame _ _ | skipUnlessSame _ _ | copy _ _ | or _ _ | and _ _ | xor _ _ | add _ _ | sub _ _
  | shiftRight _ _ | subFrom _ _ | shiftLeft _ _ => .binary
  | jump _ | call _ | skipIfByte _ _ | skipUnlessByte _ _ | loadByte _ _ | addByte _ _
  | loadIndex _ | jumpOffset _ | random _ _ | draw _ _ _ => .immediate

theorem Opcode.word_lt (opcode : Int) : Opcode.word opcode < 0x10000 := by
  simp only [Opcode.word]
  omega

/-! ## Masks

A mask keeps some of the four digits of a word and clears the others. -/

section Masks

/-- A digit of a masked number is the digit of the number under the digit of the mask. -/
theorem digit_and (a b n : Nat) :
    (a &&& b) / 2 ^ n % 2 ^ 4 = a / 2 ^ n % 2 ^ 4 &&& b / 2 ^ n % 2 ^ 4 := by
  rw [Nat.and_div_two_pow, Nat.and_mod_two_pow]

/-- The mask `F` keeps a digit. -/
theorem digit_and_fifteen (a : Nat) : a % 16 &&& 15 = a % 16 := by
  have kept := Nat.and_two_pow_sub_one_eq_mod (a % 16) 4
  simpa using kept

/-- The mask of a family clears its operand digits. -/
theorem Family.code_word (family : Family) (opcode : Int) :
    family.code (Opcode.word opcode) =
      match family with
      | whole => Opcode.word opcode
      | unary => Opcode.word opcode - Opcode.word opcode / 256 % 16 * 256
      | binary => Opcode.word opcode - Opcode.word opcode / 16 % 256 * 16
      | immediate => Opcode.word opcode - Opcode.word opcode % 4096 := by
  have small := Opcode.word_lt opcode
  generalize Opcode.word opcode = word at small
  have bound : word &&& family.mask ≤ word := Nat.and_le_left
  have last := digit_and word family.mask 0
  have third := digit_and word family.mask 4
  have second := digit_and word family.mask 8
  have first := digit_and word family.mask 12
  cases family <;>
    simp [mask, code, digit_and_fifteen] at last third second first bound ⊢ <;> omega

end Masks

/-! ## The fields of a word

A word is a stem plus its operands. The operands do not touch the digits of the stem, so the
family's code is the stem and the fields of the opcode are the operands. -/

section Fields

variable {opcode : Int} {stem : Nat} {x y n : Fin 16} {k : Fin 256} {a : Fin 4096}

theorem unary_fields (clear : stem / 256 % 16 = 0) (word : Opcode.word opcode = stem + x * 256) :
    Family.unary.code (Opcode.word opcode) = stem ∧ Opcode.x opcode = x := by
  rw [Family.code_word]
  simp only [Opcode.x, lastDigit, Fin.ext_iff, Fin.val_ofNat, word]
  omega

theorem binary_fields (clear : stem / 16 % 256 = 0)
    (word : Opcode.word opcode = stem + x * 256 + y * 16) :
    Family.binary.code (Opcode.word opcode) = stem ∧ Opcode.x opcode = x ∧ Opcode.y opcode = y := by
  rw [Family.code_word]
  simp only [Opcode.x, Opcode.y, lastDigit, Fin.ext_iff, Fin.val_ofNat, word]
  omega

theorem address_fields (clear : stem % 4096 = 0) (word : Opcode.word opcode = stem + a) :
    Family.immediate.code (Opcode.word opcode) = stem ∧ Opcode.address opcode = a := by
  rw [Family.code_word]
  simp only [Opcode.address, Fin.ext_iff, Fin.val_ofNat, word]
  omega

theorem byte_fields (clear : stem % 4096 = 0) (word : Opcode.word opcode = stem + x * 256 + k) :
    Family.immediate.code (Opcode.word opcode) = stem ∧ Opcode.x opcode = x ∧
      Opcode.byte opcode = k := by
  rw [Family.code_word]
  simp only [Opcode.x, Opcode.byte, lastDigit, Fin.ext_iff, Fin.val_ofNat, word]
  omega

theorem sprite_fields (clear : stem % 4096 = 0)
    (word : Opcode.word opcode = stem + x * 256 + y * 16 + n) :
    Family.immediate.code (Opcode.word opcode) = stem ∧ Opcode.x opcode = x ∧ Opcode.y opcode = y ∧
      Opcode.digit opcode = n := by
  rw [Family.code_word]
  simp only [Opcode.x, Opcode.y, Opcode.digit, lastDigit, Fin.ext_iff, Fin.val_ofNat,
    word]
  omega

/-! A family's code and the fields of its operands make up the word again. -/

theorem unary_word (opcode : Int) :
    Opcode.word opcode = Family.unary.code (Opcode.word opcode) + Opcode.x opcode * 256 := by
  simp only [Family.code_word, Opcode.x, lastDigit, Fin.val_ofNat]
  omega

theorem binary_word (opcode : Int) :
    Opcode.word opcode =
      Family.binary.code (Opcode.word opcode) + Opcode.x opcode * 256 + Opcode.y opcode * 16 := by
  simp only [Family.code_word, Opcode.x, Opcode.y, lastDigit, Fin.val_ofNat]
  omega

theorem address_word (opcode : Int) :
    Opcode.word opcode = Family.immediate.code (Opcode.word opcode) + Opcode.address opcode := by
  simp only [Family.code_word, Opcode.address, Fin.val_ofNat]
  omega

theorem byte_word (opcode : Int) :
    (Opcode.address opcode : Nat) = Opcode.x opcode * 256 + Opcode.byte opcode := by
  simp only [Opcode.address, Opcode.x, Opcode.byte, lastDigit, Fin.val_ofNat]
  omega

theorem sprite_word (opcode : Int) :
    (Opcode.byte opcode : Nat) = Opcode.y opcode * 16 + Opcode.digit opcode := by
  simp only [Opcode.byte, Opcode.y, Opcode.digit, lastDigit, Fin.val_ofNat]
  omega

end Fields

/-! ## The table -/

namespace Family

variable {family other : Family} {opcode : Int} {instruction : Instruction}

/-- The code of an instruction is listed for its family, and the table has the instruction for
it. -/
theorem accepts_of_word (word : Opcode.word opcode = instruction.encode) :
    instruction.family.accepts opcode ∧
      (Instruction.table.lookup (instruction.family.code (Opcode.word opcode))).map (· opcode) =
        some instruction := by
  cases instruction
  case clearScreen | ret =>
    simp only [Instruction.family, accepts, word]
    exact ⟨rfl, rfl⟩
  case jump | call | loadIndex | jumpOffset =>
    obtain ⟨code, rfl⟩ := address_fields rfl word
    simp only [Instruction.family, accepts, code]
    exact ⟨rfl, rfl⟩
  case skipIfByte | skipUnlessByte | loadByte | addByte | random =>
    obtain ⟨code, rfl, rfl⟩ := byte_fields rfl word
    simp only [Instruction.family, accepts, code]
    exact ⟨rfl, rfl⟩
  case draw =>
    obtain ⟨code, rfl, rfl, rfl⟩ := sprite_fields rfl word
    simp only [Instruction.family, accepts, code]
    exact ⟨rfl, rfl⟩
  case skipIfSame | skipUnlessSame | copy | or | and | xor | add | sub | shiftRight | subFrom
      | shiftLeft =>
    obtain ⟨code, rfl, rfl⟩ := binary_fields rfl word
    simp only [Instruction.family, accepts, code]
    exact ⟨rfl, rfl⟩
  all_goals
    obtain ⟨code, rfl⟩ := unary_fields rfl word
    simp only [Instruction.family, accepts, code]
    exact ⟨rfl, rfl⟩

/-- The table has the codes of all families, and for each of them an instruction with this code. -/
theorem exists_lookup (accepted : family.accepts opcode) :
    ∃ make, Instruction.table.lookup (family.code (Opcode.word opcode)) = some make ∧
      (make opcode).family = family ∧ Opcode.word opcode = (make opcode).encode := by
  have listed : family.code (Opcode.word opcode) ∈ family.codes :=
    List.contains_iff_mem.mp accepted
  cases family with
  | whole =>
    have word := Family.whole.code_word opcode
    generalize whole.code (Opcode.word opcode) = code at listed word ⊢
    simp only [codes, List.mem_cons, List.not_mem_nil, or_false] at listed
    rcases listed with rfl | rfl
    · exact ⟨_, rfl, rfl, word.symm⟩
    · exact ⟨_, rfl, rfl, word.symm⟩
  | unary =>
    have word := unary_word opcode
    generalize unary.code (Opcode.word opcode) = code at listed word ⊢
    simp only [codes, List.mem_cons, List.not_mem_nil, or_false] at listed
    rcases listed with rfl | rfl | rfl | rfl | rfl | rfl | rfl | rfl | rfl | rfl | rfl <;>
      exact ⟨_, rfl, rfl, word⟩
  | binary =>
    have word := binary_word opcode
    generalize binary.code (Opcode.word opcode) = code at listed word ⊢
    simp only [codes, List.mem_cons, List.not_mem_nil, or_false] at listed
    rcases listed with rfl | rfl | rfl | rfl | rfl | rfl | rfl | rfl | rfl | rfl | rfl <;>
      exact ⟨_, rfl, rfl, word⟩
  | immediate =>
    -- all that is behind the first digit is an address, a register and a byte, or three digits
    have word := address_word opcode
    have byte := byte_word opcode
    have sprite := sprite_word opcode
    generalize immediate.code (Opcode.word opcode) = code at listed word ⊢
    simp only [codes, List.mem_cons, List.not_mem_nil, or_false] at listed
    rcases listed with rfl | rfl | rfl | rfl | rfl | rfl | rfl | rfl | rfl | rfl <;>
      exact ⟨_, rfl, rfl, by simp only [Instruction.encode]; omega⟩

/-- The first digits of the words of a family. -/
def digits : Family → List Nat
  | whole => [0x0]
  | unary => [0xE, 0xF]
  | binary => [0x5, 0x8, 0x9]
  | immediate => [0x1, 0x2, 0x3, 0x4, 0x6, 0x7, 0xA, 0xB, 0xC, 0xD]

theorem digit_mem (instruction : Instruction) :
    instruction.encode / 4096 ∈ instruction.family.digits := by
  cases instruction <;>
    simp only [Instruction.encode, Instruction.family, digits, List.mem_cons, List.not_mem_nil,
      or_false] <;> omega

theorem eq_of_digit {n : Nat} (mine : n ∈ family.digits) (theirs : n ∈ other.digits) :
    family = other := by
  cases family <;> cases other <;> simp [digits] at mine theirs ⊢ <;> omega

/-- At most one family accepts an opcode. -/
theorem eq_of_accepts (mine : family.accepts opcode) (theirs : other.accepts opcode) :
    family = other := by
  obtain ⟨make, -, rfl, word⟩ := exists_lookup mine
  obtain ⟨same, -, rfl, wordAgain⟩ := exists_lookup theirs
  apply eq_of_digit (n := Opcode.word opcode / 4096)
  · rw [word]
    exact digit_mem _
  · rw [wordAgain]
    exact digit_mem _

end Family

/-! ## Decoding -/

variable {order : List Family} {opcode : Int} {instruction : Instruction}

/-- When some families are tried, in whatever order, an opcode stands for an instruction exactly
when the family of the instruction is among them and the opcode's lowest 16 bits are the
instruction's word. -/
theorem decodeIn_eq_some_iff :
    decodeIn order opcode = some instruction ↔
      instruction.family ∈ order ∧ Opcode.word opcode = instruction.encode := by
  constructor
  · intro decoded
    unfold decodeIn at decoded
    split at decoded
    · cases decoded
    · next family first =>
      have accepted : family.accepts opcode := by simpa using List.find?_some first
      obtain ⟨make, found, member, word⟩ := Family.exists_lookup accepted
      rw [found] at decoded
      obtain rfl := Option.some.inj decoded
      exact ⟨member ▸ List.mem_of_find?_eq_some first, word⟩
  · rintro ⟨member, word⟩
    obtain ⟨accepted, found⟩ := Family.accepts_of_word word
    unfold decodeIn
    split
    · next none =>
      exact absurd accepted (List.find?_eq_none.mp none _ member)
    · next family first =>
      have alsoAccepted : family.accepts opcode := by simpa using List.find?_some first
      obtain rfl := Family.eq_of_accepts accepted alsoAccepted
      exact found

/-- An opcode stands for an instruction exactly when its lowest 16 bits are the instruction's
word. -/
theorem decode_eq_some_iff :
    decode opcode = some instruction ↔ Opcode.word opcode = instruction.encode := by
  have member : instruction.family ∈ Family.all := by
    cases instruction.family <;> decide
  rw [decode, decodeIn_eq_some_iff, and_iff_right member]

/-- The words `00EE` are the returns. -/
theorem decode_eq_ret_iff : decode opcode = some .ret ↔ Opcode.word opcode = 0x00EE :=
  decode_eq_some_iff

/-- The words `2nnn` are the calls. -/
theorem exists_decode_eq_call_iff :
    (∃ target, decode opcode = some (.call target)) ↔
      0x2000 ≤ Opcode.word opcode ∧ Opcode.word opcode ≤ 0x2FFF := by
  simp only [decode_eq_some_iff, Instruction.encode]
  constructor
  · rintro ⟨target, word⟩
    omega
  · rintro ⟨lower, upper⟩
    exact ⟨⟨Opcode.word opcode - 0x2000, by omega⟩, by simp only; omega⟩

/-- A number of 16 bits is its own word. -/
theorem Opcode.word_of_le {n : Nat} (small : n ≤ 0xFFFF) : Opcode.word n = n := by
  simp only [Opcode.word]
  omega

theorem decode_encode (instruction : Instruction) :
    decode instruction.encode = some instruction := by
  have small : instruction.encode ≤ 0xFFFF := by
    cases instruction <;> simp only [Instruction.encode] <;> omega
  exact decode_eq_some_iff.mpr (Opcode.word_of_le small)

end ChipEight
