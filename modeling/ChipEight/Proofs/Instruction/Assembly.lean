import ChipEight.Instruction.Assembly
import ChipEight.Proofs.Instruction.Decode
import ChipEight.Proofs.Text.Digits
import Mathlib.Data.Fin.Basic

/-!
# Reading assembly text

The text of an instruction can be read back. It consists of words with blanks between them; a comma
behind a word does not matter. A word is a name, a register, or a number in decimal or in
hexadecimal, and the words of an instruction tell which one it is and what its operands are. Only
the third digit of the two shifts is not written, as no instruction uses it.

## Main definitions

* `Token` — what a word is, with `Token.text` and `Token.read`
* `Token.Spells` — a text consists of words
* `Token.readAll` — the words of a text
* `Instruction.tokens`, `Instruction.ofTokens` — the words of an instruction, and back
* `Instruction.shown` — an instruction as far as its text shows it

## Main results

* `Token.readAll_of_spells` — a text that consists of words can be read back
* `Instruction.assembly_spells` — the text of an instruction consists of its words
* `Instruction.ofTokens_tokens`, `Instruction.tokens_eq_iff` — the words of an instruction tell
  which one it is
-/

namespace ChipEight

/-- A word of a text. -/
inductive Token where
  /-- The name of an instruction, or of a place that is no numbered register. -/
  | name (word : String)
  /-- A register by its number. -/
  | register (x : Nat)
  /-- A number in decimal. -/
  | decimal (n : Nat)
  /-- A number in hexadecimal, in a number of places. -/
  | hexadecimal (width n : Nat)
  deriving DecidableEq

namespace Token

/-- The characters of a word. -/
def text : Token → List Char
  | name word => word.toList
  | register x => 'V' :: Nat.toDigits 10 x
  | decimal n => Nat.toDigits 10 n
  | hexadecimal width n => '0' :: 'x' :: Text.hexDigitsPadded width n

/-- What a word is, by its first characters. -/
def read : List Char → Token
  | 'V' :: digits => register (Text.ofDigits 10 digits)
  | '0' :: 'x' :: digits => hexadecimal digits.length (Text.ofDigits 16 digits)
  | c :: rest =>
    if c.isDigit then decimal (Text.ofDigits 10 (c :: rest)) else name (String.ofList (c :: rest))
  | [] => name ""

/-- A name does not look like a register or a number, a blank does not stand in it, and a number
fits its places. -/
def Proper : Token → Prop
  | name word =>
    (∀ c ∈ word.toList.head?, c ≠ 'V' ∧ c.isDigit = false) ∧ ' ' ∉ word.toList
  | register _ | decimal _ => True
  | hexadecimal width n => 0 < width ∧ n < 16 ^ width

/-- A text consists of the given words with blanks between them, apart from commas. -/
def Spells (tokens : List Token) (s : String) : Prop :=
  s.toList.filter (· != ',') = [' '].intercalate (tokens.map text)

/-- The words of a text. -/
def readAll (s : String) : List Token :=
  ((s.toList.filter (· != ',')).splitOn ' ').map read

/-! ## Reading a word -/

theorem read_decimal (n : Nat) : read (Nat.toDigits 10 n) = decimal n := by
  have value : Text.ofDigits 10 (Nat.toDigits 10 n) = n :=
    Text.ofDigits_toDigits (by decide) (by decide) n
  have figures : ∀ c ∈ Nat.toDigits 10 n, c.isDigit = true := fun _ =>
    Nat.isDigit_of_mem_toDigits (by decide) (by decide)
  have some : Nat.toDigits 10 n ≠ [] := Nat.toDigits_ne_nil
  generalize Nat.toDigits 10 n = digits at value figures some
  unfold read
  split
  · exact absurd (figures 'V' (List.mem_cons_self ..)) (by decide)
  · exact absurd (figures 'x' (List.mem_cons_of_mem _ (List.mem_cons_self ..))) (by decide)
  · rw [if_pos (figures _ (List.mem_cons_self ..)), value]
  · exact absurd rfl some

theorem read_name {word : String} (proper : (name word).Proper) : read word.toList = name word := by
  have first := proper.1
  have back : String.ofList word.toList = word := String.ofList_toList
  generalize word.toList = letters at first back
  unfold read
  split
  · exact absurd rfl (first 'V' rfl).1
  · exact absurd (first '0' rfl).2 (by decide)
  · next c rest _ _ =>
    rw [(first c rfl).2, if_neg (by decide), back]
  · rw [← back]

/-- A word can be read back. -/
theorem read_text {token : Token} (proper : token.Proper) : read token.text = token := by
  cases token with
  | name word => exact read_name proper
  | register x =>
    exact congrArg register (Text.ofDigits_toDigits (by decide) (by decide) x)
  | decimal n => exact read_decimal n
  | hexadecimal width n =>
    have length := Text.length_hexDigitsPadded proper.1 proper.2
    have value := Text.ofDigits_hexDigitsPadded width n
    show hexadecimal _ _ = _
    rw [length, value]

/-- There is no blank in a word. -/
theorem blank_notMem_text {token : Token} (proper : token.Proper) : ' ' ∉ token.text := by
  have figures : ∀ n, ' ' ∉ Nat.toDigits 10 n := fun n member =>
    absurd (Text.isAlphanum_of_mem_toDigits (by decide) (by decide) n _ member) (by decide)
  cases token with
  | name word => exact proper.2
  | register x => simpa [text] using figures x
  | decimal n => exact figures n
  | hexadecimal width n =>
    have padded : ' ' ∉ Text.hexDigitsPadded width n := fun member =>
      absurd (Text.isAlphanum_of_mem_hexDigitsPadded member) (by decide)
    simpa [text] using padded

/-- A text that consists of words can be read back. -/
theorem readAll_of_spells {tokens : List Token} {s : String} (some : tokens ≠ [])
    (proper : ∀ token ∈ tokens, token.Proper) (spells : Spells tokens s) : readAll s = tokens := by
  have noBlank : ∀ word ∈ tokens.map text, ' ' ∉ word := by
    intro word member
    obtain ⟨token, inTokens, rfl⟩ := List.mem_map.mp member
    exact blank_notMem_text (proper token inTokens)
  rw [readAll, show _ = _ from spells,
    List.splitOn_intercalate ' ' noBlank (mt List.map_eq_nil_iff.mp some), List.map_map]
  calc tokens.map (read ∘ text)
    _ = tokens.map id := List.map_congr_left fun token member => read_text (proper token member)
    _ = tokens := List.map_id tokens

/-! ## Texts that are put together -/

theorem filter_comma {s : List Char} (figures : ∀ c ∈ s, c.isAlphanum = true) :
    s.filter (· != ',') = s := by
  refine List.filter_eq_self.mpr fun c member => bne_iff_ne.mpr ?_
  rintro rfl
  exact absurd (figures ',' member) (by decide)

theorem filter_comma_toDigits (n : Nat) :
    (Nat.toDigits 10 n).filter (· != ',') = Nat.toDigits 10 n :=
  filter_comma (Text.isAlphanum_of_mem_toDigits (by decide) (by decide) n)

theorem filter_comma_hexDigitsPadded (width n : Nat) :
    (Text.hexDigitsPadded width n).filter (· != ',') = Text.hexDigitsPadded width n :=
  filter_comma fun _ => Text.isAlphanum_of_mem_hexDigitsPadded

theorem toString_text (s : String) : toString s = s := rfl

theorem toList_toString_fin {n : Nat} (x : Fin n) : (toString x).toList = Nat.toDigits 10 x :=
  Nat.toList_repr

end Token

/-! ## The words of an instruction -/

namespace Instruction

/-- The words of the text of an instruction. -/
def tokens : Instruction → List Token
  | clearScreen => [.name "CLS"]
  | ret => [.name "RET"]
  | jump a => [.name "JP", .hexadecimal 4 a]
  | call a => [.name "CALL", .hexadecimal 4 a]
  | skipIfByte x k => [.name "SE", .register x, .decimal k]
  | skipUnlessByte x k => [.name "SNE", .register x, .decimal k]
  | skipIfSame x y => [.name "SE", .register x, .register y]
  | loadByte x k => [.name "LD", .register x, .decimal k]
  | addByte x k => [.name "ADD", .register x, .decimal k]
  | copy x y => [.name "LD", .register x, .register y]
  | or x y => [.name "OR", .register x, .register y]
  | and x y => [.name "AND", .register x, .register y]
  | xor x y => [.name "XOR", .register x, .register y]
  | add x y => [.name "ADD", .register x, .register y]
  | sub x y => [.name "SUB", .register x, .register y]
  | shiftRight x _ => [.name "SHR", .register x]
  | subFrom x y => [.name "SUBN", .register x, .register y]
  | shiftLeft x _ => [.name "SHL", .register x]
  | skipUnlessSame x y => [.name "SNE", .register x, .register y]
  | loadIndex a => [.name "LD", .name "I", .hexadecimal 3 a]
  | jumpOffset a => [.name "JP", .register 0, .hexadecimal 4 a]
  | random x k => [.name "RND", .register x, .hexadecimal 2 k]
  | draw x y n => [.name "DRW", .register x, .register y, .decimal n]
  | skipIfDown x => [.name "SKP", .register x]
  | skipIfUp x => [.name "SKNP", .register x]
  | readDelay x => [.name "LD", .register x, .name "DT"]
  | awaitKey x => [.name "LD", .register x, .name "K"]
  | setDelay x => [.name "LD", .name "DT", .register x]
  | setSound x => [.name "LD", .name "ST", .register x]
  | addIndex x => [.name "ADD", .name "I", .register x]
  | loadGlyph x => [.name "LD", .name "F", .register x]
  | storeDecimal x => [.name "LD", .name "B", .register x]
  | storeRegisters x => [.name "LD", .name "[I]", .register x]
  | loadRegisters x => [.name "LD", .register x, .name "[I]"]

/-- The instruction without operands of a name. -/
def ofName : String → Option Instruction
  | "CLS" => some clearScreen
  | "RET" => some ret
  | _ => none

/-- The instruction of a name with an address. -/
def ofAddress (a : Fin 4096) : String → Option Instruction
  | "JP" => some (jump a)
  | "CALL" => some (call a)
  | _ => none

/-- The instruction of a name with a register. -/
def ofRegister (x : Fin 16) : String → Option Instruction
  | "SHR" => some (shiftRight x (lastDigit 0))
  | "SHL" => some (shiftLeft x (lastDigit 0))
  | "SKP" => some (skipIfDown x)
  | "SKNP" => some (skipIfUp x)
  | _ => none

/-- The instruction of a name with two registers. -/
def ofRegisters (x y : Fin 16) : String → Option Instruction
  | "SE" => some (skipIfSame x y)
  | "LD" => some (copy x y)
  | "OR" => some (or x y)
  | "AND" => some (and x y)
  | "XOR" => some (xor x y)
  | "ADD" => some (add x y)
  | "SUB" => some (sub x y)
  | "SUBN" => some (subFrom x y)
  | "SNE" => some (skipUnlessSame x y)
  | _ => none

/-- The instruction of a name with a register and a number in decimal. -/
def ofByte (x : Fin 16) (k : Fin 256) : String → Option Instruction
  | "SE" => some (skipIfByte x k)
  | "SNE" => some (skipUnlessByte x k)
  | "LD" => some (loadByte x k)
  | "ADD" => some (addByte x k)
  | _ => none

/-- The instruction of a name with a register and a number in hexadecimal. -/
def ofMask (x : Fin 16) (n : Nat) : String → Option Instruction
  | "JP" => some (jumpOffset (Opcode.address n))
  | "RND" => some (random x (Opcode.byte n))
  | _ => none

/-- The instruction that takes a register from a place. -/
def fromPlace (x : Fin 16) : String → Option Instruction
  | "DT" => some (readDelay x)
  | "K" => some (awaitKey x)
  | "[I]" => some (loadRegisters x)
  | _ => none

/-- The instruction of a name that puts a register to a place. -/
def toPlace (x : Fin 16) (name : String) : String → Option Instruction
  | "I" => if name = "ADD" then some (addIndex x) else none
  | "DT" => some (setDelay x)
  | "ST" => some (setSound x)
  | "F" => some (loadGlyph x)
  | "B" => some (storeDecimal x)
  | "[I]" => some (storeRegisters x)
  | _ => none

/-- The instruction that words stand for. A digit that is not written is taken to be zero. -/
def ofTokens : List Token → Option Instruction
  -- the kinds of the words tell apart what shares a name
  | [.name name] => ofName name
  | [.name name, .hexadecimal _ a] => ofAddress (Opcode.address a) name
  | [.name name, .register x] => ofRegister (lastDigit x) name
  | [.name name, .register x, .register y] => ofRegisters (lastDigit x) (lastDigit y) name
  | [.name name, .register x, .decimal k] => ofByte (lastDigit x) (Opcode.byte k) name
  | [.name name, .register x, .hexadecimal _ n] => ofMask (lastDigit x) n name
  | [.name _, .name _, .hexadecimal _ a] => some (loadIndex (Opcode.address a))
  | [.name _, .register x, .register y, .decimal n] =>
    some (draw (lastDigit x) (lastDigit y) (lastDigit n))
  | [.name _, .register x, .name place] => fromPlace (lastDigit x) place
  | [.name name, .name place, .register x] => toPlace (lastDigit x) name place
  | _ => none

/-- An instruction as far as its text shows it: without the digit that a shift does not use. -/
def shown : Instruction → Instruction
  | shiftRight x _ => shiftRight x (lastDigit 0)
  | shiftLeft x _ => shiftLeft x (lastDigit 0)
  | instruction => instruction

/-! An operand is what an opcode has in the place for it. -/

theorem lastDigit_operand (x : Fin 16) : lastDigit x = x := by
  simp [lastDigit]

theorem byte_operand (k : Fin 256) : Opcode.byte (k : Nat) = k := by
  rw [Opcode.byte, Opcode.word_of_le (by omega), Fin.ofNat_val_eq_self]

theorem address_operand (a : Fin 4096) : Opcode.address (a : Nat) = a := by
  rw [Opcode.address, Opcode.word_of_le (by omega), Fin.ofNat_val_eq_self]

/-- The words of an instruction tell which one it is, as far as its text shows it. -/
theorem ofTokens_tokens (instruction : Instruction) :
    ofTokens instruction.tokens = some instruction.shown := by
  cases instruction <;>
    simp [tokens, ofTokens, shown, ofName, ofAddress, ofRegister, ofRegisters, ofByte, ofMask,
      fromPlace, toPlace, lastDigit_operand, byte_operand, address_operand]

theorem tokens_ne_nil (instruction : Instruction) : instruction.tokens ≠ [] := by
  cases instruction <;> exact List.cons_ne_nil _ _

theorem tokens_proper (instruction : Instruction) : ∀ token ∈ instruction.tokens, token.Proper := by
  cases instruction <;> simp [tokens, Token.Proper] <;> omega

/-- The text of an instruction consists of its words. -/
theorem assembly_spells (instruction : Instruction) :
    Token.Spells instruction.tokens instruction.assembly := by
  cases instruction <;>
    simp [Token.Spells, assembly, tokens, Token.text, Token.toString_text,
      Token.toList_toString_fin, Text.toList_hex, Token.filter_comma_toDigits,
      Token.filter_comma_hexDigitsPadded]

/-! ## Instructions with the same words -/

theorem shown_cases (instruction : Instruction) :
    instruction.shown = instruction ∨ (∃ x y, instruction = shiftRight x y) ∨
      ∃ x y, instruction = shiftLeft x y := by
  cases instruction
  case shiftRight x y => exact .inr (.inl ⟨x, y, rfl⟩)
  case shiftLeft x y => exact .inr (.inr ⟨x, y, rfl⟩)
  all_goals exact .inl rfl

/-- Instructions with the same words are the same, apart from the digit that a shift does not
use. -/
theorem tokens_eq_iff {i j : Instruction} :
    i.tokens = j.tokens ↔
      i = j ∨ ∃ x y z, i = shiftRight x y ∧ j = shiftRight x z ∨
        i = shiftLeft x y ∧ j = shiftLeft x z := by
  constructor
  · intro same
    have shown : i.shown = j.shown := by
      apply Option.some.inj
      rw [← ofTokens_tokens, ← ofTokens_tokens, same]
    rcases i.shown_cases with left | ⟨x, y, rfl⟩ | ⟨x, y, rfl⟩
    all_goals rcases j.shown_cases with right | ⟨v, w, rfl⟩ | ⟨v, w, rfl⟩
    · exact .inl (left.symm.trans (shown.trans right))
    · exact .inr ⟨v, 0, w, .inl ⟨left.symm.trans shown, rfl⟩⟩
    · exact .inr ⟨v, 0, w, .inr ⟨left.symm.trans shown, rfl⟩⟩
    · exact .inr ⟨x, y, 0, .inl ⟨rfl, right.symm.trans shown.symm⟩⟩
    · cases shown
      exact .inr ⟨x, y, w, .inl ⟨rfl, rfl⟩⟩
    · cases shown
    · exact .inr ⟨x, y, 0, .inr ⟨rfl, right.symm.trans shown.symm⟩⟩
    · cases shown
    · cases shown
      exact .inr ⟨x, y, w, .inr ⟨rfl, rfl⟩⟩
  · rintro (rfl | ⟨x, y, z, ⟨rfl, rfl⟩ | ⟨rfl, rfl⟩⟩)
    · rfl
    · rfl
    · rfl

end Instruction

end ChipEight
