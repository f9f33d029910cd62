import ChipEight.Proofs.Instruction.Decode
import Mathlib.Data.List.Forall2

/-!
# The patterns of the instructions

The words of the base set are customarily listed as thirty-four patterns of four hexadecimal digits,
with small letters for the digits of operands. Each instruction has one of them. An opcode is
decoded exactly when its lowest 16 bits match a pattern, and no word matches two of them, so neither
the order in which the families are tried nor the table can go wrong.

## Main definitions

* `patterns` — the patterns of the base set
* `Instruction.pattern` — the pattern of an instruction
* `Matches` — whether a word matches a pattern

## Main results

* `Instruction.encode_matches` — the word of an instruction matches the pattern of the instruction
* `word_of_matches` — there are no other words that match a pattern
* `decode_patterns` — which opcodes are decoded, and to what
-/

namespace ChipEight

/-- The patterns of the base set. Small letters stand for any digit. -/
def patterns : List String :=
  ["00E0", "00EE", "1nnn", "2nnn", "3xkk", "4xkk", "5xy0", "6xkk", "7xkk", "8xy0", "8xy1", "8xy2",
    "8xy3", "8xy4", "8xy5", "8xy6", "8xy7", "8xyE", "9xy0", "Annn", "Bnnn", "Cxkk", "Dxyn", "Ex9E",
    "ExA1", "Fx07", "Fx0A", "Fx15", "Fx18", "Fx1E", "Fx29", "Fx33", "Fx55", "Fx65"]

/-- The pattern of an instruction. -/
def Instruction.pattern : Instruction → String
  | clearScreen => "00E0"
  | ret => "00EE"
  | jump _ => "1nnn"
  | call _ => "2nnn"
  | skipIfByte _ _ => "3xkk"
  | skipUnlessByte _ _ => "4xkk"
  | skipIfSame _ _ => "5xy0"
  | loadByte _ _ => "6xkk"
  | addByte _ _ => "7xkk"
  | copy _ _ => "8xy0"
  | or _ _ => "8xy1"
  | and _ _ => "8xy2"
  | xor _ _ => "8xy3"
  | add _ _ => "8xy4"
  | sub _ _ => "8xy5"
  | shiftRight _ _ => "8xy6"
  | subFrom _ _ => "8xy7"
  | shiftLeft _ _ => "8xyE"
  | skipUnlessSame _ _ => "9xy0"
  | loadIndex _ => "Annn"
  | jumpOffset _ => "Bnnn"
  | random _ _ => "Cxkk"
  | draw _ _ _ => "Dxyn"
  | skipIfDown _ => "Ex9E"
  | skipIfUp _ => "ExA1"
  | readDelay _ => "Fx07"
  | awaitKey _ => "Fx0A"
  | setDelay _ => "Fx15"
  | setSound _ => "Fx18"
  | addIndex _ => "Fx1E"
  | loadGlyph _ => "Fx29"
  | storeDecimal _ => "Fx33"
  | storeRegisters _ => "Fx55"
  | loadRegisters _ => "Fx65"

/-- The four hexadecimal digits of a word, the first one first. -/
def wordDigits (word : Nat) : List Nat :=
  [word / 4096 % 16, word / 256 % 16, word / 16 % 16, word % 16]

/-- The digit that a capital letter or a figure of a pattern stands for. -/
def patternDigit (letter : Char) : Nat :=
  if letter.isDigit then letter.toNat - 48 else letter.toNat - 55

/-- A small letter of a pattern admits any digit, and everything else just the digit it stands
for. -/
def Admits (letter : Char) (digit : Nat) : Prop :=
  letter.isLower ∨ patternDigit letter = digit

/-- The digits of a word are those that a pattern admits. -/
def Matches (pattern : String) (word : Nat) : Prop :=
  List.Forall₂ Admits pattern.toList (wordDigits word)

/-- The word of an instruction matches its pattern. -/
theorem Instruction.encode_matches (instruction : Instruction) :
    Matches instruction.pattern instruction.encode := by
  cases instruction <;>
    simp [pattern, Matches, wordDigits, Admits, encode, patternDigit] <;> omega

/-- A word that matches the pattern of an entry of the table is the word of the entry's
instruction. -/
theorem word_of_matches (opcode : Int) :
    ∀ entry ∈ Instruction.table, Matches (entry.2 0).pattern (Opcode.word opcode) →
      Opcode.word opcode = (entry.2 opcode).encode := by
  have small := Opcode.word_lt opcode
  simp only [Instruction.table, List.forall_mem_cons, List.not_mem_nil, IsEmpty.forall_iff,
    implies_true, and_true]
  and_intros
  all_goals
    intro matched
    simp [Instruction.pattern, Matches, wordDigits, Admits, patternDigit] at matched
    simp only [Instruction.encode, Opcode.address, Opcode.x, Opcode.y, Opcode.digit, Opcode.byte,
      lastDigit, Fin.val_ofNat]
    omega

/-! ## Decoding by patterns -/

/-- The patterns of the base set are those of the table. -/
theorem patterns_eq : patterns = Instruction.table.map fun entry => (entry.2 0).pattern := rfl

/-- The pattern of an entry of the table does not depend on the operands. -/
theorem pattern_of_mem_table (opcode : Int) :
    ∀ entry ∈ Instruction.table, (entry.2 opcode).pattern = (entry.2 0).pattern := by
  simp [Instruction.table, Instruction.pattern]

theorem pattern_mem (instruction : Instruction) : instruction.pattern ∈ patterns := by
  cases instruction <;> exact List.contains_iff_mem.mp rfl

variable {opcode : Int} {instruction : Instruction} {pattern : String}

/-- An opcode that is decoded matches the pattern of its instruction. -/
theorem matches_of_decode (decoded : decode opcode = some instruction) :
    Matches instruction.pattern (Opcode.word opcode) := by
  rw [decode_eq_some_iff.mp decoded]
  exact instruction.encode_matches

theorem pattern_notMem_of_unmatched {names : List String}
    (unmatched : ∀ name ∈ names, ¬ Matches name (Opcode.word opcode))
    (decoded : decode opcode = some instruction) : instruction.pattern ∉ names :=
  fun member => unmatched _ member (matches_of_decode decoded)

/-- An opcode that matches the pattern of an entry of the table is decoded to the instruction of the
entry. -/
theorem decode_of_matches {entry : Nat × (Int → Instruction)} (inTable : entry ∈ Instruction.table)
    (matched : Matches (entry.2 0).pattern (Opcode.word opcode)) :
    decode opcode = some (entry.2 opcode) :=
  decode_eq_some_iff.mpr (word_of_matches opcode entry inTable matched)

/-- An opcode that matches a pattern is decoded to an instruction of this pattern. -/
theorem exists_decode_of_matches (member : pattern ∈ patterns)
    (matched : Matches pattern (Opcode.word opcode)) :
    ∃ instruction, decode opcode = some instruction ∧ instruction.pattern = pattern := by
  rw [patterns_eq] at member
  obtain ⟨entry, inTable, rfl⟩ := List.mem_map.mp member
  exact ⟨entry.2 opcode, decode_of_matches inTable matched,
    pattern_of_mem_table opcode entry inTable⟩

/-- The pattern of the instruction that an opcode stands for is the one that it matches. -/
theorem map_pattern_eq_some_iff :
    (decode opcode).map Instruction.pattern = some pattern ↔
      pattern ∈ patterns ∧ Matches pattern (Opcode.word opcode) := by
  rw [Option.map_eq_some_iff]
  constructor
  · rintro ⟨instruction, decoded, rfl⟩
    exact ⟨pattern_mem instruction, matches_of_decode decoded⟩
  · rintro ⟨member, matched⟩
    exact exists_decode_of_matches member matched

/-- An opcode that matches no pattern is not decoded. -/
theorem decode_eq_none_iff :
    decode opcode = none ↔ ∀ pattern ∈ patterns, ¬ Matches pattern (Opcode.word opcode) := by
  constructor
  · intro unknown pattern member matched
    obtain ⟨instruction, decoded, -⟩ := exists_decode_of_matches member matched
    rw [unknown] at decoded
    cases decoded
  · intro unmatched
    cases decoded : decode opcode with
    | none => rfl
    | some instruction =>
      exact absurd (matches_of_decode decoded) (unmatched _ (pattern_mem instruction))

/-- The order of the families does not matter as long as all of them are tried. -/
theorem decodeIn_of_perm {order : List Family} (all : order.Perm Family.all) :
    decodeIn order opcode = decode opcode := by
  apply Option.ext
  intro instruction
  rw [decode, decodeIn_eq_some_iff, decodeIn_eq_some_iff, all.mem_iff]

/-- **Decoding.** An opcode, which may be negative or have more than 16 bits, stands for the
instruction whose pattern its lowest 16 bits match, with the operands that are found in them, and
for none if they match no pattern. They match no two patterns, a family that accepts an opcode has
the opcode's code in the table, and the families may be tried in any order. -/
theorem decode_patterns (opcode : Int) :
    (∀ pattern, (decode opcode).map Instruction.pattern = some pattern ↔
        pattern ∈ patterns ∧ Matches pattern (opcode % 0x10000).toNat) ∧
      (∀ instruction, decode opcode = some instruction ↔
        (opcode % 0x10000).toNat = instruction.encode) ∧
      (decode opcode = none ↔
        ∀ pattern ∈ patterns, ¬ Matches pattern (opcode % 0x10000).toNat) ∧
      (∀ pattern ∈ patterns, ∀ other ∈ patterns, Matches pattern (opcode % 0x10000).toNat →
        Matches other (opcode % 0x10000).toNat → pattern = other) ∧
      (∀ family : Family, family.accepts opcode →
        ∃ make, Instruction.table.lookup (family.code (opcode % 0x10000).toNat) = some make) ∧
      ∀ order : List Family, order.Perm Family.all → decodeIn order opcode = decode opcode := by
  refine ⟨fun _ => map_pattern_eq_some_iff, fun _ => decode_eq_some_iff, decode_eq_none_iff, ?_, ?_,
    fun _ => decodeIn_of_perm⟩
  · intro pattern member other otherMember matched otherMatched
    -- both are the pattern of the one instruction that the opcode stands for
    have decoded := map_pattern_eq_some_iff.mpr ⟨member, matched⟩
    rw [map_pattern_eq_some_iff.mpr ⟨otherMember, otherMatched⟩] at decoded
    exact (Option.some.inj decoded).symm
  · intro family accepted
    obtain ⟨make, found, -, -⟩ := Family.exists_lookup accepted
    exact ⟨make, found⟩

/-- A negative opcode whose lowest 16 bits are `8AB7`, with the families tried backwards. -/
theorem decode_patterns_negative :
    Matches "8xy7" (-0x7549 % 0x10000 : Int).toNat ∧
      (decode (-0x7549)).map Instruction.pattern = some "8xy7" ∧
      [.immediate, .binary, .unary, .whole].Perm Family.all ∧
      decodeIn [.immediate, .binary, .unary, .whole] (-0x7549) = decode (-0x7549) := by
  have matched : Matches "8xy7" (-0x7549 % 0x10000 : Int).toNat :=
    .cons (.inr rfl) (.cons (.inl rfl) (.cons (.inl rfl) (.cons (.inr rfl) .nil)))
  have backwards : [.immediate, .binary, .unary, .whole].Perm Family.all := by decide
  obtain ⟨decoded, -, -, -, -, reordered⟩ := decode_patterns (-0x7549)
  exact ⟨matched, (decoded "8xy7").mpr ⟨by decide, matched⟩, backwards, reordered _ backwards⟩

end ChipEight
