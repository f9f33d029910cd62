import ChipEight.Instruction.Basic

/-!
# Decoding

The instructions form four families by the place of their operands: none, one register, two
registers, and anything behind the first digit. A family has a mask that keeps the digits of a word
that are no operands, and a list of the codes that its instructions have under the mask. The first
family with the code of a word in its list decides, and a table tells which instruction has that
code. Words of no family are unknown.

## Main definitions

* `Family` — the four families
* `Family.mask`, `Family.codes` — the mask of a family, and the codes of its instructions
* `Family.accepts` — whether a family has an instruction for an opcode
* `Instruction.table` — the instructions by their codes
* `decode` — the instruction that an opcode stands for
-/

namespace ChipEight

/-- The families of instructions by the place of their operands. -/
inductive Family where
  /-- No operands. -/
  | whole
  /-- A register in the second digit. -/
  | unary
  /-- Registers in the second and third digits. -/
  | binary
  /-- Operands in all digits but the first. -/
  | immediate
  deriving DecidableEq, Repr

namespace Family

/-- The families, those with fewer operand digits first. -/
def all : List Family := [whole, unary, binary, immediate]

/-- The digits that are no operands. -/
def mask : Family → Nat
  | whole => 0xFFFF
  | unary => 0xF0FF
  | binary => 0xF00F
  | immediate => 0xF000

/-- The codes of the instructions of the family. -/
def codes : Family → List Nat
  | whole => [0x00E0, 0x00EE]
  | unary =>
    [0xE09E, 0xE0A1, 0xF007, 0xF00A, 0xF015, 0xF018, 0xF01E, 0xF029, 0xF033, 0xF055, 0xF065]
  | binary =>
    [0x5000, 0x8000, 0x8001, 0x8002, 0x8003, 0x8004, 0x8005, 0x8006, 0x8007, 0x800E, 0x9000]
  | immediate =>
    [0x1000, 0x2000, 0x3000, 0x4000, 0x6000, 0x7000, 0xA000, 0xB000, 0xC000, 0xD000]

/-- The word with the operand digits of the family cleared. -/
def code (family : Family) (word : Nat) : Nat :=
  word &&& family.mask

/-- Whether the family has an instruction for an opcode. -/
def accepts (family : Family) (opcode : Int) : Bool :=
  family.codes.contains (family.code (Opcode.word opcode))

end Family

open Opcode in
/-- The instructions by their codes. The operands of an instruction are fields of its opcode. -/
def Instruction.table : List (Nat × (Int → Instruction)) := [
  (0x00E0, fun _ => clearScreen),
  (0x00EE, fun _ => ret),
  (0x1000, fun opcode => jump (address opcode)),
  (0x2000, fun opcode => call (address opcode)),
  (0x3000, fun opcode => skipIfByte (x opcode) (byte opcode)),
  (0x4000, fun opcode => skipUnlessByte (x opcode) (byte opcode)),
  (0x5000, fun opcode => skipIfSame (x opcode) (y opcode)),
  (0x6000, fun opcode => loadByte (x opcode) (byte opcode)),
  (0x7000, fun opcode => addByte (x opcode) (byte opcode)),
  (0x8000, fun opcode => copy (x opcode) (y opcode)),
  (0x8001, fun opcode => or (x opcode) (y opcode)),
  (0x8002, fun opcode => and (x opcode) (y opcode)),
  (0x8003, fun opcode => xor (x opcode) (y opcode)),
  (0x8004, fun opcode => add (x opcode) (y opcode)),
  (0x8005, fun opcode => sub (x opcode) (y opcode)),
  (0x8006, fun opcode => shiftRight (x opcode) (y opcode)),
  (0x8007, fun opcode => subFrom (x opcode) (y opcode)),
  (0x800E, fun opcode => shiftLeft (x opcode) (y opcode)),
  (0x9000, fun opcode => skipUnlessSame (x opcode) (y opcode)),
  (0xA000, fun opcode => loadIndex (address opcode)),
  (0xB000, fun opcode => jumpOffset (address opcode)),
  (0xC000, fun opcode => random (x opcode) (byte opcode)),
  (0xD000, fun opcode => draw (x opcode) (y opcode) (digit opcode)),
  (0xE09E, fun opcode => skipIfDown (x opcode)),
  (0xE0A1, fun opcode => skipIfUp (x opcode)),
  (0xF007, fun opcode => readDelay (x opcode)),
  (0xF00A, fun opcode => awaitKey (x opcode)),
  (0xF015, fun opcode => setDelay (x opcode)),
  (0xF018, fun opcode => setSound (x opcode)),
  (0xF01E, fun opcode => addIndex (x opcode)),
  (0xF029, fun opcode => loadGlyph (x opcode)),
  (0xF033, fun opcode => storeDecimal (x opcode)),
  (0xF055, fun opcode => storeRegisters (x opcode)),
  (0xF065, fun opcode => loadRegisters (x opcode))]

/-- The instruction that an opcode stands for when the families are tried in the given order. -/
def decodeIn (order : List Family) (opcode : Int) : Option Instruction :=
  match order.find? (·.accepts opcode) with
  | none => none
  | some family =>
    (Instruction.table.lookup (family.code (Opcode.word opcode))).map (· opcode)

/-- The instruction that an opcode stands for. -/
def decode (opcode : Int) : Option Instruction :=
  decodeIn Family.all opcode

end ChipEight
