import ChipEight.Instruction.Basic
import ChipEight.Text.Hex

/-!
# Assembly text

The text of an instruction in the customary mnemonics. Registers are named by their number in
decimal; bytes that are compared, loaded or added are in decimal, addresses and masks in
hexadecimal.

## Main definitions

* `Instruction.assembly` — the text of an instruction
-/

namespace ChipEight

/-- The text of an instruction. -/
def Instruction.assembly : Instruction → String
  | clearScreen => "CLS"
  | ret => "RET"
  | jump a => s!"JP 0x{Text.hex 4 a.val}"
  | call a => s!"CALL 0x{Text.hex 4 a.val}"
  | skipIfByte x k => s!"SE V{x}, {k}"
  | skipUnlessByte x k => s!"SNE V{x}, {k}"
  | skipIfSame x y => s!"SE V{x}, V{y}"
  | loadByte x k => s!"LD V{x}, {k}"
  | addByte x k => s!"ADD V{x}, {k}"
  | copy x y => s!"LD V{x}, V{y}"
  | or x y => s!"OR V{x}, V{y}"
  | and x y => s!"AND V{x}, V{y}"
  | xor x y => s!"XOR V{x}, V{y}"
  | add x y => s!"ADD V{x}, V{y}"
  | sub x y => s!"SUB V{x}, V{y}"
  | shiftRight x _ => s!"SHR V{x}"
  | subFrom x y => s!"SUBN V{x}, V{y}"
  | shiftLeft x _ => s!"SHL V{x}"
  | skipUnlessSame x y => s!"SNE V{x}, V{y}"
  | loadIndex a => s!"LD I, 0x{Text.hex 3 a.val}"
  | jumpOffset a => s!"JP V0, 0x{Text.hex 4 a.val}"
  | random x k => s!"RND V{x}, 0x{Text.hex 2 k.val}"
  | draw x y n => s!"DRW V{x}, V{y}, {n}"
  | skipIfDown x => s!"SKP V{x}"
  | skipIfUp x => s!"SKNP V{x}"
  | readDelay x => s!"LD V{x}, DT"
  | awaitKey x => s!"LD V{x}, K"
  | setDelay x => s!"LD DT, V{x}"
  | setSound x => s!"LD ST, V{x}"
  | addIndex x => s!"ADD I, V{x}"
  | loadGlyph x => s!"LD F, V{x}"
  | storeDecimal x => s!"LD B, V{x}"
  | storeRegisters x => s!"LD [I], V{x}"
  | loadRegisters x => s!"LD V{x}, [I]"

end ChipEight
