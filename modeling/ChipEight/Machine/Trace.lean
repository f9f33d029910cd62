import ChipEight.Instruction.Assembly
import ChipEight.Instruction.Decode
import ChipEight.Machine.Cycle

/-!
# The trace

The lines that tell what a machine does: one for each cycle, and one for the program that is loaded.
A cycle's line depends on the address and the word alone.

## Main definitions

* `CycleResult.trace` — the line of a cycle
* `Rom.trace` — the line of a loaded program
-/

namespace ChipEight

/-- The line of a cycle that fetched the word `opcode` at an address. -/
def traceLine (address opcode : Int) : String :=
  match decode opcode with
  | some instruction =>
    s!"mem_addr: 0x{Text.hex 4 (address % 65536)}    instruction: {instruction.assembly}"
  | none => s!"mem_addr: 0x{Text.hex 4 address}    unknown opcode: 0x{Text.hex 4 opcode}"

/-- The line of a cycle. -/
def CycleResult.trace (result : CycleResult) : String :=
  traceLine result.address result.opcode

/-- The line of a program that has been loaded. -/
def Rom.trace (rom : Rom) : String :=
  s!"A ROM of {rom.size} bytes has been loaded at 0x{Text.hex 4 romStart}"

end ChipEight
