import ChipEight.Machine.Basic

/-!
# The state dump

The registers, the call stack, the timers and the draw flag of a machine as text, and the report
that a crashed session ends with.

## Main definitions

* `Machine.dump` — the state of a machine on four lines
* `Machine.crashReport` — a reason and the state
-/

namespace ChipEight.Machine

variable {σ : Type}

/-- The numbers in brackets, separated by commas. -/
def listText (numbers : List Nat) : String :=
  "[" ++ ", ".intercalate (numbers.map toString) ++ "]"

/-- The state of a machine, except for its memory, display and keypad. -/
def dump (m : Machine σ) : String :=
  let registers := listText m.registers.toList
  let flag := if m.drawn then "True" else "False"
  s!"PC_REGISTER:0x{Text.hex 4 m.pc} | IDX_REGISTER:0x{Text.hex 4 m.index}"
    ++ s!" | VARIABLE_REGISTERS:{registers}\n"
    ++ s!"STACK:{m.stack.text} | DEPTH:{m.stack.depth}\n"
    ++ s!"DELAY_TIMER:{m.delay} | SOUND_TIMER:{m.sound}\n"
    ++ s!"DRAW: {flag}"

/-- The report of a crash for a reason. -/
def crashReport (m : Machine σ) (reason : String) : String :=
  s!"********** THE EMULATOR CRASHED: {reason}\n{m.dump}"

end ChipEight.Machine
