import ChipEight.CallStack
import ChipEight.Display
import ChipEight.Keypad
import ChipEight.Memory
import ChipEight.Random.Source

/-!
# The machine

The state of a CHIP-8 machine and its smallest steps: moving the program counter, setting a
register, reading the word at the program counter, and counting the timers down.

## Main definitions

* `Machine` — the state, with a source of random bytes in `σ`
* `Machine.fresh` — a machine that holds just the font
* `Machine.loadRom`, `Machine.press`, `Machine.release` — what the host does to a machine
* `Machine.fetch`, `Machine.advance`, `Machine.skipIf` — the program counter
* `Machine.tick` — a step of the timers
-/

namespace ChipEight

/-- The width of the machine's display. -/
def screenWidth : Int := 64

/-- The height of the machine's display. -/
def screenHeight : Int := 32

/-- The sixteen registers `V0` to `VF`. -/
abbrev Registers := Vector Nat 16

/-- The state of a machine. -/
structure Machine (σ : Type) where
  memory : Memory
  registers : Registers
  /-- The program counter. -/
  pc : Int
  /-- The register `I`, which addresses sprites and blocks of memory. -/
  index : Nat
  /-- The delay timer. -/
  delay : Nat
  /-- The sound timer. -/
  sound : Nat
  stack : CallStack
  display : Display screenWidth screenHeight
  keypad : Keypad
  /-- Whether the last instruction drew on the display. -/
  drawn : Bool
  /-- Where random bytes come from. -/
  source : σ

namespace Machine

variable {σ : Type}

/-- The machine that holds just the font, with the program counter where a program will start. -/
def fresh (source : σ) : Machine σ where
  memory := .fresh
  registers := Vector.replicate 16 0
  pc := romStart
  index := 0
  delay := 0
  sound := 0
  stack := .empty
  display := .blank _ _
  keypad := .released
  drawn := false
  source := source

/-- The machine with a program in its memory. -/
def loadRom (m : Machine σ) (rom : Rom) : Except Fault (Machine σ) := do
  let memory ← m.memory.loadRom rom
  return { m with memory }

/-- The machine with a key down. -/
def press (m : Machine σ) (key : Fin 16) : Machine σ :=
  { m with keypad := m.keypad.press key }

/-- The machine with a key up that was down. -/
def release (m : Machine σ) (key : Fin 16) : Except Fault (Machine σ) := do
  let keypad ← m.keypad.release key
  return { m with keypad }

/-- The value in `Vx`. -/
def register (m : Machine σ) (x : Fin 16) : Nat :=
  m.registers.get x

/-- The number of a register is below sixteen. -/
theorem number_lt (x : Fin 16) : x.val < 16 :=
  x.isLt

/-- The machine with a value in `Vx`. -/
def setRegister (m : Machine σ) (x : Fin 16) (value : Nat) : Machine σ :=
  { m with registers := m.registers.set x.val value (number_lt x) }

/-- The word at the program counter, high byte first. -/
def fetch (m : Machine σ) : Nat :=
  m.memory.read m.pc * 256 + m.memory.read (m.pc + 1)

/-- The machine with the program counter one instruction further, within 16 bits. -/
def advance (m : Machine σ) : Machine σ :=
  { m with pc := (m.pc + 2) % 65536 }

/-- Skips an instruction if a condition holds. -/
def skipIf (m : Machine σ) (condition : Bool) : Machine σ :=
  if condition then m.advance else m

/-- Counts both timers down, to zero at least. It is due sixty times a second. -/
def tick (m : Machine σ) : Machine σ :=
  { m with delay := m.delay - 1, sound := m.sound - 1 }

/-- Counts both timers down `n` times. -/
def ticks (m : Machine σ) : Nat → Machine σ
  | 0 => m
  | n + 1 => m.tick.ticks n

end Machine

end ChipEight
