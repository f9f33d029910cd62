import ChipEight.HostEvent
import ChipEight.Machine.Dump
import ChipEight.Machine.Frame
import ChipEight.Machine.Trace

/-!
# Commands

Everything that can be done to a machine from outside, as data: what the host does, steps of the
machine, and the looks and changes of a monitor. A command that is refused leaves the machine as the
refused operation left it.

## Main definitions

* `Command` — a command
* `Answer` — what a command answers
* `Machine.perform` — carries out a command
-/

namespace ChipEight

/-- New values for some of the registers. -/
structure RegisterValues where
  pc : Option Int
  index : Option Nat
  delay : Option Nat
  sound : Option Nat
  registers : Option Registers

/-- A command to a machine. -/
inductive Command where
  /-- Loads a program. -/
  | loadRom (rom : Rom)
  /-- One cycle. -/
  | cycle
  /-- Up to `n` cycles, ended by the first that executes no instruction. -/
  | run (n : Nat)
  /-- One frame. -/
  | frame (cycles : Int)
  /-- `n` steps of the timers. -/
  | tick (n : Nat)
  /-- An event of the host. -/
  | event (event : HostEvent)
  /-- Puts a key down. -/
  | press (key : Value)
  /-- Puts a key up. -/
  | release (key : Value)
  /-- Looks whether a key is down. -/
  | key (key : Value)
  /-- Looks whether all keys are up. -/
  | untouched
  /-- Looks for the lowest key that is down. -/
  | first
  /-- Looks at a pixel. -/
  | pixel (x y : Int)
  /-- Combines a pixel with a bit. -/
  | xorPixel (x y : Int) (bit : Bool)
  /-- Turns all pixels off. -/
  | clear
  /-- Looks at a memory cell. -/
  | peek (address : Int)
  /-- Changes a memory cell. -/
  | poke (address value : Int)
  /-- Asks for the size of the memory. -/
  | memorySize
  /-- Puts an address on the call stack. -/
  | push (address : Int)
  /-- Takes an address from the call stack. -/
  | pop
  /-- Asks for the call stack as text. -/
  | stackText
  /-- Asks for the state dump. -/
  | dump
  /-- Looks at the word at the program counter. -/
  | fetch
  /-- Asks for the report of a crash. -/
  | crashReport (reason : String)
  /-- Changes registers. -/
  | set (values : RegisterValues)

/-- What a command answers. -/
inductive Answer where
  | none
  | flag (value : Bool)
  | number (value : Int)
  | text (value : String)
  | result (value : CycleResult)
  /-- The number of instructions that a run executed, and what its last cycle did, if it had one. -/
  | run (executed : Nat) (last : Option (Except Fault CycleResult))

/-- What came of a command. -/
structure Outcome (σ : Type) where
  machine : Machine σ
  answer : Except Fault Answer
  /-- The lines of the trace. -/
  trace : List String

namespace Outcome

variable {σ : Type}

/-- The command only looked. -/
def look (machine : Machine σ) (answer : Answer) : Outcome σ :=
  ⟨machine, .ok answer, []⟩

/-- The command changed the machine. -/
def done (machine : Machine σ) : Outcome σ :=
  look machine .none

/-- The command was refused by an operation that changes nothing then. -/
def refused (machine : Machine σ) (fault : Fault) : Outcome σ :=
  ⟨machine, .error fault, []⟩

/-- The answer of an operation that gives a new machine. -/
def ofExcept (machine : Machine σ) : Except Fault (Answer × Machine σ) → Outcome σ
  | .ok (answer, next) => look next answer
  | .error fault => refused machine fault

end Outcome

/-- The answer to a run of cycles. -/
def Run.answer {σ : Type} (run : Run σ) : Answer :=
  .run (run.results.countP CycleResult.isExecuted)
    (match run.fault with
      | some fault => some (.error fault)
      | none => run.results.getLast?.map .ok)

namespace Machine

variable {σ : Type} [ByteSource σ]

/-- The machine with new values for some of its registers. -/
def setValues (m : Machine σ) (values : RegisterValues) : Machine σ :=
  { m with
    pc := values.pc.getD m.pc
    index := values.index.getD m.index
    delay := values.delay.getD m.delay
    sound := values.sound.getD m.sound
    registers := values.registers.getD m.registers }

/-- Carries out a command. -/
def perform (m : Machine σ) : Command → Outcome σ
  | .loadRom rom =>
    match m.loadRom rom with
    | .ok next => ⟨next, .ok .none, [rom.trace]⟩
    | .error fault => .refused m fault
  | .cycle =>
    let (result, next) := m.cycle
    match result with
    | .ok result => ⟨next, .ok (.result result), [result.trace]⟩
    | .error fault => .refused next fault
  | .run n =>
    let run := m.run n
    ⟨run.machine, .ok run.answer, run.results.map CycleResult.trace⟩
  | .frame cycles =>
    let frame := m.frame cycles
    let answer : Except Fault Answer :=
      match frame.ending with
      | .completed => .ok .none
      | .unknown address opcode => .ok (.result (.unknown address opcode))
      | .refused fault => .error fault
    ⟨frame.machine, answer, frame.results.map CycleResult.trace⟩
  | .tick n => .done (m.ticks n)
  | .event event =>
    .ofExcept m (do
      let (goesOn, next) ← event.deliver m
      return (.flag goesOn, next))
  | .press key =>
    .ofExcept m (do
      let key ← Keypad.keyOf key
      return (.none, m.press key))
  | .release key =>
    .ofExcept m (do
      let key ← Keypad.keyOf key
      return (.none, ← m.release key))
  | .key key =>
    .ofExcept m (do
      let key ← Keypad.keyOf key
      return (.flag (m.keypad.isDown key), m))
  | .untouched => .look m (.flag m.keypad.untouched)
  | .first =>
    .look m (match m.keypad.first with
      | some key => .number key.val
      | none => .none)
  | .pixel x y =>
    .ofExcept m (do
      let lit ← m.display.pixelAt x y
      return (.flag lit, m))
  | .xorPixel x y bit =>
    .ofExcept m (do
      let (hit, display) ← m.display.xorPixel x y bit
      return (.flag hit, { m with display }))
  | .clear => .done { m with display := .blank _ _ }
  | .peek address => .look m (.number (m.memory.read address))
  | .poke address value => .done { m with memory := m.memory.write address value }
  | .memorySize => .look m (.number m.memory.cells.size)
  | .push address =>
    .ofExcept m (do
      let stack ← m.stack.push address
      return (.none, { m with stack }))
  | .pop =>
    .ofExcept m (do
      let (address, stack) ← m.stack.pop
      return (.number address, { m with stack }))
  | .stackText => .look m (.text m.stack.text)
  | .dump => .look m (.text m.dump)
  | .fetch => .look m (.number m.fetch)
  | .crashReport reason => .look m (.text (m.crashReport reason))
  | .set values => .done (m.setValues values)

end Machine

end ChipEight
