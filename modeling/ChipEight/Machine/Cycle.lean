import ChipEight.Instruction.Decode
import ChipEight.Machine.Execute

/-!
# The instruction cycle

A cycle fetches the word at the program counter, moves the program counter behind it, decodes the
word and executes the instruction. For an unknown word the program counter is moved back to it.
After a refused instruction the program counter is behind it.

## Main definitions

* `CycleResult` — where a word was fetched from, the word, and whether it was executed
* `Machine.cycle` — one cycle
* `Machine.run` — cycles up to the first that does not execute an instruction
-/

namespace ChipEight

/-- What a cycle did with the word `opcode` at an address. -/
inductive CycleResult where
  /-- The word was executed. -/
  | executed (address opcode : Int)
  /-- The word stands for no instruction. -/
  | unknown (address opcode : Int)
  deriving DecidableEq, Repr

namespace CycleResult

/-- The address that the word was fetched from. -/
def address : CycleResult → Int
  | executed address _ | unknown address _ => address

/-- The word that was fetched. -/
def opcode : CycleResult → Int
  | executed _ opcode | unknown _ opcode => opcode

/-- Whether the word was executed. -/
def isExecuted : CycleResult → Bool
  | executed .. => true
  | unknown .. => false

/-- The name of what happened to the word. -/
def name : CycleResult → String
  | executed .. => "Executed"
  | unknown .. => "DecodeFailure"

/-- A result as text. -/
def text (result : CycleResult) : String :=
  s!"{result.name}(address={result.address}, opcode={result.opcode})"

end CycleResult

namespace Machine

variable {σ : Type} [ByteSource σ]

/-- One cycle: its result, or why the instruction was refused, and the machine after it. -/
def cycle (m : Machine σ) : Except Fault CycleResult × Machine σ :=
  let address := m.pc
  let opcode := m.fetch
  let m := { m with drawn := false }.advance
  match decode opcode with
  | none => (.ok (.unknown address opcode), { m with pc := address })
  | some instruction =>
    match m.execute instruction with
    | .ok next => (.ok (.executed address opcode), next)
    | .error fault => (.error fault, m)

end Machine

/-- What a run of cycles did. -/
structure Run (σ : Type) where
  /-- The machine after the last cycle. -/
  machine : Machine σ
  /-- The results of the cycles in order. -/
  results : List CycleResult
  /-- Whether one of the cycles drew on the display. -/
  drawn : Bool
  /-- Why the last instruction was refused, if it was. -/
  fault : Option Fault

namespace Machine

variable {σ : Type} [ByteSource σ]

/-- Goes on with a run for up to `n` cycles; `results` are those so far, the latest first. -/
def runFrom (m : Machine σ) (results : List CycleResult) (drawn : Bool) : Nat → Run σ
  | 0 => ⟨m, results.reverse, drawn, none⟩
  | n + 1 =>
    match m.cycle with
    | (.error fault, m) => ⟨m, results.reverse, drawn || m.drawn, some fault⟩
    | (.ok result, m) =>
      if result.isExecuted then runFrom m (result :: results) (drawn || m.drawn) n
      else ⟨m, (result :: results).reverse, drawn || m.drawn, none⟩

/-- Runs up to `n` cycles and stops after the first that executes no instruction. -/
def run (m : Machine σ) (n : Nat) : Run σ :=
  m.runFrom [] false n

end Machine

end ChipEight
