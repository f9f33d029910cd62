import ChipEight.Machine.Cycle

/-!
# Frames

A frame is a number of cycles followed by a step of the timers. An unknown word ends the frame
before its timer step, and so does a refused instruction. Afterwards the draw flag tells whether
anything was drawn during the frame, unless an instruction was refused.

## Main definitions

* `Ending` — how a frame ended
* `Frame` — the machine after a frame, the results of its cycles and its ending
* `Machine.frame` — one frame
-/

namespace ChipEight

/-- How a frame ended. -/
inductive Ending where
  /-- All cycles executed an instruction. -/
  | completed
  /-- The word `opcode` at an address stands for no instruction. -/
  | unknown (address opcode : Int)
  /-- An instruction was refused. -/
  | refused (fault : Fault)

/-- What a frame did. -/
structure Frame (σ : Type) where
  machine : Machine σ
  results : List CycleResult
  ending : Ending

/-- The ending of the frame that a run of cycles belongs to. -/
def Run.ending {σ : Type} (run : Run σ) : Ending :=
  match run.fault, run.results.getLast? with
  | some fault, _ => .refused fault
  | none, some (.unknown address opcode) => .unknown address opcode
  | none, _ => .completed

/-- A frame of `cycles` cycles; a number below zero counts as none. -/
def Machine.frame {σ : Type} [ByteSource σ] (m : Machine σ) (cycles : Int) : Frame σ :=
  let run := m.run cycles.toNat
  let machine :=
    match run.ending with
    | .completed => { run.machine with drawn := run.drawn }.tick
    | .unknown .. => { run.machine with drawn := run.drawn }
    | .refused _ => run.machine
  ⟨machine, run.results, run.ending⟩

end ChipEight
