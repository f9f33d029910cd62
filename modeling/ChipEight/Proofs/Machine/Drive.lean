import ChipEight.Proofs.Command

/-!
# Driving a machine

A machine is driven by cycles, steps of its timers and the keys of its host, in any order. Only
cycles execute instructions; all other steps leave everything but the keypad and the timers as it
is.

## Main definitions

* `Drive`, `Drive.isCycle`, `Drive.isTick` — a step that drives a machine, and whether it is a cycle
  or a step of the timers
* `Machine.drive`, `Machine.driven` — the machine after a step, and after a list of steps
* `Machine.answer` — what a step answers
* `Drive.turn`, `Drive.count`, `Drive.reply` — what the steps other than cycles do and answer
* `Machine.executed` — the instructions that a list of steps executes

## Main results

* `Machine.drive_of_ne_cycle`, `Machine.answer_of_ne_cycle` — the steps other than cycles depend on
  the keypad and the timers alone
-/

namespace ChipEight

/-- A step that drives a machine. -/
inductive Drive where
  | cycle
  | tick
  | event (event : HostEvent)
  | press (key : Value)
  | release (key : Value)

/-- Whether a step is a cycle. -/
def Drive.isCycle : Drive → Bool
  | cycle => true
  | _ => false

/-- Whether a step is a step of the timers. -/
def Drive.isTick : Drive → Bool
  | tick => true
  | _ => false

/-- The command that a step stands for. -/
def Drive.command : Drive → Command
  | cycle => .cycle
  | tick => .tick 1
  | event arrived => .event arrived
  | press key => .press key
  | release key => .release key

namespace Drive

theorem command_inRange (step : Drive) : step.command.InRange := by
  cases step <;> trivial

/-- The keypad after a step; a cycle does not turn keys. -/
def turn (keypad : Keypad) : Drive → Keypad
  | cycle | tick => keypad
  | event arrived => HostEvent.turn keypad arrived
  | press key =>
    match Keypad.keyOf key with
    | .ok key => keypad.press key
    | .error _ => keypad
  | release key =>
    match Keypad.keyOf key >>= keypad.release with
    | .ok next => next
    | .error _ => keypad

/-- A timer after a step; a cycle does not count it down. -/
def count (timer : Nat) : Drive → Nat
  | tick => timer - 1
  | _ => timer

/-- What a step that is no cycle answers. -/
def reply (keypad : Keypad) : Drive → Except Fault Answer
  | cycle | tick => .ok .none
  | event arrived => .ok (.flag arrived.goesOn)
  | press key => (Keypad.keyOf key).map fun _ => .none
  | release key => (Keypad.keyOf key >>= keypad.release).map fun _ => .none

end Drive

namespace Machine

variable {σ : Type} [ByteSource σ] {m : Machine σ}

/-- The machine after a step, which may be refused. -/
def drive (m : Machine σ) (step : Drive) : Machine σ :=
  (m.perform step.command).machine

/-- What a step answers, or why it is refused. -/
def answer (m : Machine σ) (step : Drive) : Except Fault Answer :=
  (m.perform step.command).answer

/-- The machine after a list of steps. -/
def driven (m : Machine σ) (steps : List Drive) : Machine σ :=
  steps.foldl drive m

@[simp] theorem driven_nil (m : Machine σ) : m.driven [] = m := rfl

@[simp] theorem driven_cons (m : Machine σ) (step : Drive) (rest : List Drive) :
    m.driven (step :: rest) = (m.drive step).driven rest := rfl

@[simp] theorem driven_append (m : Machine σ) (first second : List Drive) :
    m.driven (first ++ second) = (m.driven first).driven second :=
  List.foldl_append

theorem drive_cycle (m : Machine σ) : m.drive .cycle = m.cycle.2 := by
  simp only [drive, Drive.command, perform]
  split <;> rfl

/-- A cycle answers its result. -/
theorem answer_cycle (m : Machine σ) : m.answer .cycle = m.cycle.1.map .result := by
  simp only [answer, Drive.command, perform]
  split <;> simp_all [Except.map, Outcome.refused]

/-- A step that is no cycle looks at nothing but the keypad and the timers, and changes nothing
else. -/
theorem perform_of_ne_cycle (m : Machine σ) {step : Drive} (other : step ≠ .cycle) :
    m.perform step.command =
      ⟨{ m with
          keypad := step.turn m.keypad, delay := step.count m.delay, sound := step.count m.sound },
        step.reply m.keypad, []⟩ := by
  cases step with
  | cycle => exact absurd rfl other
  | tick => rfl
  | event event =>
    simp only [Drive.command, perform, HostEvent.deliver_eq_ok]
    rfl
  | press key =>
    simp only [Drive.command, perform, Drive.turn, Drive.reply]
    cases Keypad.keyOf key <;> rfl
  | release key =>
    simp only [Drive.command, perform, Drive.turn, Drive.reply]
    cases Keypad.keyOf key with
    | error fault => rfl
    | ok key =>
      simp only [ok_bind, release]
      cases m.keypad.release key <;> rfl

/-- A step that is no cycle changes the keypad and the timers at most. -/
theorem drive_of_ne_cycle (m : Machine σ) {step : Drive} (other : step ≠ .cycle) :
    m.drive step =
      { m with
        keypad := step.turn m.keypad, delay := step.count m.delay, sound := step.count m.sound } :=
  congrArg Outcome.machine (m.perform_of_ne_cycle other)

theorem answer_of_ne_cycle (m : Machine σ) {step : Drive} (other : step ≠ .cycle) :
    m.answer step = step.reply m.keypad :=
  congrArg Outcome.answer (m.perform_of_ne_cycle other)

theorem WellFormed.drive (wf : m.WellFormed) (step : Drive) : (m.drive step).WellFormed :=
  wf.perform step.command_inRange

theorem WellFormed.driven (wf : m.WellFormed) (steps : List Drive) :
    (m.driven steps).WellFormed := by
  induction steps generalizing m with
  | nil => exact wf
  | cons step rest ih => exact ih (wf.drive step)

/-- The instruction that a step executes, if it does. -/
def executedBy (m : Machine σ) : Drive → Option Instruction
  | .cycle => m.executes
  | _ => none

/-- The instructions that a list of steps executes, in order. -/
def executed (m : Machine σ) : List Drive → List Instruction
  | [] => []
  | step :: rest => (m.executedBy step).toList ++ (m.drive step).executed rest

theorem executedBy_of_ne_cycle (m : Machine σ) {step : Drive} (other : step ≠ .cycle) :
    m.executedBy step = none := by
  cases step with
  | cycle => exact absurd rfl other
  | _ => rfl

end Machine

end ChipEight
