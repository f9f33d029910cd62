import ChipEight.Proofs.Machine.Effect
import ChipEight.Proofs.Machine.Refused
import ChipEight.Proofs.Machine.Drive
import ChipEight.Proofs.Machine.Rewiring

/-!
# Steps that change places

A step that is no cycle does nothing but rewire a machine: it turns keys, or it counts the timers
down. So it may come before a cycle or behind it unless the instruction of the cycle looks at what
the step changes or sets it. These are three instructions for the timers and three for the keys, and
for all others it makes no difference whether a cycle is the last one before a step or the first one
behind it, even if it is refused. Steps of the timers and of the keys never meet.

## Main definitions

* `Drive.wiring` — what a step that is no cycle does to the devices of a machine
* `Machine.Commute` — two steps may change places

## Main results

* `Machine.commute_cycle` — a cycle commutes with the steps that its instruction ignores
* `Machine.commute_tick` — a step of the timers commutes with what happens to the keys
* `Machine.steps_commute` — which words make a difference
-/

namespace ChipEight

/-- What a step that is no cycle does to the devices of a machine. -/
def Drive.wiring (σ : Type) (step : Drive) : Rewiring σ σ where
  keypad keypad := step.turn keypad
  timer timer := step.count timer
  source := id

namespace Instruction

variable {σ : Type} [ByteSource σ] {instruction : Instruction}

theorem ignores_tick (other : instruction.pattern ∉ ["Fx07", "Fx15", "Fx18"]) :
    instruction.Ignores (Drive.tick.wiring σ) := by
  cases instruction
  case readDelay | setDelay | setSound => simp [pattern] at other
  all_goals simp [Ignores, Drive.wiring, Drive.turn]

theorem ignores_event (other : instruction.pattern ∉ ["Ex9E", "ExA1", "Fx0A"]) (event : HostEvent) :
    instruction.Ignores ((Drive.event event).wiring σ) := by
  cases instruction
  case skipIfDown | skipIfUp | awaitKey => simp [pattern] at other
  all_goals simp [Ignores, Drive.wiring, Drive.count]

end Instruction

namespace Machine

variable {σ : Type} [ByteSource σ] {m : Machine σ} {step : Drive}

/-- Two steps commute at a machine: they lead to the same machine in either order, and each of them
answers what it answers when it is the first one. -/
def Commute (m : Machine σ) (first second : Drive) : Prop :=
  (m.drive first).drive second = (m.drive second).drive first ∧
    (m.drive second).answer first = m.answer first ∧
      (m.drive first).answer second = m.answer second

theorem drive_eq_rewired (m : Machine σ) (other : step ≠ .cycle) :
    m.drive step = m.rewired (step.wiring σ) :=
  m.drive_of_ne_cycle other

/-- A cycle commutes with a step that its instruction ignores. -/
theorem commute_cycle (other : step ≠ .cycle)
    (ignores : ∀ instruction, decode m.fetch = some instruction →
      instruction.Ignores (step.wiring σ)) : m.Commute step .cycle := by
  have cycled := cycle_rewired ignores
  have keypad : m.Agrees m.cycle.2 .keypad := agrees_of_writers_nil .keypad rfl
  refine ⟨?_, ?_, ?_⟩
  · rw [drive_cycle, drive_cycle, drive_eq_rewired _ other, drive_eq_rewired _ other, cycled]
  · rw [drive_cycle, answer_of_ne_cycle _ other, answer_of_ne_cycle _ other]
    exact congrArg step.reply keypad
  · rw [answer_cycle, answer_cycle, drive_eq_rewired _ other, cycled]

/-- A step of the timers commutes with everything that happens to the keys. -/
theorem commute_tick (m : Machine σ) (other : step ≠ .cycle) : m.Commute .tick step := by
  have tick : Drive.tick ≠ .cycle := nofun
  refine ⟨?_, ?_, ?_⟩
  · simp only [drive_of_ne_cycle _ other, drive_of_ne_cycle _ tick]
    cases step <;> rfl
  · rw [answer_of_ne_cycle _ tick, answer_of_ne_cycle _ tick]
    rfl
  · rw [answer_of_ne_cycle _ other, answer_of_ne_cycle _ other, drive_of_ne_cycle _ tick]
    rfl

/-- **Steps that change places.** Unless the word at the program counter is `Fx07`, `Fx15` or
`Fx18`, a step of the timers and a cycle lead to the same machine in either order, and the cycle
comes out the same way: the word is executed, unknown or refused in both. Unless the word is `Ex9E`,
`ExA1` or `Fx0A`, the same holds of any event and a cycle, and the event lets the session go on in
both orders or in neither. A step of the timers and an event may always change places. -/
theorem steps_commute (m : Machine σ) :
    ((∀ name ∈ ["Fx07", "Fx15", "Fx18"], ¬ Matches name (Opcode.word m.fetch)) →
        m.Commute .tick .cycle) ∧
      ((∀ name ∈ ["Ex9E", "ExA1", "Fx0A"], ¬ Matches name (Opcode.word m.fetch)) →
        ∀ event, m.Commute (.event event) .cycle) ∧
      ∀ event, m.Commute .tick (.event event) := by
  refine ⟨fun unmatched => ?_, fun unmatched event => ?_, fun event => m.commute_tick nofun⟩
  · refine commute_cycle nofun fun instruction decoded => ?_
    exact Instruction.ignores_tick (pattern_notMem_of_unmatched unmatched decoded)
  · refine commute_cycle nofun fun instruction decoded => ?_
    exact Instruction.ignores_event (pattern_notMem_of_unmatched unmatched decoded) event

/-- A call that is refused because the stack is full commutes with the timers and with a key. -/
theorem steps_commute_crowded :
    (∀ name ∈ ["Fx07", "Fx15", "Fx18", "Ex9E", "ExA1", "Fx0A"],
        ¬ Matches name (Opcode.word crowded.fetch)) ∧
      crowded.Commute .tick .cycle ∧ crowded.Commute (.event (.keyDown 53)) .cycle := by
  have unmatched : ∀ name ∈ ["Fx07", "Fx15", "Fx18", "Ex9E", "ExA1", "Fx0A"],
      ¬ Matches name (Opcode.word crowded.fetch) := by
    rw [crowded_fetch]
    simp [Opcode.word, Matches, wordDigits, Admits, patternDigit]
  obtain ⟨tick, event, -⟩ := steps_commute crowded
  refine ⟨unmatched, tick fun name member => ?_, event (fun name member => ?_) (.keyDown 53)⟩
  · exact unmatched name (List.mem_append_left ["Ex9E", "ExA1", "Fx0A"] member)
  · exact unmatched name (List.mem_append_right ["Fx07", "Fx15", "Fx18"] member)

end Machine

end ChipEight
