import ChipEight.Proofs.Machine.Drive

/-!
# Unknown words

A machine that meets an unknown word does not get past it. The cycle leaves the program counter at
the word, and nothing that drives the machine changes the word: ticks and keys touch other parts of
the machine, and every further cycle meets the same word again.

## Main definitions

* `Machine.Waits` — a machine is another one with other keys and timers and nothing drawn

## Main results

* `Machine.cycle_eq_unknown_iff` — when a cycle meets an unknown word
* `Machine.Waits.drive`, `Machine.Waits.driven` — what a step and a list of steps keep at an unknown
  word
* `Machine.unknown_forever` — what happens at an unknown word
-/

namespace ChipEight.Machine

variable {σ : Type} {m n : Machine σ}

/-- The machine `n` is the machine `m` with other keys and timers perhaps, and with nothing
drawn. -/
def Waits (m n : Machine σ) : Prop :=
  ∃ keypad delay sound, n = { m with keypad, delay, sound, drawn := false }

theorem Waits.pc_eq (waits : m.Waits n) : n.pc = m.pc := by
  obtain ⟨keypad, delay, sound, rfl⟩ := waits
  rfl

theorem Waits.fetch_eq (waits : m.Waits n) : n.fetch = m.fetch := by
  obtain ⟨keypad, delay, sound, rfl⟩ := waits
  rfl

variable [ByteSource σ]

/-- A cycle meets an unknown word if the word at the program counter stands for no instruction. -/
theorem cycle_eq_unknown_iff {address opcode : Int} :
    m.cycle.1 = .ok (.unknown address opcode) ↔
      decode m.fetch = none ∧ address = m.pc ∧ opcode = m.fetch := by
  rcases m.cycle_cases with ⟨unknown, stays⟩ | ⟨_, _, decoded, -, moves⟩ |
    ⟨_, _, decoded, -, refused⟩
  · simp [stays, unknown, eq_comm]
  · simp [moves, decoded]
  · simp [refused, decoded]

/-- A step leaves a machine waiting at an unknown word. -/
theorem Waits.drive (waits : m.Waits n) (unknown : decode m.fetch = none) (step : Drive) :
    m.Waits (n.drive step) := by
  by_cases cycle : step = .cycle
  · subst cycle
    have same : decode n.fetch = none := by rw [waits.fetch_eq, unknown]
    obtain ⟨keypad, delay, sound, rfl⟩ := waits
    rw [drive_cycle, cycle_of_decode_none same]
    exact ⟨keypad, delay, sound, rfl⟩
  · rw [n.drive_of_ne_cycle cycle]
    obtain ⟨_, _, _, rfl⟩ := waits
    exact ⟨_, _, _, rfl⟩

/-- So does a list of steps. -/
theorem Waits.driven (waits : m.Waits n) (unknown : decode m.fetch = none) (steps : List Drive) :
    m.Waits (n.driven steps) := by
  induction steps generalizing n with
  | nil => exact waits
  | cons step rest ih => exact ih (waits.drive unknown step)

/-- **Unknown words.** A cycle meets an unknown word exactly when the word at the program counter
stands for no instruction, and answers with the program counter and the word. It changes nothing but
the draw flag, which is off. After any further steps, refused ones included, the machine differs at
most in its keys and timers, and the next cycle gives the same answer. -/
theorem unknown_forever (m : Machine σ) :
    (∀ address opcode, m.cycle.1 = .ok (.unknown address opcode) ↔
        decode m.fetch = none ∧ address = m.pc ∧ opcode = m.fetch) ∧
      (decode m.fetch = none →
        m.cycle.2 = { m with drawn := false } ∧
          ∀ steps : List Drive,
            (m.cycle.2.driven steps).answer .cycle = .ok (.result (.unknown m.pc m.fetch)) ∧
              ∃ keypad delay sound,
                m.cycle.2.driven steps = { m with keypad, delay, sound, drawn := false }) := by
  refine ⟨fun _ _ => cycle_eq_unknown_iff, fun unknown => ?_⟩
  have stays : m.cycle.2 = { m with drawn := false } :=
    congrArg Prod.snd (cycle_of_decode_none unknown)
  refine ⟨stays, fun steps => ?_⟩
  have start : m.Waits m.cycle.2 := ⟨m.keypad, m.delay, m.sound, stays⟩
  have later := start.driven unknown steps
  refine ⟨?_, later⟩
  have same : decode (m.cycle.2.driven steps).fetch = none := by rw [later.fetch_eq, unknown]
  rw [answer_cycle, cycle_of_decode_none same, later.pc_eq, later.fetch_eq]
  rfl

/-- A machine whose next word lies across the end of the program counter and of the memory. -/
def stranded : Machine Tape :=
  { fresh (Tape.ofList []) with pc := 0xFFFF }

theorem stranded_fetch : stranded.fetch = 0x00F0 := by
  have memory : stranded.memory = Memory.fresh := rfl
  have pc : stranded.pc = 0xFFFF := rfl
  have high : Memory.fresh.read 0xFFFF = 0 := by
    rw [Memory.read_fresh]
    rfl
  have low : Memory.fresh.read (0xFFFF + 1) = 0xF0 := by
    rw [Memory.read_fresh]
    rfl
  rw [fetch, memory, pc, high, low]

theorem unknown_forever_stranded :
    decode stranded.fetch = none ∧ stranded.cycle.2 = { stranded with drawn := false } ∧
      (stranded.cycle.2.driven
          [.cycle, .press (.int 3), .tick, .release (.int 7), .cycle]).answer .cycle =
        .ok (.result (.unknown 0xFFFF 0x00F0)) := by
  have unknown : decode stranded.fetch = none := by
    rw [stranded_fetch]
    rfl
  obtain ⟨-, stuck⟩ := unknown_forever stranded
  obtain ⟨stays, forever⟩ := stuck unknown
  have answer := (forever [.cycle, .press (.int 3), .tick, .release (.int 7), .cycle]).1
  rw [stranded_fetch] at answer
  exact ⟨unknown, stays, answer⟩

end ChipEight.Machine
