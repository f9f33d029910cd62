import ChipEight.Machine.Cycle
import ChipEight.Proofs.Instruction.Decode
import ChipEight.Proofs.Memory
import ChipEight.Proofs.Refusal
import ChipEight.Proofs.Strokes

/-!
# What one cycle does

A cycle ends in one of three ways: the word is unknown, its instruction is executed, or the
instruction is refused. The last happens to a return with an empty stack and to a call with a full
one, and to nothing else.

## Main definitions

* `Machine.fetched` — the machine that an instruction of a cycle is executed on
* `CycleResult.instruction?`, `Machine.executes` — the instruction that a cycle executed
* `Machine.facing` — a new machine with one word in its memory

## Main results

* `Machine.drawSprite_eq` — drawing a sprite stroke by stroke
* `Machine.execute_eq_error_iff` — which instructions are refused
* `Machine.cycle_cases` — the three ways in which a cycle ends
* `Machine.cycle_alike` — cycles of two machines that come out alike
* `Machine.cycle_eq_error_iff`, `Machine.cycle_of_error` — when a cycle is refused, and what it
  leaves
* `Machine.executes_eq_some_iff` — when a cycle executes an instruction
-/

namespace ChipEight

/-- The instruction that a cycle executed, if it did. -/
def CycleResult.instruction? : CycleResult → Option Instruction
  | executed _ opcode => decode opcode
  | unknown .. => none

namespace Machine

variable {σ : Type}

/-- The machine that an instruction of a cycle is executed on: the program counter is behind the
word that was fetched, and nothing is drawn yet. -/
def fetched (m : Machine σ) : Machine σ :=
  { m with drawn := false }.advance

/-- Drawing a sprite is never refused: the display takes its strokes, and the flag tells whether one
of them collides. -/
theorem drawSprite_eq (m : Machine σ) (x y : Fin 16) (rows : Nat) :
    let strokes := Stroke.ofSprite (m.register x) (m.register y) (m.block rows)
    m.drawSprite x y rows =
      .ok ({ m with display := m.display.after strokes, drawn := true }.setRegister flagRegister
        (flag (0 < (m.display.hits strokes).count true))) := by
  intro strokes
  rw [drawSprite, Display.xorAll_eq (by decide) (by decide)]
  rfl

theorem exists_drawSprite (m : Machine σ) (x y : Fin 16) (rows : Nat) :
    ∃ display value,
      m.drawSprite x y rows =
        .ok ({ m with display, drawn := true }.setRegister flagRegister (flag value)) :=
  ⟨_, _, drawSprite_eq m x y rows⟩

variable [ByteSource σ]

/-- An instruction is refused when it returns with an empty stack or calls with a full one. -/
theorem execute_eq_error_iff {m : Machine σ} {instruction : Instruction} {fault : Fault} :
    m.execute instruction = .error fault ↔
      instruction = .ret ∧ m.stack.depth = 0 ∧ fault = .stackEmpty ∨
        (∃ target, instruction = .call target) ∧ m.stack.depth = 16 ∧ fault = .stackFull := by
  cases instruction
  case ret =>
    simp [execute, bind_eq_error_iff, CallStack.pop_eq_error_iff, pure_eq_ok, -bind_pure_comp]
  case call target =>
    simp [execute, bind_eq_error_iff, CallStack.push_eq_error_iff, pure_eq_ok, -bind_pure_comp]
  case draw x y rows =>
    obtain ⟨display, value, drawn⟩ := exists_drawSprite m x y rows
    simp [execute, drawn]
  case awaitKey x =>
    simp only [execute]
    split <;> simp
  all_goals simp [execute]

variable {m : Machine σ} {instruction : Instruction}

theorem cycle_of_decode_none (unknown : decode m.fetch = none) :
    m.cycle = (.ok (.unknown m.pc m.fetch), { m with drawn := false }) := by
  simp only [cycle, unknown]
  rfl

theorem cycle_of_execute_ok {next : Machine σ} (decoded : decode m.fetch = some instruction)
    (done : m.fetched.execute instruction = .ok next) :
    m.cycle = (.ok (.executed m.pc m.fetch), next) := by
  unfold fetched at done
  simp only [cycle, decoded, done]

theorem cycle_of_execute_error {fault : Fault} (decoded : decode m.fetch = some instruction)
    (refused : m.fetched.execute instruction = .error fault) :
    m.cycle = (.error fault, m.fetched) := by
  unfold fetched at refused ⊢
  simp only [cycle, decoded, refused]

/-- The three ways in which a cycle ends. -/
theorem cycle_cases (m : Machine σ) :
    (decode m.fetch = none ∧ m.cycle = (.ok (.unknown m.pc m.fetch), { m with drawn := false })) ∨
      (∃ instruction next, decode m.fetch = some instruction ∧
        m.fetched.execute instruction = .ok next ∧
          m.cycle = (.ok (.executed m.pc m.fetch), next)) ∨
      ∃ instruction fault, decode m.fetch = some instruction ∧
        m.fetched.execute instruction = .error fault ∧ m.cycle = (.error fault, m.fetched) := by
  cases decoded : decode m.fetch with
  | none => exact .inl ⟨rfl, cycle_of_decode_none decoded⟩
  | some instruction =>
    cases done : m.fetched.execute instruction with
    | ok next =>
      exact .inr (.inl ⟨instruction, next, rfl, done, cycle_of_execute_ok decoded done⟩)
    | error fault =>
      exact .inr (.inr ⟨instruction, fault, rfl, done, cycle_of_execute_error decoded done⟩)

/-- Cycles of two machines come out alike if they fetch the same word and every instruction does. -/
theorem cycle_alike {τ : Type} [ByteSource τ] {n : Machine τ}
    {near : CycleResult → CycleResult → Prop}
    {related : Machine σ → Machine τ → Prop} (word : m.fetch = n.fetch)
    (unknown : near (.unknown m.pc m.fetch) (.unknown n.pc n.fetch))
    (executed : near (.executed m.pc m.fetch) (.executed n.pc n.fetch))
    (undrawn : related { m with drawn := false } { n with drawn := false })
    (fetched : related m.fetched n.fetched)
    (execute : ∀ instruction, Alike related (m.fetched.execute instruction)
      (n.fetched.execute instruction)) :
    Alike near m.cycle.1 n.cycle.1 ∧ related m.cycle.2 n.cycle.2 := by
  cases decoded : decode m.fetch with
  | none =>
    rw [cycle_of_decode_none decoded, cycle_of_decode_none (word ▸ decoded)]
    exact ⟨.ok unknown, undrawn⟩
  | some instruction =>
    have otherDecoded : decode n.fetch = some instruction := word ▸ decoded
    have both := execute instruction
    generalize left : m.fetched.execute instruction = first at both
    generalize right : n.fetched.execute instruction = second at both
    cases both with
    | ok next =>
      rw [cycle_of_execute_ok decoded left, cycle_of_execute_ok otherDecoded right]
      exact ⟨.ok executed, next⟩
    | error fault =>
      rw [cycle_of_execute_error decoded left, cycle_of_execute_error otherDecoded right]
      exact ⟨.error fault, fetched⟩

/-- A cycle is refused just as its instruction is. -/
theorem cycle_eq_error_iff {fault : Fault} :
    m.cycle.1 = .error fault ↔
      ∃ instruction, decode m.fetch = some instruction ∧
        m.fetched.execute instruction = .error fault := by
  constructor
  · intro refused
    rcases m.cycle_cases with ⟨-, stays⟩ | ⟨_, _, -, -, moves⟩ |
      ⟨instruction, _, decoded, why, ends⟩
    · rw [stays] at refused
      cases refused
    · rw [moves] at refused
      cases refused
    · rw [ends] at refused
      cases refused
      exact ⟨instruction, decoded, why⟩
  · rintro ⟨instruction, decoded, why⟩
    rw [cycle_of_execute_error decoded why]

/-- A refused cycle has fetched its word and cleared the draw flag. -/
theorem cycle_of_error {fault : Fault} (refused : m.cycle.1 = .error fault) :
    m.cycle.2 = m.fetched := by
  obtain ⟨instruction, decoded, why⟩ := cycle_eq_error_iff.mp refused
  rw [cycle_of_execute_error decoded why]

/-- A cycle is refused for no other reason than the stack. -/
theorem kind_of_cycle_error {fault : Fault} (refused : m.cycle.1 = .error fault) :
    fault.kind = .stack := by
  obtain ⟨instruction, -, why⟩ := cycle_eq_error_iff.mp refused
  rcases execute_eq_error_iff.mp why with ⟨-, -, rfl⟩ | ⟨-, -, rfl⟩
  · rfl
  · rfl

/-- The instruction that the next cycle executes, if it does. -/
def executes (m : Machine σ) : Option Instruction :=
  match m.cycle.1 with
  | .ok result => result.instruction?
  | .error _ => none

/-- A cycle executes the instruction that its word stands for, unless it is refused. -/
theorem executes_eq_some_iff :
    m.executes = some instruction ↔
      m.cycle.1 = .ok (.executed m.pc m.fetch) ∧ decode m.fetch = some instruction := by
  unfold executes
  rcases m.cycle_cases with ⟨unknown, stays⟩ | ⟨found, _, decoded, -, moves⟩ |
    ⟨found, fault, decoded, -, ends⟩
  · simp [stays, CycleResult.instruction?]
  · simp [moves, CycleResult.instruction?]
  · simp [ends]

theorem executes_of_decode (decoded : decode m.fetch = some instruction)
    (accepted : ∀ fault, m.fetched.execute instruction ≠ .error fault) :
    m.executes = some instruction := by
  cases done : m.fetched.execute instruction with
  | error fault => exact absurd done (accepted fault)
  | ok next =>
    have executed : m.cycle.1 = .ok (.executed m.pc m.fetch) :=
      congrArg Prod.fst (cycle_of_execute_ok decoded done)
    exact executes_eq_some_iff.mpr ⟨executed, decoded⟩

theorem executes_of_cycle {address opcode : Int}
    (executed : m.cycle.1 = .ok (.executed address opcode))
    (decoded : decode opcode = some instruction) :
    address = m.pc ∧ m.executes = some instruction := by
  have run : m.executes = some instruction := by
    simp only [executes, executed, CycleResult.instruction?, decoded]
  rw [(executes_eq_some_iff.mp run).1] at executed
  cases executed
  exact ⟨rfl, run⟩

/-- What a cycle has executed is the instruction of the word at the program counter. -/
theorem exists_of_executed {address opcode : Int}
    (executed : m.cycle.1 = .ok (.executed address opcode)) :
    address = m.pc ∧ opcode = m.fetch ∧
      ∃ instruction, decode m.fetch = some instruction ∧ m.executes = some instruction := by
  rcases m.cycle_cases with ⟨-, stays⟩ | ⟨instruction, next, decoded, -, moves⟩ | ⟨_, _, -, -, ends⟩
  · rw [stays] at executed
    cases executed
  · rw [moves] at executed
    cases executed
    refine ⟨rfl, rfl, instruction, decoded, executes_eq_some_iff.mpr ⟨?_, decoded⟩⟩
    rw [moves]
  · rw [ends] at executed
    cases executed

theorem execute_of_executes (run : m.executes = some instruction) :
    m.fetched.execute instruction = .ok m.cycle.2 := by
  obtain ⟨executed, decoded⟩ := executes_eq_some_iff.mp run
  rcases m.cycle_cases with ⟨unknown, -⟩ | ⟨found, next, same, done, moves⟩ |
    ⟨found, fault, -, -, ends⟩
  · rw [unknown] at decoded
    cases decoded
  · obtain rfl : found = instruction := Option.some.inj (same.symm.trans decoded)
    rw [moves, done]
  · rw [ends] at executed
    cases executed

/-- A cycle that executes nothing changes at most the program counter and the draw flag. -/
theorem cycle_of_executes_none (none : m.executes = none) :
    ∃ pc, m.cycle.2 = { m with pc, drawn := false } := by
  rcases m.cycle_cases with ⟨-, stays⟩ | ⟨instruction, _, decoded, -, moves⟩ | ⟨_, _, -, -, ends⟩
  · exact ⟨m.pc, congrArg Prod.snd stays⟩
  · have executed : m.cycle.1 = .ok (.executed m.pc m.fetch) := congrArg Prod.fst moves
    have some := executes_eq_some_iff.mpr ⟨executed, decoded⟩
    rw [none] at some
    cases some
  · exact ⟨m.fetched.pc, congrArg Prod.snd ends⟩

/-! ## The first word of a program -/

omit [ByteSource σ] in
theorem fetch_congr {n : Machine σ} (memory : m.memory = n.memory) (pc : m.pc = n.pc) :
    m.fetch = n.fetch := by
  rw [fetch, fetch, memory, pc]

omit [ByteSource σ] in
/-- The word of a machine with two bytes put down at its program counter. -/
theorem fetch_written {memory : Memory} {high low : Nat} (byte : high < 256) (other : low < 256)
    (written : m.memory = (memory.write m.pc high).write (m.pc + 1) low) :
    m.fetch = high * 256 + low := by
  rw [fetch, written, Memory.read_write, if_neg (by omega), Memory.read_write, if_pos rfl,
    Memory.read_write, if_pos rfl]
  omega

/-- A new machine with a word where a program will start. -/
def facing (source : σ) (high low : Nat) : Machine σ :=
  { fresh source with memory := (Memory.fresh.write 0x200 high).write 0x201 low }

omit [ByteSource σ] in
theorem fetch_facing (source : σ) {high low : Nat} (byte : high < 256) (other : low < 256) :
    (facing source high low).fetch = high * 256 + low :=
  fetch_written (m := facing source high low) byte other rfl

omit [ByteSource σ] in
/-- A word across the end of memory has the first byte of the font as its low byte. -/
theorem fetch_at_end (high : Nat) (byte : high < 256)
    (memory : m.memory = Memory.fresh.write 0xFFFF high) (pc : m.pc = 0xFFFF) :
    m.fetch = high * 256 + 0xF0 := by
  have glyph : Memory.fresh.read (0xFFFF + 1) = 0xF0 := by
    rw [Memory.read_fresh]
    rfl
  rw [fetch, pc, memory, Memory.read_write, if_pos rfl, Memory.read_write, if_neg (by decide),
    glyph]
  omega

end Machine

end ChipEight
