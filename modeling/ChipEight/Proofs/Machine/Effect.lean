import ChipEight.Proofs.Instruction.Pattern
import ChipEight.Proofs.Machine.Run

/-!
# What a cycle may change

Each part of a machine has its instructions: a cycle changes the part only if it executes one of
them. The words of these instructions are told by their patterns, and which register is written is
told by the second digit of the word, so all this can be seen from the word that the cycle fetches.
The keypad and the size of the program have no instructions. A cycle that meets an unknown word or
is refused executes nothing.

## Main definitions

* `Part.writers` — the patterns of the instructions that may write a part
* `Machine.Obeys` — whether the next cycle executes a word with one of the given patterns

## Main results

* `Machine.exists_of_changed` — a part that a cycle changes is in the footprint of its instruction
* `Instruction.register_mem_footprint` — which instructions have a register in their footprint
* `Machine.cycle_changes` — the instructions of all parts
-/

namespace ChipEight

/-- The patterns of the instructions that set the register that their words name. -/
def resultWriters : List String :=
  ["6xkk", "7xkk", "8xy0", "8xy1", "8xy2", "8xy3", "8xy4", "8xy5", "8xy6", "8xy7", "8xyE", "Cxkk",
    "Fx07", "Fx0A"]

/-- The patterns of the instructions that set a flag. -/
def flagWriters : List String :=
  ["8xy4", "8xy5", "8xy6", "8xy7", "8xyE", "Dxyn"]

/-- The patterns of the instructions that may write a part. -/
def Part.writers : Part → List String
  | cells => ["Fx33", "Fx55"]
  | romSize | keypad => []
  | register _ => resultWriters ++ flagWriters ++ ["Fx65"]
  | pc => ["00EE", "1nnn", "2nnn", "3xkk", "4xkk", "5xy0", "9xy0", "Bnnn", "Ex9E", "ExA1", "Fx0A"]
  | index => ["Annn", "Fx1E", "Fx29"]
  | delay => ["Fx15"]
  | sound => ["Fx18"]
  | stack => ["00EE", "2nnn"]
  | display | drawn => ["00E0", "Dxyn"]
  | source => ["Cxkk"]

namespace Instruction

theorem pattern_mem_writers (instruction : Instruction) :
    ∀ part ∈ instruction.footprint, instruction.pattern ∈ part.writers := by
  cases instruction <;> simp [footprint, pattern, Part.writers, resultWriters, flagWriters]

theorem draws_iff (instruction : Instruction) :
    instruction.draws ↔ instruction.pattern ∈ Part.drawn.writers := by
  cases instruction <;> simp [draws, pattern, Part.writers]

/-- The instructions that have a register in their footprint: it is named by the second digit of
their word, or it is `VF`, or it is one of those that a block is loaded into. -/
theorem register_mem_footprint {instruction : Instruction} {z : Fin 16}
    (written : .register z ∈ instruction.footprint) :
    z = lastDigit (instruction.encode / 256) ∧ instruction.pattern ∈ resultWriters ∨
      z = Machine.flagRegister ∧ instruction.pattern ∈ flagWriters ∨
      z ≤ lastDigit (instruction.encode / 256) ∧ instruction.pattern ∈ ["Fx65"] := by
  cases instruction
  case loadRegisters x =>
    have upTo : z ≤ x := by simpa [footprint] using written
    have second : lastDigit ((loadRegisters x).encode / 256) = x := by
      simp only [lastDigit, encode, Fin.ext_iff, Fin.val_ofNat]
      omega
    exact .inr (.inr ⟨second.symm ▸ upTo, by simp [pattern]⟩)
  case draw x y rows =>
    have flag : z = Machine.flagRegister := by simpa [footprint] using written
    exact .inr (.inl ⟨flag, by simp [pattern, flagWriters]⟩)
  case add x y | sub x y | subFrom x y | shiftRight x y | shiftLeft x y =>
    have either : z = x ∨ z = Machine.flagRegister := by simpa [footprint] using written
    rcases either with rfl | flag
    · refine .inl ⟨?_, by simp [pattern, resultWriters]⟩
      simp only [lastDigit, encode, Fin.ext_iff, Fin.val_ofNat]
      omega
    · exact .inr (.inl ⟨flag, by simp [pattern, flagWriters]⟩)
  case loadByte x _ | addByte x _ | copy x _ | or x _ | and x _ | xor x _ | random x _ | readDelay x
      | awaitKey x =>
    obtain rfl : z = x := by simpa [footprint] using written
    refine .inl ⟨?_, by simp [pattern, resultWriters]⟩
    simp only [lastDigit, encode, Fin.ext_iff, Fin.val_ofNat]
    omega
  all_goals simp [footprint] at written

end Instruction

namespace Machine

variable {σ : Type} [ByteSource σ]

/-- Whether the next cycle executes a word that matches one of some patterns. -/
def Obeys (m : Machine σ) (names : List String) : Prop :=
  m.cycle.1 = .ok (.executed m.pc m.fetch) ∧ ∃ name ∈ names, Matches name (Opcode.word m.fetch)

variable {m : Machine σ} {names : List String}

theorem obeys_of_executes {instruction : Instruction} (run : m.executes = some instruction)
    (member : instruction.pattern ∈ names) : m.Obeys names := by
  obtain ⟨executed, decoded⟩ := executes_eq_some_iff.mp run
  exact ⟨executed, _, member, matches_of_decode decoded⟩

/-- A cycle executes a word with one of some patterns if it executes an instruction with one of
them. -/
theorem obeys_iff (known : names ⊆ patterns) :
    m.Obeys names ↔ ∃ instruction, m.executes = some instruction ∧ instruction.pattern ∈ names := by
  constructor
  · rintro ⟨executed, name, member, matched⟩
    obtain ⟨instruction, decoded, rfl⟩ := exists_decode_of_matches (known member) matched
    exact ⟨instruction, executes_eq_some_iff.mpr ⟨executed, decoded⟩, member⟩
  · rintro ⟨instruction, run, member⟩
    exact obeys_of_executes run member

/-- A part that a cycle changes is in the footprint of the instruction that it executes. -/
theorem exists_of_changed (part : Part) (pc : part ≠ .pc) (drawn : part ≠ .drawn)
    (changed : ¬ m.Agrees m.cycle.2 part) :
    ∃ instruction, m.executes = some instruction ∧ part ∈ instruction.footprint := by
  by_contra none
  refine changed (m.cycle_agrees pc drawn fun instruction run written => ?_)
  exact none ⟨instruction, run, written⟩

/-- So a cycle that changes a part has executed one of its instructions. -/
theorem obeys_of_changed (part : Part) (pc : part ≠ .pc) (drawn : part ≠ .drawn)
    (changed : ¬ m.Agrees m.cycle.2 part) : m.Obeys part.writers := by
  obtain ⟨instruction, run, written⟩ := exists_of_changed part pc drawn changed
  exact obeys_of_executes run (instruction.pattern_mem_writers part written)

/-- A part without instructions stays as it is. -/
theorem agrees_of_writers_nil (part : Part) (none : part.writers = []) :
    m.Agrees m.cycle.2 part := by
  refine m.cycle_agrees ?_ ?_ fun instruction _ written => ?_
  · rintro rfl
    cases none
  · rintro rfl
    cases none
  · have member := instruction.pattern_mem_writers part written
    rw [none] at member
    cases member

theorem drawn_iff_obeys : m.cycle.2.drawn = true ↔ m.Obeys Part.drawn.writers := by
  rw [cycle_drawn, Option.any_eq_true, obeys_iff (by decide)]
  simp only [Instruction.draws_iff]

/-- A cycle that changes a register has it named in its word, or sets a flag, or loads a block. -/
theorem register_changed {z : Fin 16} (changed : m.cycle.2.register z ≠ m.register z) :
    z = Opcode.x m.fetch ∧ m.Obeys resultWriters ∨
      z = flagRegister ∧ m.Obeys flagWriters ∨
      z ≤ Opcode.x m.fetch ∧ m.Obeys ["Fx65"] := by
  obtain ⟨instruction, run, written⟩ := exists_of_changed (.register z) nofun nofun changed
  have word := decode_eq_some_iff.mp (executes_eq_some_iff.mp run).2
  rw [Opcode.x, word]
  rcases instruction.register_mem_footprint written with ⟨named, one⟩ | ⟨flag, one⟩ | ⟨below, one⟩
  · exact .inl ⟨named, obeys_of_executes run one⟩
  · exact .inr (.inl ⟨flag, obeys_of_executes run one⟩)
  · exact .inr (.inr ⟨below, obeys_of_executes run one⟩)

/-- **What a cycle may change.** Memory changes only if the cycle executes `Fx33` or `Fx55`, the
display only if it executes `00E0` or `Dxyn`, and the draw flag tells afterwards whether it did. The
stack, the timers and the index have instructions of their own as well. A register changes only if
the word names it in its second digit and sets it, or if it is `VF` and the word sets a flag, or if
a block is loaded into the registers up to the one that the word names. The keypad and the size of
the program never change. -/
theorem cycle_changes (m : Machine σ) :
    (m.cycle.2.memory ≠ m.memory → m.Obeys ["Fx33", "Fx55"]) ∧
      (m.cycle.2.display ≠ m.display → m.Obeys ["00E0", "Dxyn"]) ∧
      (m.cycle.2.drawn = true ↔ m.Obeys ["00E0", "Dxyn"]) ∧
      (m.cycle.2.stack ≠ m.stack → m.Obeys ["00EE", "2nnn"]) ∧
      (m.cycle.2.delay ≠ m.delay → m.Obeys ["Fx15"]) ∧
      (m.cycle.2.sound ≠ m.sound → m.Obeys ["Fx18"]) ∧
      (m.cycle.2.index ≠ m.index → m.Obeys ["Annn", "Fx1E", "Fx29"]) ∧
      (∀ z, m.cycle.2.register z ≠ m.register z →
        z = Opcode.x m.fetch ∧ m.Obeys
            ["6xkk", "7xkk", "8xy0", "8xy1", "8xy2", "8xy3", "8xy4", "8xy5", "8xy6", "8xy7", "8xyE",
              "Cxkk", "Fx07", "Fx0A"] ∨
          z = flagRegister ∧ m.Obeys ["8xy4", "8xy5", "8xy6", "8xy7", "8xyE", "Dxyn"] ∨
          z ≤ Opcode.x m.fetch ∧ m.Obeys ["Fx65"]) ∧
      m.cycle.2.keypad = m.keypad ∧ m.cycle.2.memory.romSize = m.memory.romSize := by
  have keypad : m.Agrees m.cycle.2 .keypad := agrees_of_writers_nil .keypad rfl
  have romSize : m.Agrees m.cycle.2 .romSize := agrees_of_writers_nil .romSize rfl
  refine ⟨fun changed => ?_, obeys_of_changed .display nofun nofun, drawn_iff_obeys,
    obeys_of_changed .stack nofun nofun, obeys_of_changed .delay nofun nofun,
    obeys_of_changed .sound nofun nofun, obeys_of_changed .index nofun nofun,
    fun _ => register_changed, keypad, romSize⟩
  -- the size of the program stays, so the cells have changed
  exact obeys_of_changed .cells nofun nofun fun cells =>
    changed (congrArg₂ Memory.mk cells romSize)

/-- A machine at a word, with a seven in every register. -/
def lined (high low : Nat) : Machine Tape :=
  { facing (Tape.ofList [0]) high low with registers := Vector.replicate 16 7 }

theorem cycle_lined {high low : Nat} {instruction : Instruction} {next : Machine Tape}
    (byte : high < 256) (other : low < 256)
    (decoded : decode (high * 256 + low : Nat) = some instruction)
    (done : (lined high low).fetched.execute instruction = .ok next) :
    (lined high low).cycle.2 = next := by
  have word : (lined high low).fetch = (facing (Tape.ofList [0]) high low).fetch :=
    fetch_congr rfl rfl
  rw [fetch_facing _ byte other] at word
  rw [← word] at decoded
  rw [cycle_of_execute_ok decoded done]

/-- The font starts with the sprite of the digit zero. -/
theorem read_lined (high low : Nat) : (lined high low).memory.read 0 = 0xF0 := by
  have memory : (lined high low).memory = (Memory.fresh.write 0x200 high).write 0x201 low := rfl
  rw [memory, Memory.read_write, if_neg (by decide), Memory.read_write, if_neg (by decide),
    Memory.read_fresh]
  rfl

/-- A block that is stored at the start of memory overwrites it. -/
theorem memory_cycle_lined : (lined 0xF0 0x55).cycle.2.memory ≠ (lined 0xF0 0x55).memory := by
  intro same
  have stored : (lined 0xF0 0x55).cycle.2.memory = (lined 0xF0 0x55).memory.write 0 7 := by
    rw [cycle_lined (by decide) (by decide) rfl rfl]
    rfl
  have read := congrArg (Memory.read · 0) (stored.symm.trans same)
  simp only [Memory.read_write, read_lined, if_pos] at read
  cases read

/-- The first row of the sprite at the start of memory lights a pixel. -/
theorem display_cycle_lined : (lined 0xD0 0x01).cycle.2.display ≠ (lined 0xD0 0x01).display := by
  intro same
  have block : (lined 0xD0 0x01).fetched.block 1 = [0xF0] :=
    congrArg (fun byte => [byte]) (read_lined 0xD0 0x01)
  have done : (lined 0xD0 0x01).fetched.execute (.draw 0 0 1) = _ := drawSprite_eq ..
  have drawn : (lined 0xD0 0x01).cycle.2.display =
      (Display.blank _ _).after (Stroke.ofSprite 7 7 [0xF0]) := by
    rw [cycle_lined (by decide) (by decide) rfl done]
    exact congrArg (fun rows => (Display.blank _ _).after (Stroke.ofSprite 7 7 rows)) block
  have lit := congrArg (Display.isLit · 7 7) (drawn.symm.trans same)
  rw [Display.isLit_after (by decide) (by decide) _ (by decide) (by decide),
    Display.isLit_blank] at lit
  cases lit.trans (Display.isLit_blank 7 7)

/-- A cycle for each of the parts: `F055`, `D001`, `2300`, `F015`, `F018`, `A300` and `6A05`. -/
theorem cycle_changes_lined :
    (lined 0xF0 0x55).Obeys ["Fx33", "Fx55"] ∧ (lined 0xD0 0x01).Obeys ["00E0", "Dxyn"] ∧
      (lined 0x23 0x00).Obeys ["00EE", "2nnn"] ∧ (lined 0xF0 0x15).Obeys ["Fx15"] ∧
      (lined 0xF0 0x18).Obeys ["Fx18"] ∧ (lined 0xA3 0x00).Obeys ["Annn", "Fx1E", "Fx29"] ∧
      10 ≤ Opcode.x (lined 0x6A 0x05).fetch := by
  obtain ⟨memory, -⟩ := cycle_changes (lined 0xF0 0x55)
  obtain ⟨-, display, -⟩ := cycle_changes (lined 0xD0 0x01)
  obtain ⟨-, -, -, stack, -⟩ := cycle_changes (lined 0x23 0x00)
  obtain ⟨-, -, -, -, delay, -⟩ := cycle_changes (lined 0xF0 0x15)
  obtain ⟨-, -, -, -, -, sound, -⟩ := cycle_changes (lined 0xF0 0x18)
  obtain ⟨-, -, -, -, -, -, index, -⟩ := cycle_changes (lined 0xA3 0x00)
  obtain ⟨-, -, -, -, -, -, -, registers, -⟩ := cycle_changes (lined 0x6A 0x05)
  refine ⟨memory memory_cycle_lined, display display_cycle_lined, stack fun same => ?_,
    delay fun same => ?_, sound fun same => ?_, index fun same => ?_, ?_⟩
  · rw [cycle_lined (by decide) (by decide) rfl rfl] at same
    cases congrArg CallStack.depth same
  · rw [cycle_lined (by decide) (by decide) rfl rfl] at same
    cases same
  · rw [cycle_lined (by decide) (by decide) rfl rfl] at same
    cases same
  · rw [cycle_lined (by decide) (by decide) rfl rfl] at same
    cases same
  · have changed : (lined 0x6A 0x05).cycle.2.register 10 ≠ (lined 0x6A 0x05).register 10 := by
      rw [cycle_lined (by decide) (by decide) rfl rfl]
      decide
    rcases registers 10 changed with ⟨named, -⟩ | ⟨flag, -⟩ | ⟨below, -⟩
    · exact Fin.le_of_eq named
    · cases flag
    · exact below

end Machine

end ChipEight
