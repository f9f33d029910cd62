import ChipEight.Proofs.Instruction.Pattern
import ChipEight.Proofs.Machine.Load
import ChipEight.Proofs.Machine.Run

/-!
# Programs without detours

Most instructions neither move the program counter nor write to memory, and they are never refused.
A program of such instructions is executed from its first word to its last one, whatever the
registers, the keys and the random bytes are. It may be as long as the memory behind `romStart`.

## Main definitions

* `Rom.ofWords` — the program with the given words
* `Instruction.detours` — the patterns of the instructions that may move the program counter or
  write to memory
* `Straight` — words of all other instructions
* `Memory.Holds` — words that lie one behind the other in a memory

## Main results

* `Memory.holds_loadRom` — the words of a loaded program lie in memory
* `Machine.cycle_of_straight` — a cycle that makes no detour
* `Machine.run_of_holds` — a run over words that make no detour
* `Machine.run_ofWords` — a program without detours is executed word by word
-/

namespace ChipEight

/-- The bytes of a word, the high byte first. -/
def wordBytes (word : UInt16) : List UInt8 :=
  [UInt8.ofNat (word.toNat / 256), UInt8.ofNat word.toNat]

/-- The program with the given words. -/
def Rom.ofWords (words : List UInt16) : Rom :=
  (words.flatMap wordBytes).toArray

theorem Rom.size_ofWords (words : List UInt16) : (Rom.ofWords words).size = 2 * words.length := by
  have bytes : ∀ word, (wordBytes word).length = 2 := fun _ => rfl
  simp [Rom.ofWords, List.length_flatMap, bytes, Nat.mul_comm]

/-! ## Words in memory -/

namespace Memory

/-- The words lie in the memory from an address on. -/
def Holds (memory : Memory) : Int → List UInt16 → Prop
  | _, [] => True
  | address, word :: rest =>
    memory.read address * 256 + memory.read (address + 1) = word.toNat ∧
      memory.Holds (address + 2) rest

theorem holds_of_bytes {memory : Memory} {address : Int} {words : List UInt16}
    (same : ∀ (i : Nat) (inside : i < (words.flatMap wordBytes).length),
      memory.read (address + i) = (words.flatMap wordBytes)[i].toNat) :
    memory.Holds address words := by
  induction words generalizing address with
  | nil => trivial
  | cons word rest ih =>
    have high : memory.read address = word.toNat / 256 % 256 := by
      simpa [wordBytes] using same 0 (by simp [wordBytes])
    have low : memory.read (address + 1) = word.toNat % 256 := by
      simpa [wordBytes] using same 1 (by simp [wordBytes])
    have small := word.toNat_lt
    refine ⟨by omega, ih fun i inside => ?_⟩
    have later := same (i + 2) (by simpa [wordBytes] using inside)
    simpa [wordBytes, Int.add_assoc, Int.add_comm 2] using later

/-- The words of a loaded program lie in memory from `romStart` on. -/
theorem holds_loadRom {memory next : Memory} {words : List UInt16}
    (loaded : memory.loadRom (Rom.ofWords words) = .ok next) : next.Holds 0x200 words :=
  holds_of_bytes fun _ inside => read_program loaded inside

end Memory

/-! ## Instructions that make no detour -/

namespace Instruction

/-- The patterns of the instructions that may move the program counter or write to memory. -/
def detours : List String :=
  ["00EE", "1nnn", "2nnn", "Bnnn", "3xkk", "4xkk", "5xy0", "9xy0", "Ex9E", "ExA1", "Fx0A", "Fx33",
    "Fx55"]

theorem footprint_of_straight {instruction : Instruction}
    (noDetour : instruction.pattern ∉ detours) :
    .pc ∉ instruction.footprint ∧ .stack ∉ instruction.footprint ∧ .cells ∉ instruction.footprint ∧
      .romSize ∉ instruction.footprint := by
  cases instruction <;> simp_all [pattern, detours, footprint]

end Instruction

/-- A word stands for an instruction that makes no detour. -/
def Straight (word : UInt16) : Prop :=
  ∃ instruction, decode word.toNat = some instruction ∧ instruction.pattern ∉ Instruction.detours

namespace Machine

variable {σ : Type} [ByteSource σ] {m : Machine σ}

/-- A cycle that makes no detour goes on to the next word and leaves memory and the stack alone. -/
theorem cycle_of_straight {instruction : Instruction} (decoded : decode m.fetch = some instruction)
    (noDetour : instruction.pattern ∉ Instruction.detours) :
    m.cycle.1 = .ok (.executed m.pc m.fetch) ∧ m.cycle.2.pc = (m.pc + 2) % 65536 ∧
      m.cycle.2.memory = m.memory ∧ m.cycle.2.stack = m.stack := by
  obtain ⟨pc, stack, cells, romSize⟩ := Instruction.footprint_of_straight noDetour
  cases done : m.fetched.execute instruction with
  | error fault =>
    rcases execute_eq_error_iff.mp done with ⟨rfl, -⟩ | ⟨⟨target, rfl⟩, -⟩
    · simp [Instruction.pattern, Instruction.detours] at noDetour
    · simp [Instruction.pattern, Instruction.detours] at noDetour
  | ok next =>
    rw [cycle_of_execute_ok decoded done]
    have cellsKept : next.memory.cells = m.memory.cells := execute_agrees done cells
    have sizeKept : next.memory.romSize = m.memory.romSize := execute_agrees done romSize
    refine ⟨rfl, execute_agrees done pc, ?_, execute_agrees done stack⟩
    calc next.memory
      _ = ⟨next.memory.cells, next.memory.romSize⟩ := rfl
      _ = m.memory := by rw [cellsKept, sizeKept]

/-- A run over words that make no detour executes them one after the other. -/
theorem run_of_holds {words : List UInt16} (holds : m.memory.Holds m.pc words) (start : 0 ≤ m.pc)
    (inside : m.pc + 2 * words.length < 0x10000) (straight : ∀ word ∈ words, Straight word) :
    ∃ (last : Machine σ) (drawn : Bool),
      m.run words.length =
          ⟨last, words.mapIdx fun k word => .executed (m.pc + 2 * k) word.toNat, drawn, none⟩ ∧
        last.pc = m.pc + 2 * words.length ∧ last.memory = m.memory ∧ last.stack = m.stack := by
  induction words generalizing m with
  | nil => exact ⟨m, false, rfl, (Int.add_zero _).symm, rfl, rfl⟩
  | cons word rest ih =>
    obtain ⟨fetched, behind⟩ := holds
    obtain ⟨⟨instruction, decoded, noDetour⟩, later⟩ := List.forall_mem_cons.mp straight
    rw [List.length_cons] at inside
    have fetch : m.fetch = word.toNat := fetched
    obtain ⟨executed, pc, memory, stack⟩ :=
      cycle_of_straight (m := m) (by rw [fetch, decoded]) noDetour
    -- the program counter does not wrap before the words end
    have next : m.cycle.2.pc = m.pc + 2 := by omega
    rw [fetch] at executed
    rw [← memory, ← next] at behind
    obtain ⟨last, drawn, run, lastPc, lastMemory, lastStack⟩ :=
      ih (m := m.cycle.2) behind (by omega) (by omega) later
    have shift (k : Nat) : m.cycle.2.pc + 2 * (k : Int) = m.pc + 2 * (k + 1 : Nat) := by omega
    refine ⟨last, m.cycle.2.drawn || drawn, ?_, ?_, lastMemory.trans memory, lastStack.trans stack⟩
    · rw [List.length_cons, run_succ_of_executed executed, run]
      simp only [List.mapIdx_cons, shift, Int.natCast_zero, Int.mul_zero, Int.add_zero]
    · rw [lastPc, List.length_cons]
      omega

/-- **Programs without detours.** Take up to 1792 words that stand for instructions without detours,
and load them into a new machine. Then the machine executes them in order, whatever the random bytes
and the keys are. The program counter is behind the last word then, the stack is empty, and memory
holds just the font and the program. -/
theorem run_ofWords (source : σ) (keypad : Keypad) {words : List UInt16}
    (fits : words.length ≤ 1792) (straight : ∀ word ∈ words, Straight word) :
    ∃ m, (fresh source).loadRom (Rom.ofWords words) = .ok m ∧
      ∃ (last : Machine σ) (drawn : Bool),
        { m with keypad }.run words.length =
            ⟨last, words.mapIdx fun k word => .executed (0x200 + 2 * k) word.toNat, drawn, none⟩ ∧
          last.pc = 0x200 + 2 * words.length ∧ last.stack.toList = [] ∧
            last.memory.cells.toList =
              font.toList ++ List.replicate (0x200 - 80) 0 ++
                (words.flatMap wordBytes).map UInt8.toNat ++
                  List.replicate (0xE00 - 2 * words.length) 0 := by
  have size := Rom.size_ofWords words
  obtain ⟨m, loaded⟩ := exists_loadRom source (by rw [size]; omega)
  obtain ⟨memory, inMemory, rfl⟩ := loadRom_fresh loaded
  have image := Memory.toList_loadRom_fresh inMemory
  have inside : (fresh source).pc + 2 * words.length < 0x10000 := by
    simp only [fresh, romStart]
    omega
  obtain ⟨last, drawn, run, pc, kept, stack⟩ :=
    run_of_holds (m := { fresh source with memory, keypad }) (Memory.holds_loadRom inMemory)
      (Int.natCast_nonneg romStart) inside straight
  refine ⟨_, loaded, last, drawn, run, pc, ?_, ?_⟩
  · rw [stack]
    exact CallStack.toList_empty
  · rw [kept, ← size]
    exact image

/-- The program fills the memory behind `romStart`, and the key `5` is down. -/
theorem run_ofWords_full :
    (∀ word ∈ List.replicate 1792 0x7001, Straight word) ∧
      ∃ m, (fresh (Tape.ofList [])).loadRom (Rom.ofWords (List.replicate 1792 0x7001)) = .ok m ∧
        ({ m with keypad := Keypad.released.press 5 }.run 1792).machine.pc = 0x1000 := by
  have straight : ∀ word ∈ List.replicate 1792 0x7001, Straight word := by
    intro word member
    obtain rfl := List.eq_of_mem_replicate member
    exact ⟨.addByte 0 1, rfl, by decide⟩
  have length : (List.replicate 1792 (0x7001 : UInt16)).length = 1792 := List.length_replicate
  obtain ⟨m, loaded, last, drawn, run, pc, -, -⟩ :=
    run_ofWords (Tape.ofList []) (Keypad.released.press 5) (Nat.le_of_eq length) straight
  rw [length] at run pc
  refine ⟨straight, m, loaded, ?_⟩
  rw [run]
  exact pc

end Machine

end ChipEight
