import ChipEight.Proofs.Instruction.Pattern
import ChipEight.Proofs.Machine.Call
import ChipEight.Proofs.Machine.WellFormed

/-!
# Where a cycle goes on

The program counter is moved up to three times in one cycle: behind the word that is fetched, behind
the next word by a skip, and to a target by a jump, a call or a return, or back to the word while a
key is awaited. Here is where it ends up, told from the word and from the machine before the cycle
alone. All of it is taken modulo `0x10000`, while the two bytes of a word are taken from addresses
modulo 4096.

## Main definitions

* `Instruction.condition?` — the condition of a skip
* `Machine.Skips` — whether a word is a skip whose condition holds
* `Machine.Idles` — whether a word awaits a key while none is down

## Main results

* `Machine.skips_iff` — the words of the skips
* `Machine.pc_of_condition`, `Machine.pc_of_awaitKey`, `Machine.pc_of_untouched` — where skips, a
  wait and all instructions that leave the program counter alone go on
* `Machine.cycle_pc` — where a cycle goes on
-/

namespace ChipEight

/-! ## Skips -/

/-- The condition of a skip on the registers and keys of a machine. -/
def Instruction.condition? {σ : Type} (m : Machine σ) : Instruction → Option Bool
  | skipIfByte x k => some (m.register x == k.val)
  | skipUnlessByte x k => some (m.register x != k.val)
  | skipIfSame x y => some (m.register x == m.register y)
  | skipUnlessSame x y => some (m.register x != m.register y)
  | skipIfDown x => some (m.keypad.isDown (lastDigit (m.register x)))
  | skipIfUp x => some (!m.keypad.isDown (lastDigit (m.register x)))
  | _ => none

/-- An instruction that may move the program counter is a jump of some kind, a skip, or a wait. -/
theorem Instruction.moves_cases {σ : Type} (m : Machine σ) {instruction : Instruction}
    (moves : .pc ∈ instruction.footprint) :
    instruction.pattern ∈ ["00EE", "1nnn", "2nnn", "Bnnn"] ∨
      (∃ condition, instruction.condition? m = some condition) ∨
      ∃ x, instruction = .awaitKey x := by
  cases instruction <;> simp [footprint, pattern, condition?] at moves ⊢

namespace Machine

variable {σ : Type}

/-- The word of an opcode is a skip, and its condition on the registers and keys of the machine
holds. -/
def Skips (m : Machine σ) (opcode : Int) : Prop :=
  let word := Opcode.word opcode
  let a := m.register (Opcode.x opcode)
  let b := m.register (Opcode.y opcode)
  let k := (Opcode.byte opcode).val
  Matches "3xkk" word ∧ a = k ∨ Matches "4xkk" word ∧ a ≠ k ∨
    Matches "5xy0" word ∧ a = b ∨ Matches "9xy0" word ∧ a ≠ b ∨
    Matches "Ex9E" word ∧ m.keypad.isDown (lastDigit a) = true ∨
    Matches "ExA1" word ∧ m.keypad.isDown (lastDigit a) = false

/-- The word of an opcode awaits a key, and all keys of the machine are up. -/
def Idles (m : Machine σ) (opcode : Int) : Prop :=
  Matches "Fx0A" (Opcode.word opcode) ∧ ∀ key, m.keypad.isDown key = false

variable {m : Machine σ} {instruction : Instruction} {opcode : Int} {condition : Bool}

/-- The words of the skips whose condition holds. -/
theorem skips_iff (decoded : decode opcode = some instruction) :
    m.Skips opcode ↔ instruction.condition? m = some true := by
  have word := decode_eq_some_iff.mp decoded
  have named {name : String} (known : name ∈ patterns) :
      Matches name (Opcode.word opcode) ↔ instruction.pattern = name := by
    rw [← and_iff_right (b := Matches name (Opcode.word opcode)) known, ← map_pattern_eq_some_iff,
      decoded, Option.map_some, Option.some_inj]
  simp only [Skips, named (show "3xkk" ∈ patterns by decide),
    named (show "4xkk" ∈ patterns by decide), named (show "5xy0" ∈ patterns by decide),
    named (show "9xy0" ∈ patterns by decide), named (show "Ex9E" ∈ patterns by decide),
    named (show "ExA1" ∈ patterns by decide)]
  cases instruction
  case skipIfByte x k | skipUnlessByte x k =>
    obtain ⟨-, rfl, rfl⟩ := byte_fields rfl word
    simp [Instruction.pattern, Instruction.condition?]
  case skipIfSame x y | skipUnlessSame x y =>
    obtain ⟨-, rfl, rfl⟩ := binary_fields rfl word
    simp [Instruction.pattern, Instruction.condition?]
  case skipIfDown x | skipIfUp x =>
    obtain ⟨-, rfl⟩ := unary_fields rfl word
    simp [Instruction.pattern, Instruction.condition?]
  all_goals simp [Instruction.pattern, Instruction.condition?]

/-! ## Where the instructions go on -/

variable [ByteSource σ] {target : Fin 4096} {x : Fin 16}

theorem execute_of_condition (skip : instruction.condition? m = some condition) :
    m.execute instruction = .ok (m.skipIf condition) := by
  cases instruction
  case skipIfByte | skipUnlessByte | skipIfSame | skipUnlessSame | skipIfDown | skipIfUp =>
    rw [← Option.some.inj skip]
    rfl
  all_goals cases skip

theorem pc_of_jump (run : m.executes = some (.jump target)) : m.cycle.2.pc = target := by
  rw [← Except.ok.inj (execute_of_executes run)]

theorem pc_of_jumpOffset (run : m.executes = some (.jumpOffset target)) :
    m.cycle.2.pc = target + m.register baseRegister := by
  rw [← Except.ok.inj (execute_of_executes run)]
  rfl

theorem pc_of_call (run : m.executes = some (.call target)) : m.cycle.2.pc = target := by
  obtain ⟨stack, -, rest⟩ := bind_eq_ok_iff.mp (execute_of_executes run)
  rw [← Except.ok.inj rest]

/-- A skip whose condition holds goes on behind the next word. -/
theorem pc_of_condition (run : m.executes = some instruction)
    (skip : instruction.condition? m = some condition) :
    m.cycle.2.pc = (m.pc + if condition then 4 else 2) % 0x10000 := by
  have same : instruction.condition? m.fetched = some condition := by
    rw [← skip]
    cases instruction <;> rfl
  rw [← Except.ok.inj ((execute_of_condition same).symm.trans (execute_of_executes run))]
  cases condition with
  | false => rfl
  | true =>
    simp only [skipIf, if_true, advance, fetched]
    omega

/-- A wait goes back to its word while all keys are up, which undoes the step behind it also at the
end of the addresses. -/
theorem cycle_of_untouched (wf : m.WellFormed) (decoded : decode m.fetch = some (.awaitKey x))
    (untouched : m.keypad.first = none) :
    m.cycle = (.ok (.executed m.pc m.fetch), { m with drawn := false }) := by
  have keypad : m.fetched.keypad = m.keypad := rfl
  have range := wf.pc_range
  have back : (m.fetched.pc - 2) % 65536 = m.pc := by
    simp only [fetched, advance]
    omega
  apply cycle_of_execute_ok decoded
  simp only [execute, keypad, untouched, back]
  rfl

/-- A wait goes on at the next word with the key that is found. -/
theorem cycle_of_touched (decoded : decode m.fetch = some (.awaitKey x)) {key : Fin 16}
    (touched : m.keypad.first = some key) :
    m.cycle = (.ok (.executed m.pc m.fetch),
      { m with pc := (m.pc + 2) % 0x10000, drawn := false }.setRegister x key) := by
  have keypad : m.fetched.keypad = m.keypad := rfl
  apply cycle_of_execute_ok decoded
  simp only [execute, keypad, touched]
  rfl

theorem pc_of_awaitKey (wf : m.WellFormed) (run : m.executes = some (.awaitKey x)) :
    ((∀ key, m.keypad.isDown key = false) → m.cycle.2.pc = m.pc) ∧
      (¬ (∀ key, m.keypad.isDown key = false) → m.cycle.2.pc = (m.pc + 2) % 0x10000) := by
  have decoded := (executes_eq_some_iff.mp run).2
  rw [← Keypad.first_eq_none_iff]
  constructor
  · intro none
    rw [cycle_of_untouched wf decoded none]
  · intro some
    obtain ⟨key, first⟩ := Option.ne_none_iff_exists'.mp some
    rw [cycle_of_touched decoded first]
    rfl

/-- All other instructions go on at the next word. -/
theorem pc_of_untouched (run : m.executes = some instruction)
    (untouched : .pc ∉ instruction.footprint) : m.cycle.2.pc = (m.pc + 2) % 0x10000 := by
  have kept : m.fetched.Agrees m.cycle.2 .pc := execute_agrees (execute_of_executes run) untouched
  exact kept

/-- **Where a cycle goes on.** A cycle that executes a word has fetched it from the program counter,
the high byte first. A jump and a call go on at the address in their words, and a jump with an
offset at that address plus `V0`, which never has to wrap around. A return goes on at the address on
top of the stack, and a call has put the address behind its word there. A skip whose condition holds
leaves out the next word, a wait while no key is down stays at its word, and all else goes on at the
next word. -/
theorem cycle_pc (wf : m.WellFormed) {address : Int}
    (executed : m.cycle.1 = .ok (.executed address opcode)) :
    address = m.pc ∧
      opcode = m.memory.read (address % 4096) * 256 + m.memory.read ((address + 1) % 4096) ∧
      (Matches "1nnn" (Opcode.word opcode) → m.cycle.2.pc = opcode % 0x1000) ∧
      (Matches "2nnn" (Opcode.word opcode) → m.cycle.2.pc = opcode % 0x1000 ∧
        m.cycle.2.stack.toList = m.stack.toList ++ [(address + 2) % 0x10000]) ∧
      (Matches "Bnnn" (Opcode.word opcode) → m.cycle.2.pc = opcode % 0x1000 + m.register 0 ∧
        m.cycle.2.pc ≤ 0xFFFF) ∧
      (Matches "00EE" (Opcode.word opcode) → m.stack.toList.getLast? = some m.cycle.2.pc) ∧
      (m.Skips opcode → m.cycle.2.pc = (address + 4) % 0x10000) ∧
      (m.Idles opcode → m.cycle.2.pc = address) ∧
      ((∀ name ∈ ["00EE", "1nnn", "2nnn", "Bnnn"], ¬ Matches name (Opcode.word opcode)) →
        ¬ m.Skips opcode → ¬ m.Idles opcode → m.cycle.2.pc = (address + 2) % 0x10000) := by
  obtain ⟨rfl, rfl, instruction, decoded, run⟩ := exists_of_executed executed
  have word : Opcode.word m.fetch = m.fetch := Opcode.word_of_le wf.fetch_le
  have operand : ((Opcode.address m.fetch : Nat) : Int) = m.fetch % 0x1000 := by
    simp only [Opcode.address, Fin.val_ofNat, word]
    omega
  -- a word that matches the pattern of an entry has been executed as the instruction of the entry
  have obeyed (entry : Nat × (Int → Instruction)) (inTable : entry ∈ Instruction.table)
      (matched : Matches (entry.2 0).pattern (Opcode.word m.fetch)) :
      m.executes = some (entry.2 m.fetch) :=
    (executes_of_cycle executed (decode_of_matches inTable matched)).2
  refine ⟨rfl, ?_, ?_, ?_, ?_, ?_, ?_, ?_, ?_⟩
  · rw [fetch, Memory.read_congr rfl (Int.emod_emod_of_dvd m.pc (Int.dvd_refl 4096)),
      Memory.read_congr rfl (Int.emod_emod_of_dvd (m.pc + 1) (Int.dvd_refl 4096)),
      Int.natCast_add, Int.natCast_mul]
    rfl
  · intro jump
    have run := obeyed (0x1000, fun opcode => .jump (Opcode.address opcode))
      (by simp [Instruction.table]) jump
    rw [pc_of_jump run, operand]
  · intro call
    have run := obeyed (0x2000, fun opcode => .call (Opcode.address opcode))
      (by simp [Instruction.table]) call
    rw [pc_of_call run, operand]
    exact ⟨rfl, stack_cycle_of_call run⟩
  · intro jump
    have run := obeyed (0xB000, fun opcode => .jumpOffset (Opcode.address opcode))
      (by simp [Instruction.table]) jump
    have offset := wf.register_le baseRegister
    rw [pc_of_jumpOffset run, operand]
    exact ⟨rfl, by omega⟩
  · intro ret
    have run := obeyed (0x00EE, fun _ => .ret) (by simp [Instruction.table]) ret
    rw [stack_cycle_of_ret run, List.getLast?_concat]
  · intro skips
    exact pc_of_condition run ((skips_iff decoded).mp skips)
  · rintro ⟨wait, up⟩
    have run := obeyed (0xF00A, fun opcode => .awaitKey (Opcode.x opcode))
      (by simp [Instruction.table]) wait
    exact (pc_of_awaitKey wf run).1 up
  · intro noJump noSkip noWait
    by_cases moves : .pc ∈ instruction.footprint
    · rcases instruction.moves_cases m moves with jump | ⟨condition, skip⟩ | ⟨x, rfl⟩
      · exact absurd (matches_of_decode decoded) (noJump _ jump)
      · rw [skips_iff decoded, skip, Option.some_inj, Bool.not_eq_true] at noSkip
        rw [pc_of_condition run skip, noSkip]
        rfl
      · exact (pc_of_awaitKey wf run).2 fun up => noWait ⟨matches_of_decode decoded, up⟩
    · exact pc_of_untouched run moves

/-- A machine with the word `30F0` across the end of memory and of the program counter, and with the
number `F0` in `V0`. -/
def hurdle : Machine Tape :=
  { fresh (Tape.ofList []) with
    memory := Memory.fresh.write 0xFFFF 0x30
    pc := 0xFFFF
    registers := Vector.replicate 16 0xF0 }

theorem hurdle_fetch : hurdle.fetch = 0x30F0 :=
  fetch_at_end 0x30 (by decide) rfl rfl

theorem hurdle_wellFormed : hurdle.WellFormed :=
  { WellFormed.fresh (Tape.ofList []) with
    memory := Memory.WellFormed.fresh.write 0xFFFF 0x30
    register_le := by
      intro x
      simp [hurdle, register_eq_getElem]
    pc_range := by simp [hurdle] }

theorem cycle_pc_hurdle :
    hurdle.WellFormed ∧ hurdle.cycle.1 = .ok (.executed 0xFFFF 0x30F0) ∧ hurdle.Skips 0x30F0 ∧
      hurdle.cycle.2.pc = 3 := by
  have decoded : decode hurdle.fetch = some (.skipIfByte 0 0xF0) := by
    rw [hurdle_fetch]
    rfl
  have run := executes_of_decode decoded nofun
  have executed := (executes_eq_some_iff.mp run).1
  have skips : hurdle.Skips hurdle.fetch := (skips_iff decoded).mpr rfl
  have pc : hurdle.pc = 0xFFFF := rfl
  rw [hurdle_fetch, pc] at executed
  rw [hurdle_fetch] at skips
  obtain ⟨-, -, -, -, -, -, skipped, -, -⟩ := cycle_pc hurdle_wellFormed executed
  exact ⟨hurdle_wellFormed, executed, skips, skipped skips⟩

end Machine

end ChipEight
