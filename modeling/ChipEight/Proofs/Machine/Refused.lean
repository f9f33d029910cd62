import ChipEight.Proofs.Machine.WellFormed

/-!
# Cycles that are refused

On a well-formed machine just two kinds of words can be refused: a return with an empty stack and a
call with a full one. A refused cycle has moved the program counter behind the word and cleared the
draw flag, and has changed nothing else.

## Main results

* `Machine.cycle_refused_iff` — when a cycle is refused, for which reason, and what it leaves behind
-/

namespace ChipEight.Machine

variable {σ : Type}

namespace WellFormed

variable {m : Machine σ}

theorem decode_fetch_eq_ret_iff (wf : m.WellFormed) :
    decode m.fetch = some .ret ↔ m.fetch = 0x00EE := by
  rw [decode_eq_ret_iff, Opcode.word_of_le wf.fetch_le]

theorem exists_decode_fetch_eq_call_iff (wf : m.WellFormed) :
    (∃ target, decode m.fetch = some (.call target)) ↔ 0x2000 ≤ m.fetch ∧ m.fetch ≤ 0x2FFF := by
  rw [exists_decode_eq_call_iff, Opcode.word_of_le wf.fetch_le]

end WellFormed

variable [ByteSource σ]

/-- The words and depths at which a cycle of a well-formed machine is refused. -/
theorem WellFormed.cycle_eq_error_iff {m : Machine σ} (wf : m.WellFormed) {fault : Fault} :
    m.cycle.1 = .error fault ↔
      m.fetch = 0x00EE ∧ m.stack.depth = 0 ∧ fault = .stackEmpty ∨
        (0x2000 ≤ m.fetch ∧ m.fetch ≤ 0x2FFF) ∧ m.stack.depth = 16 ∧ fault = .stackFull := by
  have stack : m.fetched.stack = m.stack := rfl
  rw [Machine.cycle_eq_error_iff, ← wf.decode_fetch_eq_ret_iff,
    ← wf.exists_decode_fetch_eq_call_iff]
  simp only [execute_eq_error_iff, stack]
  constructor
  · rintro ⟨instruction, decoded, ⟨rfl, empty⟩ | ⟨⟨target, rfl⟩, full⟩⟩
    · exact .inl ⟨decoded, empty⟩
    · exact .inr ⟨⟨target, decoded⟩, full⟩
  · rintro (⟨decoded, empty⟩ | ⟨⟨target, decoded⟩, full⟩)
    · exact ⟨.ret, decoded, .inl ⟨rfl, empty⟩⟩
    · exact ⟨.call target, decoded, .inr ⟨⟨target, rfl⟩, full⟩⟩

/-- **Refused cycles.** A cycle of a well-formed machine is refused exactly when its word is a
return and the stack is empty or a call and the stack is full. The reason is then always the stack,
and the machine differs from the one before only in its program counter, which is behind the word,
and in its draw flag, which is off. -/
theorem cycle_refused_iff {m : Machine σ} (wf : m.WellFormed) :
    ((∃ fault, m.cycle.1 = .error fault) ↔
        m.fetch = 0x00EE ∧ m.stack.depth = 0 ∨
          (0x2000 ≤ m.fetch ∧ m.fetch ≤ 0x2FFF) ∧ m.stack.depth = 16) ∧
      ∀ fault, m.cycle.1 = .error fault →
        fault.kind = .stack ∧
          m.cycle.2 = { m with pc := (m.pc + 2) % 0x10000, drawn := false } := by
  constructor
  · simp only [wf.cycle_eq_error_iff]
    constructor
    · rintro ⟨fault, ⟨word, empty, -⟩ | ⟨word, full, -⟩⟩
      · exact .inl ⟨word, empty⟩
      · exact .inr ⟨word, full⟩
    · rintro (⟨word, empty⟩ | ⟨word, full⟩)
      · exact ⟨.stackEmpty, .inl ⟨word, empty, rfl⟩⟩
      · exact ⟨.stackFull, .inr ⟨word, full, rfl⟩⟩
  · intro fault refused
    exact ⟨kind_of_cycle_error refused, cycle_of_error refused⟩

/-- A machine with a full stack whose word `22F0` lies across the end of memory and of the program
counter. -/
def crowded : Machine Tape :=
  { fresh (Tape.ofList []) with
    memory := Memory.fresh.write 0xFFFF 0x22
    pc := 0xFFFF
    stack := { slots := Vector.replicate 16 0x200, depth := 16, depth_le := by decide } }

theorem crowded_fetch : crowded.fetch = 0x22F0 :=
  fetch_at_end 0x22 (by decide) rfl rfl

theorem crowded_wellFormed : crowded.WellFormed where
  memory := Memory.WellFormed.fresh.write 0xFFFF 0x22
  register_le x := by simp [crowded, fresh, register_eq_getElem]
  delay_le := Nat.zero_le _
  sound_le := Nat.zero_le _
  pc_range := by simp [crowded]
  index_le := Nat.zero_le _
  address_range := by
    intro address member
    have slot : address ∈ List.replicate 16 0x200 := List.mem_of_mem_take member
    rw [List.eq_of_mem_replicate slot]
    decide

theorem cycle_refused_iff_crowded :
    crowded.WellFormed ∧ (∃ fault, crowded.cycle.1 = .error fault ∧ fault.kind = .stack) ∧
      crowded.cycle.2 = { crowded with pc := 1, drawn := false } := by
  obtain ⟨condition, effect⟩ := cycle_refused_iff crowded_wellFormed
  obtain ⟨fault, refused⟩ := condition.mpr (.inr (by rw [crowded_fetch]; decide))
  obtain ⟨kind, left⟩ := effect fault refused
  exact ⟨crowded_wellFormed, ⟨fault, refused, kind⟩, left⟩

end ChipEight.Machine
