import ChipEight.Proofs.Machine.Run

/-!
# Well-formed machines

The registers of a machine keep their widths: eight bits in memory, in `V0` to `VF` and in the
timers, sixteen bits in the program counter, in the index and in the return addresses. Each
instruction keeps them, and so do cycles and frames, also those that are refused. How many cells,
registers, slots, pixels and keys there are is part of their types.

## Main definitions

* `Machine.WellFormed` — every register is within its width

## Main results

* `Machine.WellFormed.execute` — an instruction keeps a machine well formed
* `Machine.WellFormed.cycle`, `Machine.WellFormed.run`, `Machine.WellFormed.frame` — so do cycles,
  runs of cycles and frames
-/

namespace ChipEight.Machine

variable {σ : Type}

/-- Memory cells, registers and timers hold bytes, the program fits, and the program counter, the
index and the return addresses in use have sixteen bits. -/
structure WellFormed (m : Machine σ) : Prop where
  memory : m.memory.WellFormed
  register_le : ∀ x, m.register x ≤ 255
  delay_le : m.delay ≤ 255
  sound_le : m.sound ≤ 255
  pc_range : 0 ≤ m.pc ∧ m.pc ≤ 0xFFFF
  index_le : m.index ≤ 0xFFFF
  address_range : ∀ address ∈ m.stack.toList, 0 ≤ address ∧ address ≤ 0xFFFF

/-! ## Bytes -/

section Bytes

variable {a b : Nat}

theorem flag_le (condition : Bool) : flag condition ≤ 255 := by
  cases condition <;> decide

theorem difference_le (a b : Nat) : difference a b ≤ 255 := by
  unfold difference
  omega

theorem or_le (first : a ≤ 255) (second : b ≤ 255) : a ||| b ≤ 255 :=
  Nat.le_of_lt_succ
    (Nat.or_lt_two_pow (n := 8) (Nat.lt_succ_of_le first) (Nat.lt_succ_of_le second))

theorem xor_le (first : a ≤ 255) (second : b ≤ 255) : a ^^^ b ≤ 255 :=
  Nat.le_of_lt_succ
    (Nat.xor_lt_two_pow (n := 8) (Nat.lt_succ_of_le first) (Nat.lt_succ_of_le second))

end Bytes

namespace WellFormed

variable {m next : Machine σ}

/-- The machine with just the font is well formed. -/
theorem fresh (source : σ) : (Machine.fresh source).WellFormed where
  memory := .fresh
  register_le x := by simp [Machine.fresh, register_eq_getElem]
  delay_le := Nat.zero_le _
  sound_le := Nat.zero_le _
  pc_range := by simp [Machine.fresh, romStart]
  index_le := Nat.zero_le _
  address_range := by simp [Machine.fresh]

theorem fetch_le (wf : m.WellFormed) : m.fetch ≤ 0xFFFF := by
  have high := wf.memory.read_le m.pc
  have low := wf.memory.read_le (m.pc + 1)
  unfold fetch
  omega

/-! ## The smallest steps -/

theorem setRegister (wf : m.WellFormed) (x : Fin 16) {value : Nat} (byte : value ≤ 255) :
    (m.setRegister x value).WellFormed :=
  { wf with
    register_le := by
      intro z
      rw [register_setRegister]
      split
      · exact byte
      · exact wf.register_le z }

theorem setWithFlag (wf : m.WellFormed) (x : Fin 16) {value : Nat} (condition : Bool)
    (byte : value ≤ 255) : (m.setWithFlag x value condition).WellFormed :=
  (wf.setRegister x byte).setRegister flagRegister (flag_le condition)

theorem advance (wf : m.WellFormed) : m.advance.WellFormed :=
  { wf with pc_range := by simp only [Machine.advance]; omega }

theorem skipIf (wf : m.WellFormed) (condition : Bool) : (m.skipIf condition).WellFormed := by
  unfold Machine.skipIf
  split
  · exact wf.advance
  · exact wf

theorem fetched (wf : m.WellFormed) : m.fetched.WellFormed :=
  advance { wf with }

theorem tick (wf : m.WellFormed) : m.tick.WellFormed :=
  { wf with
    delay_le := Nat.le_trans (Nat.sub_le _ _) wf.delay_le
    sound_le := Nat.le_trans (Nat.sub_le _ _) wf.sound_le }

/-! ## Instructions

One case for each instruction, grouped by what it writes. -/

theorem popped_range (wf : m.WellFormed) {address : Int} {stack : CallStack}
    (popped : m.stack.pop = .ok (address, stack)) :
    (0 ≤ address ∧ address ≤ 0xFFFF) ∧ ∀ other ∈ stack.toList, 0 ≤ other ∧ other ≤ 0xFFFF := by
  have inUse := wf.address_range
  rw [CallStack.toList_pop popped] at inUse
  exact ⟨inUse address (by simp), fun other member => inUse other (by simp [member])⟩

theorem pushed_range (wf : m.WellFormed) {stack : CallStack}
    (pushed : m.stack.push m.pc = .ok stack) :
    ∀ address ∈ stack.toList, 0 ≤ address ∧ address ≤ 0xFFFF := by
  intro address member
  rw [CallStack.toList_push pushed, List.mem_append, List.mem_singleton] at member
  rcases member with inUse | rfl
  · exact wf.address_range address inUse
  · exact wf.pc_range

variable [ByteSource σ]

/-- An instruction keeps a machine well formed. -/
theorem execute (wf : m.WellFormed) {instruction : Instruction}
    (done : m.execute instruction = .ok next) : next.WellFormed := by
  cases instruction
  case clearScreen =>
    obtain rfl := Except.ok.inj done
    exact { wf with }
  case ret =>
    obtain ⟨⟨pc, stack⟩, popped, rest⟩ := bind_eq_ok_iff.mp done
    obtain rfl := Except.ok.inj rest
    obtain ⟨top, others⟩ := wf.popped_range popped
    exact { wf with pc_range := top, address_range := others }
  case call target =>
    obtain ⟨stack, pushed, rest⟩ := bind_eq_ok_iff.mp done
    obtain rfl := Except.ok.inj rest
    exact { wf with
      pc_range := by simp only; omega
      address_range := wf.pushed_range pushed }
  case jump target =>
    obtain rfl := Except.ok.inj done
    exact { wf with pc_range := by simp only; omega }
  case jumpOffset target =>
    obtain rfl := Except.ok.inj done
    -- an address of twelve bits and a byte stay within sixteen, so nothing has to wrap around
    have offset := wf.register_le baseRegister
    exact { wf with pc_range := by simp only; omega }
  case skipIfByte | skipUnlessByte | skipIfSame | skipUnlessSame | skipIfDown | skipIfUp =>
    obtain rfl := Except.ok.inj done
    exact wf.skipIf _
  case loadByte x k =>
    obtain rfl := Except.ok.inj done
    exact wf.setRegister x (by omega)
  case addByte x k =>
    obtain rfl := Except.ok.inj done
    exact wf.setRegister x (by omega)
  case copy x y =>
    obtain rfl := Except.ok.inj done
    exact wf.setRegister x (wf.register_le y)
  case or x y =>
    obtain rfl := Except.ok.inj done
    exact wf.setRegister x (or_le (wf.register_le x) (wf.register_le y))
  case and x y =>
    obtain rfl := Except.ok.inj done
    exact wf.setRegister x (Nat.le_trans Nat.and_le_left (wf.register_le x))
  case xor x y =>
    obtain rfl := Except.ok.inj done
    exact wf.setRegister x (xor_le (wf.register_le x) (wf.register_le y))
  case add x y =>
    obtain rfl := Except.ok.inj done
    exact wf.setWithFlag x _ (by omega)
  case sub x y | subFrom x y =>
    obtain rfl := Except.ok.inj done
    exact wf.setWithFlag x _ (difference_le _ _)
  case shiftRight x y =>
    obtain rfl := Except.ok.inj done
    have byte := wf.register_le x
    exact wf.setWithFlag x _ (by omega)
  case shiftLeft x y =>
    obtain rfl := Except.ok.inj done
    exact wf.setWithFlag x _ (by omega)
  case loadIndex target =>
    obtain rfl := Except.ok.inj done
    exact { wf with index_le := by simp only; omega }
  case addIndex x =>
    obtain rfl := Except.ok.inj done
    exact { wf with index_le := by simp only; omega }
  case loadGlyph x =>
    obtain rfl := Except.ok.inj done
    -- the glyph of a number beyond the digits lies behind the font, but still within sixteen bits
    have byte := wf.register_le x
    exact { wf with index_le := by simp only [fontStart, glyphSize]; omega }
  case random x mask =>
    obtain rfl := Except.ok.inj done
    have small : mask.val ≤ 255 := by omega
    refine setRegister ?_ x (Nat.le_trans Nat.and_le_right small)
    exact { wf with }
  case draw x y rows =>
    obtain ⟨display, value, drawn⟩ := exists_drawSprite m x y rows
    obtain rfl := Except.ok.inj (drawn.symm.trans done)
    refine setRegister ?_ flagRegister (flag_le value)
    exact { wf with }
  case readDelay x =>
    obtain rfl := Except.ok.inj done
    exact wf.setRegister x wf.delay_le
  case awaitKey x =>
    simp only [Machine.execute] at done
    split at done
    · obtain rfl := Except.ok.inj done
      exact { wf with pc_range := by simp only; omega }
    · obtain rfl := Except.ok.inj done
      exact wf.setRegister x (by omega)
  case setDelay x =>
    obtain rfl := Except.ok.inj done
    exact { wf with delay_le := wf.register_le x }
  case setSound x =>
    obtain rfl := Except.ok.inj done
    exact { wf with sound_le := wf.register_le x }
  case storeDecimal | storeRegisters =>
    obtain rfl := Except.ok.inj done
    exact { wf with memory := wf.memory.writeAll _ _ }
  case loadRegisters x =>
    obtain rfl := Except.ok.inj done
    refine { wf with register_le := ?_ }
    intro z
    simp only [register_eq_getElem, Vector.getElem_ofFn]
    split
    · exact wf.memory.read_le _
    · exact wf.register_le z

/-! ## Cycles and frames -/

theorem cycle (wf : m.WellFormed) : m.cycle.2.WellFormed := by
  rcases m.cycle_cases with ⟨-, stays⟩ | ⟨instruction, next, -, done, moves⟩ | ⟨_, _, -, -, refused⟩
  · rw [stays]
    exact { wf with }
  · rw [moves]
    exact wf.fetched.execute done
  · rw [refused]
    exact wf.fetched

/-- A run of cycles keeps a machine well formed. -/
theorem run (wf : m.WellFormed) (n : Nat) : (m.run n).machine.WellFormed := by
  revert wf
  refine run_induction
    (motive := fun m run => m.WellFormed → run.machine.WellFormed) ?_ ?_ ?_ ?_ m n
  · intro m wf
    exact wf
  · intro m fault first wf
    exact wf.cycle
  · intro m address opcode first wf
    exact wf.cycle
  · intro m address opcode rest first ih wf
    exact ih wf.cycle

/-- A frame keeps a machine well formed, whatever its number of cycles and however it ends. -/
theorem frame (wf : m.WellFormed) (cycles : Int) : (m.frame cycles).machine.WellFormed := by
  have ran := wf.run cycles.toNat
  have drawn :
      { (m.run cycles.toNat).machine with drawn := (m.run cycles.toNat).drawn }.WellFormed :=
    { ran with }
  unfold Machine.frame
  dsimp only
  split
  · exact drawn.tick
  · exact drawn
  · exact ran

end WellFormed

end ChipEight.Machine
