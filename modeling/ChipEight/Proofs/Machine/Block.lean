import ChipEight.Proofs.Instruction.Decode
import ChipEight.Proofs.Machine.WellFormed

/-!
# Blocks of registers

The first registers are stored in consecutive cells and loaded from them. A block is no larger than
the memory, so no two of its values come to the same cell, even if it goes around the end of the
memory; and cells and registers both hold bytes, so no value is cut. Storing and loading therefore
undo each other, as long as they start at the same index and go up to the same register.

## Main definitions

* `Machine.firstRegisters` — the values that are stored

## Main results

* `Machine.stores_firstRegisters`, `Machine.stores_digits` — what storing a block does to the memory
* `Machine.register_loadRegisters` — the registers after loading a block
* `Machine.blocks_inverse` — storing and loading undo each other
-/

namespace ChipEight.Machine

variable {σ : Type} {m : Machine σ}

/-- The values in `V0` to `Vx`. -/
def firstRegisters (m : Machine σ) (x : Fin 16) : List Nat :=
  m.registers.toList.take (x + 1)

theorem length_firstRegisters (m : Machine σ) (x : Fin 16) :
    (m.firstRegisters x).length = x + 1 := by
  rw [firstRegisters, List.length_take, Vector.length_toList]
  omega

/-- Each value of a block is that of one of the registers up to `Vx`. -/
theorem getElem_firstRegisters (m : Machine σ) {x : Fin 16} {k : Nat}
    (inside : k < (m.firstRegisters x).length) :
    ∃ z : Fin 16, z.val = k ∧ z ≤ x ∧ (m.firstRegisters x)[k] = m.register z := by
  have upTo := inside
  rw [length_firstRegisters] at upTo
  refine ⟨⟨k, by omega⟩, rfl, Nat.le_of_lt_succ upTo, ?_⟩
  simp only [firstRegisters, List.getElem_take, Vector.getElem_toList]
  rfl

/-- The registers up to `Vx` are stored at the index. -/
theorem stores_firstRegisters (wf : m.WellFormed) (x : Fin 16) :
    m.memory.Stores (m.memory.writeAll m.index (m.firstRegisters x)) m.index
      (m.firstRegisters x) := by
  refine Memory.stores_writeAll m.memory m.index ?_ fun value mem => ?_
  · rw [length_firstRegisters]
    omega
  · obtain ⟨k, inside, rfl⟩ := List.getElem_of_mem mem
    obtain ⟨z, -, -, value⟩ := m.getElem_firstRegisters inside
    rw [value]
    exact wf.register_le z

/-- The decimal digits of a byte are stored at the index. -/
theorem stores_digits {value : Nat} (byte : value ≤ 255) :
    m.memory.Stores (m.memory.writeAll m.index (decimalDigits value)) m.index
      (decimalDigits value) := by
  refine Memory.stores_writeAll m.memory m.index ?_ ?_
  · exact show 3 ≤ 4096 by decide
  · simp only [decimalDigits, List.forall_mem_cons]
    refine ⟨?_, ?_, ?_, nofun⟩ <;> omega

variable [ByteSource σ]

/-- The registers up to `Vx` are loaded from the index, and all others stay. -/
theorem register_loadRegisters (m : Machine σ) (x : Fin 16) :
    ∃ registers, m.execute (.loadRegisters x) = .ok { m with registers } ∧
      ∀ z : Fin 16,
        registers.get z = if z ≤ x then m.memory.read (m.index + z) else m.register z := by
  refine ⟨_, rfl, fun z => ?_⟩
  exact Vector.getElem_ofFn z.isLt

/-- What has been stored is loaded again, whatever the registers hold by then. -/
theorem load_stored (x : Fin 16) {memory : Memory}
    (stores : m.memory.Stores memory m.index (m.firstRegisters x)) (registers : Registers) :
    ∃ restored, { m with memory, registers }.execute (.loadRegisters x) =
        .ok { m with memory, registers := restored } ∧
      ∀ z, restored.get z = if z ≤ x then m.register z else registers.get z := by
  obtain ⟨restored, done, loaded⟩ := { m with memory, registers }.register_loadRegisters x
  refine ⟨restored, done, fun z => (loaded z).trans ?_⟩
  split
  · next upTo =>
    have inside : z.val < (m.firstRegisters x).length := by
      rw [length_firstRegisters]
      exact Nat.lt_succ_of_le upTo
    obtain ⟨k, same, -, value⟩ := m.getElem_firstRegisters inside
    obtain rfl : k = z := Fin.ext same
    exact (stores.read inside).trans value
  · rfl

/-- What has been loaded is in memory already. -/
theorem store_loaded (wf : m.WellFormed) (x : Fin 16) {registers : Registers}
    (loaded : ∀ z, registers.get z = if z ≤ x then m.memory.read (m.index + z) else m.register z) :
    { m with registers }.execute (.storeRegisters x) = .ok { m with registers } := by
  -- both instructions go up to `Vx`, so each value that is stored has been read from its own cell
  have same : m.memory.writeAll m.index ({ m with registers }.firstRegisters x) = m.memory := by
    refine Memory.writeAll_eq_self wf.memory fun k inside => ?_
    obtain ⟨z, rfl, upTo, value⟩ := { m with registers }.getElem_firstRegisters inside
    rw [value]
    exact ((loaded z).trans (if_pos upTo)).symm
  calc { m with registers }.execute (.storeRegisters x)
      = .ok { m with
          registers
          memory := m.memory.writeAll m.index ({ m with registers }.firstRegisters x) } := rfl
    _ = .ok { m with registers } := by rw [same]

/-- **Storing and loading undo each other.** `Fx55` stores `V0` to `Vx` in the cells from the index
on and changes no other cell, and `Fx65` loads them back, whatever the registers hold by then.
`Fx55` after `Fx65` stores what is there already. `Fx33` stores the decimal digits of `Vx` in the
same way. All of them leave the index as it is, and a block goes around the end of the memory. -/
theorem blocks_inverse (wf : m.WellFormed) (x : Fin 16) :
    (decode (0xF055 + x * 256) = some (.storeRegisters x) ∧
      ∃ memory, m.execute (.storeRegisters x) = .ok { m with memory } ∧
        m.memory.Stores memory m.index (m.firstRegisters x) ∧
        ∀ registers : Registers, ∃ restored,
          { m with memory, registers }.execute (.loadRegisters x) =
            .ok { m with memory, registers := restored } ∧
          ∀ z, restored.get z = if z ≤ x then m.register z else registers.get z) ∧
      (decode (0xF065 + x * 256) = some (.loadRegisters x) ∧
        ∃ registers, m.execute (.loadRegisters x) = .ok { m with registers } ∧
          { m with registers }.execute (.storeRegisters x) = .ok { m with registers }) ∧
      decode (0xF033 + x * 256) = some (.storeDecimal x) ∧
        ∃ memory h t o, m.execute (.storeDecimal x) = .ok { m with memory } ∧
          m.memory.Stores memory m.index [h, t, o] ∧
          h ≤ 9 ∧ t ≤ 9 ∧ o ≤ 9 ∧ 100 * h + 10 * t + o = m.register x := by
  have stores := stores_firstRegisters wf x
  obtain ⟨registers, done, loaded⟩ := m.register_loadRegisters x
  refine ⟨⟨decode_encode (.storeRegisters x), _, rfl, stores, load_stored x stores⟩,
    ⟨decode_encode (.loadRegisters x), registers, done, store_loaded wf x loaded⟩,
    decode_encode (.storeDecimal x), _, _, _, _, rfl, stores_digits (wf.register_le x), ?_⟩
  have byte := wf.register_le x
  omega

/-- A machine with the numbers from 200 on in its registers, and an index eight cells before the
end. -/
def straddling : Machine Tape :=
  { fresh (Tape.ofList []) with index := 0xFFF8, registers := Vector.ofFn fun k => 200 + k }

theorem straddling_wellFormed : straddling.WellFormed :=
  { WellFormed.fresh (Tape.ofList []) with
    register_le := by
      intro z
      simp only [straddling, register_eq_getElem, Vector.getElem_ofFn]
      omega
    index_le := by decide }

/-- All registers are stored around the end of the memory, with `V7` in the last cell and `V8` in
the first, and loaded again into registers that have been cleared. -/
theorem blocks_inverse_straddling :
    straddling.WellFormed ∧
      ∃ memory, straddling.execute (.storeRegisters 15) = .ok { straddling with memory } ∧
        memory.cells[0xFFF] = 207 ∧ memory.cells[0] = 208 ∧
        ∃ restored,
          { straddling with memory, registers := .replicate 16 0 }.execute (.loadRegisters 15) =
            .ok { straddling with memory, registers := restored } ∧
          ∀ z : Fin 16, restored.get z = 200 + z.val := by
  obtain ⟨⟨-, memory, done, stores, loads⟩, -⟩ := blocks_inverse straddling_wellFormed 15
  obtain ⟨restored, loaded, same⟩ := loads (.replicate 16 0)
  refine ⟨straddling_wellFormed, memory, done, stores.stored 7 (by decide),
    stores.stored 8 (by decide), restored, loaded, fun z => ?_⟩
  have stored : z ≤ 15 := Nat.le_of_lt_succ z.isLt
  rw [same, if_pos stored]
  simp only [straddling, register_eq_getElem, Vector.getElem_ofFn]

end ChipEight.Machine
