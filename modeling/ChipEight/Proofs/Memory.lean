import ChipEight.Memory

/-!
# Bytes in memory

Every cell of a memory holds a byte, whatever is written to it, and a loaded program is no larger
than what fits behind `romStart`. Loading replaces a slice of the cells by one of the same length.

## Main definitions

* `Memory.WellFormed` — the cells hold bytes, and the program fits
* `Memory.Stores` — what storing values in consecutive cells does to a memory

## Main results

* `Memory.toList_loadRom`, `Memory.toList_loadRom_fresh` — the cells after loading a program
* `Memory.WellFormed.fresh`, `Memory.WellFormed.write`, `Memory.WellFormed.writeAll`,
  `Memory.WellFormed.loadRom` — every operation keeps the memory well formed
* `Memory.read_writeAll`, `Memory.stores_writeAll`, `Memory.writeAll_eq_self` — a block of values
  that goes around the end of the memory
-/

namespace ChipEight.Memory

/-- Every cell holds a byte, and a loaded program has at most `0xE00` of them. -/
structure WellFormed (memory : Memory) : Prop where
  cell_le : ∀ value ∈ memory.cells, value ≤ 255
  romSize_le : ∀ size ∈ memory.romSize, size ≤ 0xE00

/-- A fresh memory holds the font, and nothing behind it. -/
theorem read_fresh (address : Int) :
    Memory.fresh.read address = font[(cellOf address).val]?.getD 0 := by
  simp only [read, Memory.fresh, Fin.getElem_fin, Vector.getElem_ofFn]

/-- The conditions for loading a program, and the memory afterwards. -/
theorem loadRom_eq_ok {memory next : Memory} {rom : Rom} (loaded : memory.loadRom rom = .ok next) :
    memory.romSize = none ∧ rom.size ≤ 0xE00 ∧
      next = {
        cells := Vector.ofFn fun i =>
          if romStart ≤ i.val then
            (rom[i.val - romStart]?.map UInt8.toNat).getD (memory.cells.get i)
          else memory.cells.get i
        romSize := some rom.size } := by
  unfold loadRom at loaded
  split at loaded
  · cases loaded
  · next vacant =>
    split at loaded
    · cases loaded
    · next small =>
      have same := Except.ok.inj loaded
      exact ⟨Option.not_isSome_iff_eq_none.mp vacant, Nat.le_of_not_lt small, same.symm⟩

/-- A program that fits can be loaded when none is. -/
theorem exists_loadRom {memory : Memory} (vacant : memory.romSize = none) {rom : Rom}
    (fits : rom.size ≤ 0xE00) : ∃ next, memory.loadRom rom = .ok next := by
  have small : ¬ maxRomSize < rom.size := Nat.not_lt.mpr fits
  unfold loadRom
  rw [vacant, if_neg (by decide), if_neg small]
  exact ⟨_, rfl⟩

/-- The cells of a program hold its bytes, and all other cells what they held before. -/
theorem read_loadRom {memory next : Memory} {rom : Rom} (loaded : memory.loadRom rom = .ok next)
    (address : Int) :
    next.read address =
      if romStart ≤ (cellOf address).val then
        (rom[(cellOf address).val - romStart]?.map UInt8.toNat).getD (memory.read address)
      else memory.read address := by
  obtain ⟨-, -, rfl⟩ := loadRom_eq_ok loaded
  simp only [read, Fin.getElem_fin, Vector.getElem_ofFn]
  rfl

/-- Where the bytes of a program are found. -/
theorem read_program {memory next : Memory} {rom : Rom} (loaded : memory.loadRom rom = .ok next)
    {i : Nat} (inside : i < rom.size) : next.read (romStart + i : Nat) = rom[i].toNat := by
  have fits := (loadRom_eq_ok loaded).2.1
  have cell : (cellOf (romStart + i : Nat)).val = romStart + i := by
    simp only [cellOf, romStart]
    omega
  rw [read_loadRom loaded, cell, if_pos (Nat.le_add_right ..), Nat.add_sub_cancel_left,
    Array.getElem?_eq_getElem inside]
  rfl

/-- Loading a program replaces as many cells from `romStart` on as it has bytes. -/
theorem toList_loadRom {memory next : Memory} {rom : Rom} (loaded : memory.loadRom rom = .ok next) :
    next.cells.toList =
      memory.cells.toList.take romStart ++ rom.toList.map UInt8.toNat ++
        memory.cells.toList.drop (romStart + rom.size) := by
  obtain ⟨-, fits, rfl⟩ := loadRom_eq_ok loaded
  apply List.ext_getElem
  · simp [romStart]
    omega
  · intro i bound _
    have inside : i < 4096 := by simpa using bound
    have cell : ∀ (k : Nat) (small : k < 4096), memory.cells.get ⟨k, small⟩ = memory.cells[k] :=
      fun _ _ => rfl
    simp only [Vector.toList_ofFn, List.getElem_ofFn, List.getElem_append, List.length_append,
      List.length_take, List.length_map, Vector.length_toList, Array.length_toList, romStart,
      cell]
    by_cases early : i < 512
    · simp [early, show ¬ 512 ≤ i by omega, show i < 512 + rom.size by omega]
    · by_cases loaded : i - 512 < rom.size
      · simp [early, loaded, show 512 ≤ i by omega, show i < 512 + rom.size by omega]
      · simp [loaded, show 512 ≤ i by omega, show ¬ i < 512 + rom.size by omega]
        congr 1
        omega

theorem toList_fresh :
    Memory.fresh.cells.toList = font.toList ++ List.replicate (0x1000 - 80) 0 := by
  have size : font.toList.length = 80 := rfl
  have cells : Memory.fresh.cells.toList = List.ofFn fun i : Fin 4096 => font[i.val]?.getD 0 :=
    Vector.toList_ofFn
  rw [cells]
  apply List.ext_getElem
  · rw [List.length_ofFn, List.length_append, List.length_replicate, size]
  · intro i bound _
    rw [List.getElem_ofFn, ← Array.getElem?_toList]
    by_cases early : i < font.toList.length
    · rw [List.getElem_append_left early, List.getElem?_eq_getElem early]
      rfl
    · have behind := Nat.le_of_not_lt early
      rw [List.getElem_append_right behind, List.getElem?_eq_none behind, List.getElem_replicate]
      rfl

/-- A fresh memory with a program. -/
theorem toList_loadRom_fresh {next : Memory} {rom : Rom}
    (loaded : Memory.fresh.loadRom rom = .ok next) :
    next.cells.toList =
      font.toList ++ List.replicate (0x200 - 80) 0 ++ rom.toList.map UInt8.toNat ++
        List.replicate (0xE00 - rom.size) 0 := by
  have size : font.toList.length = 80 := rfl
  have behind : 0x1000 - 80 - (0x200 + rom.size - 80) = 0xE00 - rom.size := by omega
  rw [toList_loadRom loaded, toList_fresh, romStart, List.take_append, List.drop_append, size,
    List.take_of_length_le (by rw [size]; decide), List.drop_of_length_le (by rw [size]; omega),
    List.take_replicate, List.drop_replicate, behind, List.nil_append]
  rfl

/-! ## Cells

An address stands for a cell, so addresses of the same cell are read and written alike. -/

section Congruence

variable {memory other : Memory} {a b : Int}

theorem read_congr (same : memory.cells = other.cells) (cell : a % 4096 = b % 4096) :
    memory.read a = other.read b := by
  simp only [read, same, cellOf_eq_iff.mpr cell]

theorem write_congr (same : memory.cells = other.cells) (cell : a % 4096 = b % 4096) (value : Int) :
    (memory.write a value).cells = (other.write b value).cells := by
  simp only [write, same, cellOf_eq_iff.mpr cell]

theorem writeAll_congr (same : memory.cells = other.cells) (cell : a % 4096 = b % 4096)
    (values : List Nat) : (memory.writeAll a values).cells = (other.writeAll b values).cells := by
  induction values generalizing memory other a b with
  | nil => exact same
  | cons value rest ih => exact ih (write_congr same cell value) (by omega)

end Congruence

namespace WellFormed

variable {memory next : Memory}

theorem read_le (wf : memory.WellFormed) (address : Int) : memory.read address ≤ 255 :=
  wf.cell_le _ (Vector.getElem_mem _)

theorem fresh : Memory.fresh.WellFormed where
  cell_le := by
    intro value member
    obtain ⟨i, rfl⟩ := Vector.mem_ofFn.mp member
    cases found : font[i.val]? with
    | none => exact Nat.zero_le _
    | some byte =>
      have bytes : ∀ byte ∈ font, byte ≤ 255 := by decide
      exact bytes byte (Array.mem_of_getElem? found)
  romSize_le := by simp [Memory.fresh]

theorem write (wf : memory.WellFormed) (address value : Int) :
    (memory.write address value).WellFormed where
  cell_le := by
    intro cell (member : cell ∈ memory.cells.set (cellOf address) (value % 256).toNat)
    rcases Vector.mem_or_eq_of_mem_set member with old | rfl
    · exact wf.cell_le cell old
    · omega
  romSize_le := wf.romSize_le

theorem writeAll (wf : memory.WellFormed) (address : Int) (values : List Nat) :
    (memory.writeAll address values).WellFormed := by
  induction values generalizing memory address with
  | nil => exact wf
  | cons value rest ih => exact ih (wf.write address value) (address + 1)

theorem loadRom (wf : memory.WellFormed) {rom : Rom} (loaded : memory.loadRom rom = .ok next) :
    next.WellFormed where
  cell_le := by
    intro value member
    rw [← Vector.mem_toList_iff, toList_loadRom loaded, List.mem_append, List.mem_append] at member
    rcases member with (before | inside) | behind
    · exact wf.cell_le value (Vector.mem_toList_iff.mp (List.mem_of_mem_take before))
    · obtain ⟨byte, -, rfl⟩ := List.mem_map.mp inside
      have := byte.toNat_lt
      omega
    · exact wf.cell_le value (Vector.mem_toList_iff.mp (List.mem_of_mem_drop behind))
  romSize_le := by
    obtain ⟨-, fits, rfl⟩ := loadRom_eq_ok loaded
    intro n member
    cases member
    exact fits

end WellFormed

/-! ## Blocks

Values at consecutive addresses go around at the end of the memory. As long as there are no more of
them than cells, no two of them come to the same cell. -/

section Block

variable {memory : Memory} {address other : Int} {values : List Nat}

/-- A memory becomes another one when values are stored in consecutive cells, around the end of the
memory. -/
structure Stores (memory next : Memory) (start : Nat) (values : List Nat) : Prop where
  stored : ∀ k (inside : k < values.length), next.cells[(start + k) % 4096] = values[k]
  kept : ∀ cell (bound : cell < 4096), (∀ k < values.length, cell ≠ (start + k) % 4096) →
    next.cells[cell] = memory.cells[cell]
  romSize : next.romSize = memory.romSize

/-- Writing leaves the size of the program alone. -/
theorem writeAll_romSize (memory : Memory) (address : Int) (values : List Nat) :
    (memory.writeAll address values).romSize = memory.romSize := by
  induction values generalizing memory address with
  | nil => rfl
  | cons value rest ih => exact ih (memory.write address value) (address + 1)

theorem add_natCast_succ (address : Int) (k : Nat) : address + (k + 1 : Nat) = address + 1 + k := by
  omega

theorem read_writeAll_of_outside
    (outside : ∀ k < values.length, (address + k) % 4096 ≠ other % 4096) :
    (memory.writeAll address values).read other = memory.read other := by
  induction values generalizing memory address with
  | nil => rfl
  | cons value rest ih =>
    have apart := outside 0 (Nat.zero_lt_succ _)
    rw [Int.natCast_zero, Int.add_zero] at apart
    rw [writeAll, ih, read_write, if_neg apart]
    intro k inside
    rw [← add_natCast_succ]
    exact outside (k + 1) (Nat.succ_lt_succ inside)

/-- A block that fits into the memory can be read back. -/
theorem read_writeAll (memory : Memory) (address : Int) (fits : values.length ≤ 4096) {k : Nat}
    (inside : k < values.length) :
    (memory.writeAll address values).read (address + k) = values[k] % 256 := by
  induction values generalizing memory address k with
  | nil => cases inside
  | cons value rest ih =>
    rw [List.length_cons] at fits inside
    cases k with
    | zero =>
      rw [writeAll, read_writeAll_of_outside, read_write, Int.natCast_zero, Int.add_zero,
        if_pos rfl, List.getElem_cons_zero]
      · omega
      · -- the values behind the first one do not come around to its cell
        intro j behind
        omega
    | succ k =>
      rw [add_natCast_succ]
      exact ih (memory.write address value) (address + 1) (Nat.le_of_succ_le fits)
        (Nat.lt_of_succ_lt_succ inside)

theorem getElem_cells (memory : Memory) {cell : Nat} (bound : cell < 4096) :
    memory.cells[cell] = memory.read cell := by
  have same : cellOf cell = ⟨cell, bound⟩ := by
    simp only [cellOf, Fin.mk.injEq]
    omega
  simp only [read, same, Fin.getElem_fin]

/-- A block of bytes that fits into the memory is stored. -/
theorem stores_writeAll (memory : Memory) (start : Nat) (fits : values.length ≤ 4096)
    (bytes : ∀ value ∈ values, value ≤ 255) :
    memory.Stores (memory.writeAll start values) start values where
  stored := by
    intro k inside
    have byte := bytes values[k] (List.getElem_mem inside)
    have wrapped : (((start + k) % 4096 : Nat) : Int) % 4096 = (start + k : Int) % 4096 := by omega
    rw [getElem_cells, read_congr rfl wrapped, read_writeAll memory start fits inside,
      Nat.mod_eq_of_lt (Nat.lt_succ_of_le byte)]
  kept := by
    intro cell bound outside
    rw [getElem_cells, getElem_cells, read_writeAll_of_outside]
    intro k inside
    have apart := outside k inside
    omega
  romSize := memory.writeAll_romSize start values

theorem Stores.read {next : Memory} {start k : Nat} (stores : memory.Stores next start values)
    (inside : k < values.length) : next.read (start + k) = values[k] := by
  have wrapped : (((start + k) % 4096 : Nat) : Int) % 4096 = (start + k : Int) % 4096 := by omega
  rw [← stores.stored k inside, getElem_cells, read_congr rfl wrapped]

theorem write_read_self (wf : memory.WellFormed) :
    memory.write address (memory.read address) = memory := by
  have value : ((memory.read address : Int) % 256).toNat = memory.cells[(cellOf address).val] := by
    have byte := wf.read_le address
    change _ = memory.read address
    omega
  rw [write, value, Vector.set_getElem_self]

/-- Values that are there already change nothing. -/
theorem writeAll_eq_self (wf : memory.WellFormed)
    (same : ∀ k (inside : k < values.length), memory.read (address + k) = values[k]) :
    memory.writeAll address values = memory := by
  induction values generalizing address with
  | nil => rfl
  | cons value rest ih =>
    have first := same 0 (Nat.zero_lt_succ _)
    rw [Int.natCast_zero, Int.add_zero, List.getElem_cons_zero] at first
    rw [writeAll, ← first, write_read_self wf]
    apply ih
    intro k inside
    rw [← add_natCast_succ]
    exact same (k + 1) (Nat.succ_lt_succ inside)

end Block

end ChipEight.Memory
