import ChipEight.Fault
import ChipEight.Font

/-!
# Memory

A memory of 4096 cells. Addresses are integers and wrap around at both ends; a cell keeps the lowest
eight bits of what is written to it. The font lies at the start, and one program can be loaded at
`romStart`.

## Main definitions

* `Memory` — the cells, and the size of the program once one is loaded
* `Memory.fresh` — the memory that holds just the font
* `Memory.read`, `Memory.write` — a cell at an address
* `Memory.loadRom` — copies a program

## Main results

* `Memory.read_write` — what is read after a write
-/

namespace ChipEight

/-- The number of cells of a memory. -/
def memorySize : Nat := 4096

/-- The address at which a program is loaded. -/
def romStart : Nat := 0x200

/-- A program: its bytes in order. -/
abbrev Rom := Array UInt8

/-- The cells of a memory, and the size of its program once one is loaded. -/
structure Memory where
  cells : Vector Nat 4096
  romSize : Option Nat

namespace Memory

/-- The cell that an address stands for. -/
def cellOf (address : Int) : Fin 4096 :=
  ⟨(address % 4096).toNat, by omega⟩

/-- The memory that holds just the font. -/
def fresh : Memory where
  cells := Vector.ofFn fun i => font[i.val]?.getD 0
  romSize := none

/-- The content of the cell at an address. -/
def read (memory : Memory) (address : Int) : Nat :=
  memory.cells[cellOf address]

/-- The memory with the lowest eight bits of `value` at an address. -/
def write (memory : Memory) (address value : Int) : Memory :=
  { memory with cells := memory.cells.set (cellOf address) (value % 256).toNat }

/-- The memory with `values` at consecutive addresses from `address` on. -/
def writeAll (memory : Memory) (address : Int) : List Nat → Memory
  | [] => memory
  | value :: rest => (memory.write address value).writeAll (address + 1) rest

/-- The memory with the program `rom` at `romStart`. Only one program is loaded, and it has to fit
between `romStart` and the end of the memory. -/
def loadRom (memory : Memory) (rom : Rom) : Except Fault Memory :=
  if memory.romSize.isSome then .error .alreadyLoaded
  else if maxRomSize < rom.size then .error (.tooLarge rom.size)
  else
    .ok {
      cells := Vector.ofFn fun i =>
        if romStart ≤ i.val then
          (rom[i.val - romStart]?.map UInt8.toNat).getD memory.cells[i]
        else memory.cells[i]
      romSize := some rom.size }

theorem cellOf_eq_iff {a b : Int} : cellOf a = cellOf b ↔ a % 4096 = b % 4096 := by
  simp only [cellOf, Fin.mk.injEq]
  omega

/-- A write shows at all addresses of its cell, and at no other address. -/
theorem read_write (memory : Memory) (a b value : Int) :
    (memory.write a value).read b =
      if a % 4096 = b % 4096 then (value % 256).toNat else memory.read b := by
  simp only [read, write, Fin.getElem_fin, Vector.getElem_set, Fin.val_inj, cellOf_eq_iff]

end Memory

end ChipEight
