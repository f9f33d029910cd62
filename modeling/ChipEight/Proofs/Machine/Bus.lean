import ChipEight.Proofs.Machine.Drive
import Mathlib.Data.Int.ModEq
import Mathlib.Data.List.Forall2

/-!
# The address bus

The program counter, the index and the return addresses have sixteen bits, and a memory cell is
found by the lowest twelve of them. The other four bits have no influence on what a machine does:
two machines whose addresses agree up to multiples of the size of the memory go the same way for
ever. They may even take different numbers from their sources, as only the lowest eight bits of a
number are used.

The span up to which addresses agree is a parameter. The size of the memory is the smallest one, and
machines of sixteen bits that agree up to `0x10000` have the same addresses.

## Main definitions

* `IsSpan` — a span of addresses that the memory and the registers go around evenly
* `Machine.SameBus` — two machines agree, in their addresses up to multiples of a span
* `CycleResult.Near`, `Answer.Near` — two results agree, in their addresses up to multiples of a
  span

## Main results

* `Machine.SameBus.execute` — an instruction keeps two machines in agreement
* `Machine.SameBus.cycle`, `Machine.SameBus.drive` — so do cycles and the other steps
* `Machine.driven_sameBus` — so does any list of steps
-/

namespace ChipEight

/-- A number of addresses that divides the number of addresses of sixteen bits and is a multiple of
the number of memory cells. -/
structure IsSpan (span : Int) : Prop where
  cells : 4096 ∣ span
  turns : span ∣ 0x10000

namespace IsSpan

variable {span a b : Int}

theorem memory : IsSpan 4096 := ⟨by decide, by decide⟩

/-- Addresses that agree up to a span stand for the same cell, also at a distance from them. -/
theorem cell (isSpan : IsSpan span) (near : a ≡ b [ZMOD span]) (k : Int) :
    (a + k) % 4096 = (b + k) % 4096 :=
  (near.add_right k).of_dvd isSpan.cells

/-- Going around at the end of sixteen bits does not matter up to a span. -/
theorem wrap (isSpan : IsSpan span) (near : a ≡ b [ZMOD span]) :
    a % 0x10000 ≡ b % 0x10000 [ZMOD span] := by
  have left : a % 0x10000 ≡ a [ZMOD span] := (Int.mod_modEq a 0x10000).of_dvd isSpan.turns
  have right : b % 0x10000 ≡ b [ZMOD span] := (Int.mod_modEq b 0x10000).of_dvd isSpan.turns
  exact left.trans (near.trans right.symm)

end IsSpan

/-! ## The call stack -/

namespace CallStack

variable {stack other : CallStack} {related : Int → Int → Prop} {a b : Int}

theorem push_alike (same : List.Forall₂ related stack.toList other.toList) (top : related a b) :
    Alike (fun next after => List.Forall₂ related next.toList after.toList)
      (stack.push a) (other.push b) := by
  have depth : stack.depth = other.depth := by simpa using same.length_eq
  cases pushed : stack.push a with
  | error fault =>
    obtain ⟨full, rfl⟩ := push_eq_error_iff.mp pushed
    rw [push_eq_error_iff.mpr ⟨depth ▸ full, rfl⟩]
    exact .error _
  | ok next =>
    cases otherPushed : other.push b with
    | error fault =>
      obtain ⟨full, rfl⟩ := push_eq_error_iff.mp otherPushed
      rw [push_eq_error_iff.mpr ⟨depth.trans full, rfl⟩] at pushed
      cases pushed
    | ok after =>
      apply Alike.ok
      rw [toList_push pushed, toList_push otherPushed]
      exact List.rel_append same (.cons top .nil)

theorem pop_alike (same : List.Forall₂ related stack.toList other.toList) :
    Alike (fun next after => related next.1 after.1 ∧
      List.Forall₂ related next.2.toList after.2.toList) stack.pop other.pop := by
  have depth : stack.depth = other.depth := by simpa using same.length_eq
  cases popped : stack.pop with
  | error fault =>
    obtain ⟨empty, rfl⟩ := pop_eq_error_iff.mp popped
    rw [pop_eq_error_iff.mpr ⟨depth ▸ empty, rfl⟩]
    exact .error _
  | ok next =>
    cases otherPopped : other.pop with
    | error fault =>
      obtain ⟨empty, rfl⟩ := pop_eq_error_iff.mp otherPopped
      rw [pop_eq_error_iff.mpr ⟨depth.trans empty, rfl⟩] at popped
      cases popped
    | ok after =>
      obtain ⟨top, next⟩ := next
      obtain ⟨otherTop, after⟩ := after
      rw [toList_pop popped, toList_pop otherPopped, ← List.forall₂_reverse_iff,
        List.reverse_append, List.reverse_append] at same
      cases same with
      | cons first rest => exact .ok ⟨first, List.forall₂_reverse_iff.mp rest⟩

end CallStack

namespace Machine

variable {σ τ : Type} [ByteSource σ] [ByteSource τ] {span : Int} {m : Machine σ} {n : Machine τ}

/-- Two machines agree in all parts that cycles use, in their addresses up to multiples of a span,
and in the lowest eight bits of the numbers that their sources are going to give. -/
structure SameBus (span : Int) (m : Machine σ) (n : Machine τ) : Prop where
  cells : m.memory.cells = n.memory.cells
  registers : m.registers = n.registers
  pc : m.pc ≡ n.pc [ZMOD span]
  index : m.index ≡ n.index [ZMOD span]
  delay : m.delay = n.delay
  sound : m.sound = n.sound
  stack : List.Forall₂ (fun a b => a ≡ b [ZMOD span]) m.stack.toList n.stack.toList
  display : m.display = n.display
  keypad : m.keypad = n.keypad
  drawn : m.drawn = n.drawn
  bytes : ∀ i, ByteSource.value m.source i ≡ ByteSource.value n.source i [ZMOD 256]

namespace SameBus

theorem register (same : SameBus span m n) (x : Fin 16) : m.register x = n.register x := by
  rw [Machine.register, Machine.register, same.registers]

theorem fetch (isSpan : IsSpan span) (same : SameBus span m n) : m.fetch = n.fetch := by
  have high : m.memory.read m.pc = n.memory.read n.pc :=
    Memory.read_congr same.cells (same.pc.of_dvd isSpan.cells)
  have low : m.memory.read (m.pc + 1) = n.memory.read (n.pc + 1) :=
    Memory.read_congr same.cells (isSpan.cell same.pc 1)
  rw [Machine.fetch, Machine.fetch, high, low]

theorem block (isSpan : IsSpan span) (same : SameBus span m n) (size : Nat) :
    m.block size = n.block size := by
  apply List.map_congr_left
  intro k _
  exact Memory.read_congr same.cells (isSpan.cell same.index k)

/-! ## The smallest steps -/

theorem setRegister (same : SameBus span m n) (x : Fin 16) (value : Nat) :
    SameBus span (m.setRegister x value) (n.setRegister x value) :=
  { same with registers := by rw [Machine.setRegister, Machine.setRegister, same.registers] }

theorem setWithFlag (same : SameBus span m n) (x : Fin 16) (value : Nat) (condition : Bool) :
    SameBus span (m.setWithFlag x value condition) (n.setWithFlag x value condition) :=
  (same.setRegister x value).setRegister flagRegister (flag condition)

theorem advance (isSpan : IsSpan span) (same : SameBus span m n) :
    SameBus span m.advance n.advance :=
  { same with pc := isSpan.wrap (same.pc.add_right 2) }

theorem skipIf (isSpan : IsSpan span) (same : SameBus span m n) (condition : Bool) :
    SameBus span (m.skipIf condition) (n.skipIf condition) := by
  unfold Machine.skipIf
  split
  · exact same.advance isSpan
  · exact same

theorem fetched (isSpan : IsSpan span) (same : SameBus span m n) :
    SameBus span m.fetched n.fetched :=
  advance isSpan { same with drawn := rfl }

/-! ## Instructions

One case for each instruction, grouped by what it reads and writes. -/

/-- An instruction comes out the same way on two machines that agree. -/
theorem execute (isSpan : IsSpan span) (same : SameBus span m n) (instruction : Instruction) :
    Alike (SameBus span) (m.execute instruction) (n.execute instruction) := by
  have register := same.register
  cases instruction
  case clearScreen => exact .ok { same with display := rfl, drawn := rfl }
  case ret =>
    apply (CallStack.pop_alike same.stack).bind
    rintro ⟨pc, stack⟩ ⟨otherPc, otherStack⟩ ⟨top, rest⟩
    exact .ok { same with pc := top, stack := rest }
  case call target =>
    apply (CallStack.push_alike same.stack same.pc).bind
    intro stack otherStack pushed
    exact .ok { same with pc := rfl, stack := pushed }
  case jump target => exact .ok { same with pc := rfl }
  case jumpOffset target =>
    simp only [Machine.execute, register]
    exact .ok { same with pc := rfl }
  case skipIfByte | skipUnlessByte | skipIfSame | skipUnlessSame =>
    simp only [Machine.execute, register]
    exact .ok (same.skipIf isSpan _)
  case skipIfDown | skipIfUp =>
    simp only [Machine.execute, register, same.keypad]
    exact .ok (same.skipIf isSpan _)
  case loadByte | addByte | copy | or | and | xor =>
    simp only [Machine.execute, register]
    exact .ok (same.setRegister _ _)
  case add | sub | subFrom | shiftRight | shiftLeft =>
    simp only [Machine.execute, register]
    exact .ok (same.setWithFlag _ _ _)
  case random x mask =>
    have byte : (ByteSource.draw m.source).1 % 256 = (ByteSource.draw n.source).1 % 256 :=
      same.bytes 0
    simp only [Machine.execute, byte]
    apply Alike.ok
    apply setRegister
    exact { same with bytes := fun i => same.bytes (i + 1) }
  case draw x y rows =>
    simp only [Machine.execute, drawSprite_eq, register, same.block isSpan, same.display]
    apply Alike.ok
    apply setRegister
    exact { same with display := rfl, drawn := rfl }
  case readDelay x =>
    simp only [Machine.execute, same.delay]
    exact .ok (same.setRegister x _)
  case awaitKey x =>
    have first : m.keypad.first = n.keypad.first := by rw [same.keypad]
    simp only [Machine.execute, first]
    cases n.keypad.first with
    | none => exact .ok { same with pc := isSpan.wrap (same.pc.sub_right 2) }
    | some key => exact .ok (same.setRegister x _)
  case setDelay x => exact .ok { same with delay := register x }
  case setSound x => exact .ok { same with sound := register x }
  case loadIndex target => exact .ok { same with index := rfl }
  case addIndex x =>
    simp only [Machine.execute, register]
    refine .ok { same with index := ?_ }
    have moved := isSpan.wrap (same.index.add_right (n.register x))
    exact_mod_cast moved
  case loadGlyph x =>
    simp only [Machine.execute, register]
    exact .ok { same with index := rfl }
  case storeDecimal x =>
    simp only [Machine.execute, register]
    exact .ok
      { same with cells := Memory.writeAll_congr same.cells (same.index.of_dvd isSpan.cells) _ }
  case storeRegisters x =>
    have values : m.registers.toList = n.registers.toList := by rw [same.registers]
    simp only [Machine.execute, values]
    exact .ok
      { same with cells := Memory.writeAll_congr same.cells (same.index.of_dvd isSpan.cells) _ }
  case loadRegisters x =>
    refine .ok { same with registers := ?_ }
    apply Vector.ext
    intro k inside
    simp only [Vector.getElem_ofFn, register,
      Memory.read_congr same.cells (isSpan.cell same.index k)]

end SameBus

end Machine

/-! ## Cycles and other steps -/

/-- Two results of cycles are of the same kind, for the same word, and from addresses that agree up
to multiples of a span. -/
inductive CycleResult.Near (span : Int) : CycleResult → CycleResult → Prop
  | executed {a b opcode : Int} :
    a ≡ b [ZMOD span] → Near span (executed a opcode) (executed b opcode)
  | unknown {a b opcode : Int} : a ≡ b [ZMOD span] → Near span (unknown a opcode) (unknown b opcode)

/-- Two answers agree, up to where on the bus a cycle has found its word. -/
inductive Answer.Near (span : Int) : Answer → Answer → Prop
  | result {r s : CycleResult} : r.Near span s → Near span (.result r) (.result s)
  | same (answer : Answer) : Near span answer answer

namespace Machine

variable {σ τ : Type} [ByteSource σ] [ByteSource τ] {span : Int} {m : Machine σ} {n : Machine τ}

namespace SameBus

/-- A cycle comes out the same way on two machines that agree, and they agree after it. -/
theorem cycle (isSpan : IsSpan span) (same : SameBus span m n) :
    Alike (CycleResult.Near span) m.cycle.1 n.cycle.1 ∧ SameBus span m.cycle.2 n.cycle.2 := by
  have word := same.fetch isSpan
  apply cycle_alike word
  · rw [word]
    exact .unknown same.pc
  · rw [word]
    exact .executed same.pc
  · exact { same with drawn := rfl }
  · exact same.fetched isSpan
  · exact (same.fetched isSpan).execute isSpan

/-- So does every other step. -/
theorem drive (isSpan : IsSpan span) (same : SameBus span m n) (step : Drive) :
    Alike (Answer.Near span) (m.answer step) (n.answer step) ∧
      SameBus span (m.drive step) (n.drive step) := by
  by_cases cycle : step = .cycle
  · subst cycle
    obtain ⟨results, after⟩ := same.cycle isSpan
    rw [answer_cycle, answer_cycle, drive_cycle, drive_cycle]
    exact ⟨results.map fun _ _ near => .result near, after⟩
  · rw [m.answer_of_ne_cycle cycle, n.answer_of_ne_cycle cycle, m.drive_of_ne_cycle cycle,
      n.drive_of_ne_cycle cycle, same.keypad, same.delay, same.sound]
    exact ⟨.refl .same _, { same with keypad := rfl, delay := rfl, sound := rfl }⟩

/-- Machines that agree go on to agree whatever drives both of them. -/
theorem driven (isSpan : IsSpan span) (same : SameBus span m n) (steps : List Drive) :
    SameBus span (m.driven steps) (n.driven steps) := by
  induction steps generalizing m n with
  | nil => exact same
  | cons step rest ih => exact ih (same.drive isSpan step).2

end SameBus

/-- **The address bus.** Take two machines that agree, but whose program counters, indices and
return addresses agree only up to multiples of the size of the memory. Then every step of every list
of steps, with cycles, ticks and keys in any order, comes out the same way on both: the same words
are executed, unknown or refused, at addresses that agree in the same way, and the machines go on to
agree. -/
theorem driven_sameBus (same : SameBus 4096 m n) (steps : List Drive) :
    SameBus 4096 (m.driven steps) (n.driven steps) ∧
      ∀ step, Alike (Answer.Near 4096) ((m.driven steps).answer step)
        ((n.driven steps).answer step) := by
  have later := same.driven .memory steps
  exact ⟨later, fun step => (later.drive .memory step).1⟩

/-- A machine at the word `00EE`, which lies across the end of the memory, with one return
address. -/
def returning (pc : Int) (index : Nat) (address : Int) : Machine Tape :=
  { fresh (Tape.ofList []) with
    memory := (Memory.fresh.write 0xFFF 0x00).write 0x000 0xEE
    pc
    index
    stack := { slots := Vector.replicate 16 address, depth := 1, depth_le := by decide } }

theorem driven_sameBus_returning :
    SameBus 4096 (returning 0xFFF 0x123 0x345) (returning 0xFFFF 0xA123 0x7345) ∧
      ((returning 0xFFF 0x123 0x345).driven [.cycle, .tick]).pc ≡
        ((returning 0xFFFF 0xA123 0x7345).driven [.cycle, .tick]).pc [ZMOD 4096] := by
  have same : SameBus 4096 (returning 0xFFF 0x123 0x345) (returning 0xFFFF 0xA123 0x7345) :=
    { cells := rfl, registers := rfl, pc := by decide, index := by decide, delay := rfl,
      sound := rfl
      stack := .cons (by decide) .nil
      display := rfl, keypad := rfl, drawn := rfl, bytes := fun _ => rfl }
  exact ⟨same, (driven_sameBus same [.cycle, .tick]).1.pc⟩

end Machine

end ChipEight
