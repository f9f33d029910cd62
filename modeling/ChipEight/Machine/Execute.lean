import ChipEight.Instruction.Basic
import ChipEight.Machine.Basic

/-!
# Execution of an instruction

What each instruction does to a machine whose program counter already points behind it. Only a call
with a full stack and a return with an empty one are refused. A flag in `VF` is written last, so it
stays when `VF` is also the register that an instruction computes.

## Main definitions

* `Machine.execute` — the machine after an instruction
-/

namespace ChipEight.Machine

variable {σ : Type}

/-- The register `VF`. -/
def flagRegister : Fin 16 := ⟨15, by decide⟩

/-- The register `V0`, from which some jumps are counted. -/
def baseRegister : Fin 16 := ⟨0, by decide⟩

/-- The flag that tells whether a condition holds. -/
def flag (condition : Bool) : Nat :=
  if condition then 1 else 0

/-- The lowest eight bits of a difference. -/
def difference (a b : Nat) : Nat :=
  (((a : Int) - b) % 256).toNat

/-- The machine with a result in `Vx` and a flag in `VF`. -/
def setWithFlag (m : Machine σ) (x : Fin 16) (value : Nat) (condition : Bool) : Machine σ :=
  (m.setRegister x value).setRegister flagRegister (flag condition)

/-- The digits of a byte in decimal: hundreds, tens and ones. -/
def decimalDigits (value : Nat) : List Nat :=
  [value / 100, value / 10 % 10, value % 10]

/-- The contents of the `n` memory cells at the index. -/
def block (m : Machine σ) (n : Nat) : List Nat :=
  (List.range n).map fun (k : Nat) => m.memory.read (m.index + k)

/-- Draws the sprite at the index with its upper left corner at `(Vx, Vy)`. -/
def drawSprite (m : Machine σ) (x y : Fin 16) (rows : Nat) : Except Fault (Machine σ) := do
  let strokes := Stroke.ofSprite (m.register x) (m.register y) (m.block rows)
  let (collisions, display) ← m.display.xorAll strokes
  return { m with display, drawn := true }.setRegister flagRegister (flag (0 < collisions))

/-- The machine after an instruction. -/
def execute [ByteSource σ] (m : Machine σ) : Instruction → Except Fault (Machine σ)
  | .clearScreen => .ok { m with display := .blank _ _, drawn := true }
  | .ret => do
    let (pc, stack) ← m.stack.pop
    return { m with pc, stack }
  | .jump target => .ok { m with pc := target.val }
  | .call target => do
    let stack ← m.stack.push m.pc
    return { m with pc := target.val, stack }
  | .skipIfByte x k => .ok (m.skipIf (m.register x == k.val))
  | .skipUnlessByte x k => .ok (m.skipIf (m.register x != k.val))
  | .skipIfSame x y => .ok (m.skipIf (m.register x == m.register y))
  | .skipUnlessSame x y => .ok (m.skipIf (m.register x != m.register y))
  | .loadByte x k => .ok (m.setRegister x k.val)
  | .addByte x k => .ok (m.setRegister x ((m.register x + k.val) % 256))
  | .copy x y => .ok (m.setRegister x (m.register y))
  | .or x y => .ok (m.setRegister x (m.register x ||| m.register y))
  | .and x y => .ok (m.setRegister x (m.register x &&& m.register y))
  | .xor x y => .ok (m.setRegister x (m.register x ^^^ m.register y))
  | .add x y =>
    let total := m.register x + m.register y
    .ok (m.setWithFlag x (total % 256) (255 < total))
  | .sub x y =>
    let a := m.register x
    let b := m.register y
    .ok (m.setWithFlag x (difference a b) (b ≤ a))
  | .subFrom x y =>
    let a := m.register x
    let b := m.register y
    .ok (m.setWithFlag x (difference b a) (a ≤ b))
  | .shiftRight x _ =>
    let a := m.register x
    .ok (m.setWithFlag x (a / 2) (a % 2 = 1))
  | .shiftLeft x _ =>
    let a := m.register x
    .ok (m.setWithFlag x (a * 2 % 256) (a / 128 % 2 = 1))
  | .loadIndex target => .ok { m with index := target.val }
  | .jumpOffset target => .ok { m with pc := target.val + m.register baseRegister }
  | .random x mask =>
    let (value, source) := ByteSource.draw m.source
    .ok ({ m with source }.setRegister x ((value % 256).toNat &&& mask.val))
  | .draw x y rows => m.drawSprite x y rows
  | .skipIfDown x => .ok (m.skipIf (m.keypad.isDown (lastDigit (m.register x))))
  | .skipIfUp x => .ok (m.skipIf !m.keypad.isDown (lastDigit (m.register x)))
  | .readDelay x => .ok (m.setRegister x m.delay)
  | .awaitKey x =>
    match m.keypad.first with
    -- the instruction is met again until a key is down
    | none => .ok { m with pc := (m.pc - 2) % 65536 }
    | some key => .ok (m.setRegister x key.val)
  | .setDelay x => .ok { m with delay := m.register x }
  | .setSound x => .ok { m with sound := m.register x }
  | .addIndex x => .ok { m with index := (m.index + m.register x) % 65536 }
  | .loadGlyph x => .ok { m with index := fontStart + m.register x * glyphSize }
  | .storeDecimal x =>
    .ok { m with memory := m.memory.writeAll m.index (decimalDigits (m.register x)) }
  | .storeRegisters x =>
    .ok { m with memory := m.memory.writeAll m.index (m.registers.toList.take (x.val + 1)) }
  | .loadRegisters x =>
    .ok { m with
      registers := Vector.ofFn fun k =>
        if k ≤ x then m.memory.read (m.index + k.val) else m.register k }

end ChipEight.Machine
