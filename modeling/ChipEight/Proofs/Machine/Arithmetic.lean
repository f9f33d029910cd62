import ChipEight.Proofs.Machine.WellFormed
import Mathlib.Data.Nat.Basic
import Mathlib.Order.Basic

/-!
# Arithmetic and flags

An arithmetic instruction reads both of its registers before it writes any, and it writes the flag
last. So its result and its flag are told by the old registers, whichever of the registers coincide,
and only a result in `VF` itself is lost. Result and flag together are the exact result: a sum has
the flag as its ninth bit, a difference is a turn of 256 too large while the flag is off, and a
shift moves one bit into the flag.

## Main definitions

* `Machine.ComputesFlag` — a word computes a register together with a flag
* `Machine.Computes` — a word computes a register and no flag

## Main results

* `Machine.register_setWithFlag` — the registers after a result and a flag
* `Machine.difference_eq` — a difference of eight bits and its flag
* `Machine.computes_arithmetic` — what the arithmetic instructions compute
-/

namespace ChipEight.Machine

variable {σ : Type}

/-- The register of the result is set before the flag, so the flag stays if they are the same. -/
theorem register_setWithFlag (m : Machine σ) (x z : Fin 16) (value : Nat) (condition : Bool) :
    (m.setWithFlag x value condition).register z =
      if flagRegister = z then flag condition else if x = z then value else m.register z := by
  rw [setWithFlag, register_setRegister, register_setRegister]

theorem flag_decide (p : Prop) [Decidable p] : flag (decide p) = if p then 1 else 0 := by
  simp only [flag, decide_eq_true_eq]

/-- A difference of eight bits is a turn too large exactly when something has been borrowed. -/
theorem difference_eq {a b : Nat} (first : a ≤ 255) (second : b ≤ 255) :
    (difference a b : Int) = a - b + 256 * (1 - flag (b ≤ a)) := by
  rw [flag_decide]
  unfold difference
  split <;> omega

variable [ByteSource σ]

/-- The instruction of a word sets `Vx` and then the flag in `VF`, and it changes nothing else. If
`Vx` is another register than `VF`, it meets an equation with the flag. -/
def ComputesFlag (m : Machine σ) (word : Nat) (x : Fin 16) (carry : Nat)
    (equation : (result carry : Int) → Prop) : Prop :=
  ∃ instruction registers, decode word = some instruction ∧
    m.execute instruction = .ok { m with registers } ∧
    registers.get flagRegister = carry ∧
    (x ≠ flagRegister → equation (registers.get x) carry) ∧
    (∀ z, z ≠ x → z ≠ flagRegister → registers.get z = m.register z) ∧
    ∀ z, registers.get z ≤ 255

/-- The instruction of a word sets `Vx`, and it changes nothing else. -/
def Computes (m : Machine σ) (word : Nat) (x : Fin 16) (result : Nat) : Prop :=
  ∃ instruction registers, decode word = some instruction ∧
    m.execute instruction = .ok { m with registers } ∧
    registers.get x = result ∧
    (∀ z, z ≠ x → registers.get z = m.register z) ∧
    ∀ z, registers.get z ≤ 255

variable {m : Machine σ} {x : Fin 16} {value carry : Nat} {condition : Bool}

/-- An instruction that sets a result and a flag computes both, if they meet the equation. -/
theorem computesFlag_of_execute (instruction : Instruction) {equation : Int → Int → Prop}
    (bytes : ∀ z, m.register z ≤ 255)
    (done : m.execute instruction = .ok (m.setWithFlag x value condition)) (byte : value ≤ 255)
    (same : flag condition = carry) (meets : equation value carry) :
    m.ComputesFlag instruction.encode x carry equation := by
  have after (z : Fin 16) := m.register_setWithFlag x z value condition
  refine ⟨instruction, (m.setWithFlag x value condition).registers, decode_encode instruction, done,
    ?_, ?_, ?_, ?_⟩
  · rw [← same]
    exact (after flagRegister).trans (if_pos rfl)
  · -- the flag has overwritten the result only if both are in the same register
    intro other
    have result : (m.setWithFlag x value condition).register x = value := by
      rw [after, if_neg other.symm, if_pos rfl]
    rw [← result] at meets
    exact meets
  · intro z notResult notFlag
    exact (after z).trans (by rw [if_neg notFlag.symm, if_neg notResult.symm])
  · intro z
    refine (after z).trans_le ?_
    split
    · exact flag_le condition
    · split
      · exact byte
      · exact bytes z

theorem computes_of_execute (instruction : Instruction) (bytes : ∀ z, m.register z ≤ 255)
    (done : m.execute instruction = .ok (m.setRegister x value)) (byte : value ≤ 255) :
    m.Computes instruction.encode x value := by
  refine ⟨instruction, (m.setRegister x value).registers, decode_encode instruction, done, ?_,
    ?_, ?_⟩
  · exact (m.register_setRegister x x value).trans (if_pos rfl)
  · intro z other
    exact (m.register_setRegister x z value).trans (if_neg other.symm)
  · intro z
    refine (m.register_setRegister x z value).trans_le ?_
    split
    · exact byte
    · exact bytes z

/-- **Arithmetic.** With `a` in `Vx` and `b` in `Vy`, a sum or a shift and its flag are together the
exact result, and a difference is the exact one but for a turn of 256 if the flag is off. Adding a
number, copying and the operations on bits set no flag. All this holds whichever of `Vx`, `Vy` and
`VF` are the same register; if `Vx` is `VF`, it ends up with the flag. -/
theorem computes_arithmetic (bytes : ∀ z, m.register z ≤ 255) (x y : Fin 16) (k : Fin 256) :
    let a := m.register x
    let b := m.register y
    m.ComputesFlag (0x8004 + x * 256 + y * 16) x (if a + b > 255 then 1 else 0)
        (fun vx vf => vx + 256 * vf = a + b) ∧
      m.ComputesFlag (0x8005 + x * 256 + y * 16) x (if a ≥ b then 1 else 0)
        (fun vx vf => vx = a - b + 256 * (1 - vf)) ∧
      m.ComputesFlag (0x8007 + x * 256 + y * 16) x (if b ≥ a then 1 else 0)
        (fun vx vf => vx = b - a + 256 * (1 - vf)) ∧
      m.ComputesFlag (0x8006 + x * 256 + y * 16) x (a % 2) (fun vx vf => 2 * vx + vf = a) ∧
      m.ComputesFlag (0x800E + x * 256 + y * 16) x (if a ≥ 128 then 1 else 0)
        (fun vx vf => 256 * vf + vx = 2 * a) ∧
      m.Computes (0x7000 + x * 256 + k) x ((a + k) % 256) ∧
      m.Computes (0x8000 + x * 256 + y * 16) x b ∧
      m.Computes (0x8001 + x * 256 + y * 16) x (a ||| b) ∧
      m.Computes (0x8002 + x * 256 + y * 16) x (a &&& b) ∧
      m.Computes (0x8003 + x * 256 + y * 16) x (a ^^^ b) := by
  intro a b
  have first : a ≤ 255 := bytes x
  have second : b ≤ 255 := bytes y
  refine ⟨?_, ?_, ?_, ?_, ?_, ?_, ?_, ?_, ?_, ?_⟩
  · refine computesFlag_of_execute (.add x y) bytes rfl (by omega) (flag_decide _) ?_
    split <;> omega
  · refine computesFlag_of_execute (.sub x y) bytes rfl (difference_le a b)
      (flag_decide _) ?_
    rw [difference_eq first second, flag_decide]
  · refine computesFlag_of_execute (.subFrom x y) bytes rfl (difference_le b a)
      (flag_decide _) ?_
    rw [difference_eq second first, flag_decide]
  · refine computesFlag_of_execute (.shiftRight x y) bytes rfl
      (show a / 2 ≤ 255 by omega) ?_ (by omega)
    rw [flag_decide]
    split <;> omega
  · refine computesFlag_of_execute (.shiftLeft x y) bytes rfl
      (show a * 2 % 256 ≤ 255 by omega) ?_ ?_
    · rw [flag_decide]
      exact if_congr (by omega) rfl rfl
    · split <;> omega
  · exact computes_of_execute (.addByte x k) bytes rfl (by omega)
  · exact computes_of_execute (.copy x y) bytes rfl second
  · exact computes_of_execute (.or x y) bytes rfl (or_le first second)
  · exact computes_of_execute (.and x y) bytes rfl (Nat.and_le_left.trans first)
  · exact computes_of_execute (.xor x y) bytes rfl (xor_le first second)

/-- A machine with the number 200 in every register. -/
def brimming : Machine Tape :=
  { fresh (Tape.ofList []) with registers := Vector.replicate 16 200 }

/-- `8FF4`, where both operands and the result are in the register of the flag, `8A05` and
`73FF`. -/
theorem computes_arithmetic_brimming :
    (∀ z, brimming.register z ≤ 255) ∧
      brimming.ComputesFlag 0x8FF4 15 1 (fun vx vf => vx + 256 * vf = 200 + 200) ∧
      brimming.ComputesFlag 0x8A05 10 1 (fun vx vf => vx = 200 - 200 + 256 * (1 - vf)) ∧
      brimming.Computes 0x73FF 3 199 := by
  have bytes : ∀ z, brimming.register z ≤ 255 := by
    intro z
    simp [brimming, register_eq_getElem]
  obtain ⟨sum, -⟩ := computes_arithmetic bytes 15 15 0
  obtain ⟨-, difference, -⟩ := computes_arithmetic bytes 10 0 0
  obtain ⟨-, -, -, -, -, small, -⟩ := computes_arithmetic bytes 3 0 0xFF
  exact ⟨bytes, sum, difference, small⟩

end ChipEight.Machine
