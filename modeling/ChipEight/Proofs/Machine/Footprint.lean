import ChipEight.Proofs.Machine.Cycle

/-!
# What an instruction touches

A machine consists of parts, and each instruction has a footprint: the parts that it may write. All
other parts stay as they are. No footprint has the keypad or the size of the program in it.

## Main definitions

* `Part` — a part of a machine
* `Machine.Agrees` — two machines agree in a part
* `Instruction.footprint` — the parts that an instruction may write

## Main results

* `Machine.execute_agrees` — an instruction leaves all but its footprint alone
* `Machine.cycle_agrees` — so does a cycle, except for the program counter and the draw flag
-/

namespace ChipEight

/-- A part of a machine. -/
inductive Part where
  | cells
  | romSize
  | register (x : Fin 16)
  | pc
  | index
  | delay
  | sound
  | stack
  | display
  | keypad
  | drawn
  | source
  deriving DecidableEq

/-- The parts of a machine that an instruction may write. -/
def Instruction.footprint : Instruction → List Part
  | clearScreen => [.display, .drawn]
  | ret | call _ => [.pc, .stack]
  | jump _ | jumpOffset _ | skipIfByte _ _ | skipUnlessByte _ _ | skipIfSame _ _
  | skipUnlessSame _ _ | skipIfDown _ | skipIfUp _ => [.pc]
  | loadByte x _ | addByte x _ | copy x _ | or x _ | and x _ | xor x _ | readDelay x =>
    [.register x]
  | add x _ | sub x _ | subFrom x _ | shiftRight x _ | shiftLeft x _ =>
    [.register x, .register Machine.flagRegister]
  | loadIndex _ | addIndex _ | loadGlyph _ => [.index]
  | random x _ => [.register x, .source]
  | draw _ _ _ => [.display, .drawn, .register Machine.flagRegister]
  | awaitKey x => [.register x, .pc]
  | setDelay _ => [.delay]
  | setSound _ => [.sound]
  | storeDecimal _ | storeRegisters _ => [.cells]
  | loadRegisters x => ((List.finRange 16).filter (· ≤ x)).map .register

namespace Machine

variable {σ : Type}

/-- Two machines agree in a part. -/
def Agrees (m next : Machine σ) : Part → Prop
  | .cells => next.memory.cells = m.memory.cells
  | .romSize => next.memory.romSize = m.memory.romSize
  | .register x => next.register x = m.register x
  | .pc => next.pc = m.pc
  | .index => next.index = m.index
  | .delay => next.delay = m.delay
  | .sound => next.sound = m.sound
  | .stack => next.stack = m.stack
  | .display => next.display = m.display
  | .keypad => next.keypad = m.keypad
  | .drawn => next.drawn = m.drawn
  | .source => next.source = m.source

theorem Agrees.refl (m : Machine σ) (part : Part) : m.Agrees m part := by
  cases part <;> rfl

theorem Agrees.trans {m middle next : Machine σ} {part : Part} (first : m.Agrees middle part)
    (second : middle.Agrees next part) : m.Agrees next part := by
  cases part <;> exact Eq.trans second first

/-! ## Registers -/

theorem register_eq_getElem (m : Machine σ) (x : Fin 16) :
    m.register x = getElem m.registers x.val (number_lt x) := rfl

/-- A register after one of them is set. -/
theorem register_setRegister (m : Machine σ) (x z : Fin 16) (value : Nat) :
    (m.setRegister x value).register z = if x = z then value else m.register z := by
  simp only [register_eq_getElem, setRegister, Vector.getElem_set, Fin.val_inj]

theorem Agrees.setRegister (m : Machine σ) {x : Fin 16} {part : Part} (value : Nat)
    (other : part ≠ .register x) : m.Agrees (m.setRegister x value) part := by
  cases part with
  | register z =>
    have differ : x ≠ z := fun same => other (same ▸ rfl)
    simp only [Agrees, register_setRegister, if_neg differ]
  | _ => rfl

theorem Agrees.skipIf (m : Machine σ) {part : Part} (condition : Bool) (other : part ≠ .pc) :
    m.Agrees (m.skipIf condition) part := by
  unfold Machine.skipIf
  split
  · cases part <;> first | rfl | exact absurd rfl other
  · cases part <;> rfl

/-! ## Instructions -/

variable [ByteSource σ]

/-- An instruction leaves all parts of the machine alone that are not in its footprint. -/
theorem execute_agrees {m next : Machine σ} {instruction : Instruction}
    (done : m.execute instruction = .ok next) {part : Part}
    (untouched : part ∉ instruction.footprint) : m.Agrees next part := by
  cases instruction
  case skipIfByte | skipUnlessByte | skipIfSame | skipUnlessSame | skipIfDown | skipIfUp =>
    obtain rfl := Except.ok.inj done
    exact .skipIf m _ (by simpa [Instruction.footprint] using untouched)
  case loadByte | addByte | copy | or | and | xor | readDelay =>
    obtain rfl := Except.ok.inj done
    exact .setRegister m _ (by simpa [Instruction.footprint] using untouched)
  -- the flag is written last, also when it is the register of the result
  case add x y | sub x y | subFrom x y | shiftRight x y | shiftLeft x y =>
    obtain rfl := Except.ok.inj done
    have other : part ≠ .register x ∧ part ≠ .register flagRegister := by
      simpa [Instruction.footprint] using untouched
    exact (Agrees.setRegister m _ other.1).trans (.setRegister _ _ other.2)
  case random x mask =>
    obtain rfl := Except.ok.inj done
    have other : part ≠ .register x ∧ part ≠ .source := by
      simpa [Instruction.footprint] using untouched
    refine Agrees.trans ?_ (.setRegister _ _ other.1)
    cases part <;> first | rfl | exact absurd rfl other.2
  case draw x y rows =>
    obtain ⟨display, value, drawn⟩ := exists_drawSprite m x y rows
    obtain rfl := Except.ok.inj (drawn.symm.trans done)
    have other : part ≠ .display ∧ part ≠ .drawn ∧ part ≠ .register flagRegister := by
      simpa [Instruction.footprint] using untouched
    refine Agrees.trans ?_ (.setRegister _ _ other.2.2)
    cases part <;> first | rfl | exact absurd rfl other.1 | exact absurd rfl other.2.1
  case ret =>
    obtain ⟨⟨pc, stack⟩, -, rest⟩ := bind_eq_ok_iff.mp done
    obtain rfl := Except.ok.inj rest
    cases part <;> first | rfl | simp [Instruction.footprint] at untouched
  case call target =>
    obtain ⟨stack, -, rest⟩ := bind_eq_ok_iff.mp done
    obtain rfl := Except.ok.inj rest
    cases part <;> first | rfl | simp [Instruction.footprint] at untouched
  case awaitKey x =>
    have other : part ≠ .register x ∧ part ≠ .pc := by
      simpa [Instruction.footprint] using untouched
    simp only [execute] at done
    split at done
    · obtain rfl := Except.ok.inj done
      cases part <;> first | rfl | exact absurd rfl other.2
    · obtain rfl := Except.ok.inj done
      exact .setRegister m _ other.1
  case storeDecimal | storeRegisters =>
    obtain rfl := Except.ok.inj done
    cases part <;> first
      | rfl
      | exact Memory.writeAll_romSize ..
      | simp [Instruction.footprint] at untouched
  case loadRegisters x =>
    obtain rfl := Except.ok.inj done
    cases part with
    | register z =>
      have above : ¬ z ≤ x := by simpa [Instruction.footprint] using untouched
      simp [Agrees, register_eq_getElem, above]
    | _ => rfl
  all_goals
    obtain rfl := Except.ok.inj done
    cases part <;> first | rfl | simp [Instruction.footprint] at untouched

/-! ## Cycles -/

omit [ByteSource σ] in
theorem fetched_agrees (m : Machine σ) {part : Part} (pc : part ≠ .pc) (drawn : part ≠ .drawn) :
    m.Agrees m.fetched part := by
  cases part <;> first | rfl | exact absurd rfl pc | exact absurd rfl drawn

/-- A cycle leaves all parts of the machine alone but the program counter, the draw flag and what
the instruction that it executes may write. -/
theorem cycle_agrees (m : Machine σ) {part : Part} (pc : part ≠ .pc) (drawn : part ≠ .drawn)
    (untouched : ∀ instruction ∈ m.executes, part ∉ instruction.footprint) :
    m.Agrees m.cycle.2 part := by
  cases run : m.executes with
  | none =>
    obtain ⟨_, stays⟩ := cycle_of_executes_none run
    rw [stays]
    cases part <;> first | rfl | exact absurd rfl pc | exact absurd rfl drawn
  | some instruction =>
    have kept := execute_agrees (execute_of_executes run) (untouched instruction run)
    exact (m.fetched_agrees pc drawn).trans kept

end Machine

end ChipEight
