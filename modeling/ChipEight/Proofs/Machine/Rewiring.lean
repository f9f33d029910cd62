import ChipEight.Proofs.Machine.Cycle

/-!
# Machines with other devices

The keypad, the timers and the source of random bytes are the devices of a machine: what happens to
them comes from outside, and few instructions look at them. All other instructions do the same
whatever is done to the devices, and whether it is done before them or behind them.

## Main definitions

* `Rewiring` — what becomes of the devices of a machine
* `Machine.rewired` — a machine after a rewiring
* `Instruction.Ignores` — an instruction sees nothing of a rewiring

## Main results

* `Machine.execute_rewired` — an instruction comes out the same way if it ignores a rewiring
* `Machine.cycle_rewired` — so does a cycle
-/

namespace ChipEight

/-- What becomes of the keypad, of both timers and of the source of a machine. -/
structure Rewiring (σ τ : Type) where
  keypad : Keypad → Keypad
  timer : Nat → Nat
  source : σ → τ

/-- An instruction ignores a rewiring that leaves alone what the instruction looks at and what it
sets, and that makes no difference to the numbers that it draws. -/
def Instruction.Ignores {σ τ : Type} [ByteSource σ] [ByteSource τ] (wiring : Rewiring σ τ) :
    Instruction → Prop
  | skipIfDown _ | skipIfUp _ | awaitKey _ => ∀ keypad, wiring.keypad keypad = keypad
  | readDelay _ | setDelay _ | setSound _ => ∀ timer, wiring.timer timer = timer
  | random _ _ => ∀ source, ByteSource.draw (wiring.source source) =
      ((ByteSource.draw source).1, wiring.source (ByteSource.draw source).2)
  | _ => True

namespace Machine

variable {σ τ : Type} {wiring : Rewiring σ τ}

/-- A machine after a rewiring. -/
def rewired (m : Machine σ) (wiring : Rewiring σ τ) : Machine τ :=
  { m with
    keypad := wiring.keypad m.keypad
    delay := wiring.timer m.delay
    sound := wiring.timer m.sound
    source := wiring.source m.source }

theorem skipIf_rewired (m : Machine σ) (wiring : Rewiring σ τ) (condition : Bool) :
    (m.rewired wiring).skipIf condition = (m.skipIf condition).rewired wiring := by
  cases condition <;> rfl

variable [ByteSource σ] [ByteSource τ] {instruction : Instruction}

/-- An instruction that ignores a rewiring does the same before it and behind it, also when it is
refused. -/
theorem execute_rewired (ignores : instruction.Ignores wiring) (m : Machine σ) :
    (m.rewired wiring).execute instruction = (m.execute instruction).map (·.rewired wiring) := by
  cases instruction
  case ret =>
    change (m.stack.pop >>= _) = Except.map _ (m.stack.pop >>= _)
    cases m.stack.pop <;> rfl
  case call target =>
    change (m.stack.push m.pc >>= _) = Except.map _ (m.stack.push m.pc >>= _)
    cases m.stack.push m.pc <;> rfl
  case draw x y rows =>
    simp only [execute, drawSprite_eq]
    rfl
  case skipIfByte | skipUnlessByte | skipIfSame | skipUnlessSame =>
    exact congrArg Except.ok (skipIf_rewired m wiring _)
  case skipIfDown x | skipIfUp x =>
    have keypad : (m.rewired wiring).keypad = m.keypad := ignores m.keypad
    simp only [execute, keypad]
    exact congrArg Except.ok (skipIf_rewired m wiring _)
  case awaitKey x =>
    have first : (m.rewired wiring).keypad.first = m.keypad.first :=
      congrArg Keypad.first (ignores m.keypad)
    simp only [execute, first]
    cases m.keypad.first <;> rfl
  -- these look at a timer, or set one to what the rewiring does not change
  case readDelay x =>
    have delay : (m.rewired wiring).delay = m.delay := ignores m.delay
    simp only [execute, delay]
    rfl
  case setDelay x =>
    have kept : wiring.timer (m.register x) = m.register x := ignores (m.register x)
    change Except.ok { m.rewired wiring with delay := m.register x } =
      Except.ok { m.rewired wiring with delay := wiring.timer (m.register x) }
    rw [kept]
  case setSound x =>
    have kept : wiring.timer (m.register x) = m.register x := ignores (m.register x)
    change Except.ok { m.rewired wiring with sound := m.register x } =
      Except.ok { m.rewired wiring with sound := wiring.timer (m.register x) }
    rw [kept]
  case random x mask =>
    have drawn : ByteSource.draw (m.rewired wiring).source =
        ((ByteSource.draw m.source).1, wiring.source (ByteSource.draw m.source).2) :=
          ignores m.source
    simp only [execute, drawn]
    rfl
  all_goals rfl

/-- A cycle has the same result before a rewiring and behind it if its instruction ignores the
rewiring. -/
theorem cycle_rewired {m : Machine σ}
    (ignores : ∀ instruction, decode m.fetch = some instruction → instruction.Ignores wiring) :
    (m.rewired wiring).cycle = (m.cycle.1, m.cycle.2.rewired wiring) := by
  rcases m.cycle_cases with ⟨unknown, stays⟩ | ⟨instruction, next, decoded, done, moves⟩ |
    ⟨instruction, fault, decoded, why, ends⟩
  · have sameWord : decode (m.rewired wiring).fetch = none := unknown
    rw [stays, cycle_of_decode_none sameWord]
    rfl
  · have sameWord : decode (m.rewired wiring).fetch = some instruction := decoded
    have both := execute_rewired (ignores instruction decoded) m.fetched
    rw [done] at both
    rw [moves, cycle_of_execute_ok sameWord both]
    rfl
  · have sameWord : decode (m.rewired wiring).fetch = some instruction := decoded
    have both := execute_rewired (ignores instruction decoded) m.fetched
    rw [why] at both
    rw [ends, cycle_of_execute_error sameWord both]
    rfl

end Machine

end ChipEight
