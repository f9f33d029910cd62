import ChipEight.Command
import ChipEight.Proofs.HostEvent
import ChipEight.Proofs.Machine.WellFormed

/-!
# Whole runs of commands

Whatever is done to a fresh machine from outside, in whatever order and with whatever refusals on
the way, it stays well formed. Only a monitor that puts addresses on the call stack or sets
registers has to keep to their widths itself.

## Main definitions

* `Command.InRange` — the values that a command writes past the machine fit their registers
* `Machine.performAll` — carries out commands one after the other

## Main results

* `Machine.WellFormed.perform` — what one command preserves
* `Machine.fresh_performAll_wellFormed` — what holds after any commands to a fresh machine
-/

namespace ChipEight

/-- The new values fit the registers that they are for. -/
structure RegisterValues.InRange (values : RegisterValues) : Prop where
  pc_range : ∀ pc ∈ values.pc, 0 ≤ pc ∧ pc ≤ 0xFFFF
  index_le : ∀ index ∈ values.index, index ≤ 0xFFFF
  delay_le : ∀ delay ∈ values.delay, delay ≤ 255
  sound_le : ∀ sound ∈ values.sound, sound ≤ 255
  register_le : ∀ registers ∈ values.registers, ∀ x : Fin 16, registers.get x ≤ 255

/-- A command that writes to registers or to the call stack itself gives values that fit. Every
other command is in range: events, keys, addresses and coordinates may be anything. -/
def Command.InRange : Command → Prop
  | .push address => 0 ≤ address ∧ address ≤ 0xFFFF
  | .set values => values.InRange
  | _ => True

namespace Outcome

variable {σ : Type} {m : Machine σ}

theorem wellFormed_ofExcept (wf : m.WellFormed) (result : Except Fault (Answer × Machine σ))
    (accepted : ∀ answer next, result = .ok (answer, next) → next.WellFormed) :
    (ofExcept m result).machine.WellFormed := by
  cases result with
  | error fault => exact wf
  | ok found => exact accepted found.1 found.2 rfl

end Outcome

namespace Machine

variable {σ : Type}

namespace WellFormed

variable {m next : Machine σ}

theorem loadRom (wf : m.WellFormed) {rom : Rom} (loaded : m.loadRom rom = .ok next) :
    next.WellFormed := by
  obtain ⟨memory, fits, rest⟩ := bind_eq_ok_iff.mp loaded
  obtain rfl := Except.ok.inj rest
  exact { wf with memory := wf.memory.loadRom fits }

theorem ticks (wf : m.WellFormed) (n : Nat) : (m.ticks n).WellFormed := by
  induction n generalizing m with
  | zero => exact wf
  | succ n ih => exact ih wf.tick

theorem setValues (wf : m.WellFormed) {values : RegisterValues} (fit : values.InRange) :
    (m.setValues values).WellFormed where
  memory := wf.memory
  register_le x := by
    rw [Machine.setValues, register_eq_getElem]
    cases given : values.registers with
    | none => exact wf.register_le x
    | some registers => exact fit.register_le registers given x
  delay_le := by
    cases given : values.delay with
    | none => simpa [Machine.setValues, given] using wf.delay_le
    | some delay => simpa [Machine.setValues, given] using fit.delay_le delay given
  sound_le := by
    cases given : values.sound with
    | none => simpa [Machine.setValues, given] using wf.sound_le
    | some sound => simpa [Machine.setValues, given] using fit.sound_le sound given
  pc_range := by
    cases given : values.pc with
    | none => simpa [Machine.setValues, given] using wf.pc_range
    | some pc => simpa [Machine.setValues, given] using fit.pc_range pc given
  index_le := by
    cases given : values.index with
    | none => simpa [Machine.setValues, given] using wf.index_le
    | some index => simpa [Machine.setValues, given] using fit.index_le index given
  address_range := wf.address_range

variable [ByteSource σ]

/-- A command in range keeps a machine well formed, also one that is refused. -/
theorem perform (wf : m.WellFormed) {command : Command} (fit : command.InRange) :
    (m.perform command).machine.WellFormed := by
  cases command with
  | loadRom rom =>
    simp only [Machine.perform]
    split
    · next loaded => exact wf.loadRom loaded
    · exact wf
  | cycle =>
    have after := wf.cycle
    simp only [Machine.perform]
    split <;> exact after
  | run n => exact wf.run n
  | frame cycles => exact wf.frame cycles
  | tick n => exact wf.ticks n
  | event event =>
    refine Outcome.wellFormed_ofExcept wf _ fun answer next done => ?_
    simp only [HostEvent.deliver_eq_ok, ok_bind] at done
    cases done
    exact { wf with }
  | press key =>
    refine Outcome.wellFormed_ofExcept wf _ fun answer next done => ?_
    obtain ⟨key, -, rest⟩ := bind_eq_ok_iff.mp done
    cases rest
    exact { wf with }
  | release key =>
    refine Outcome.wellFormed_ofExcept wf _ fun answer next done => ?_
    obtain ⟨key, -, released⟩ := bind_eq_ok_iff.mp done
    obtain ⟨_, released, rest⟩ := bind_eq_ok_iff.mp released
    obtain ⟨keypad, -, renewed⟩ := bind_eq_ok_iff.mp released
    cases renewed
    cases rest
    exact { wf with }
  | key key =>
    refine Outcome.wellFormed_ofExcept wf _ fun answer next done => ?_
    obtain ⟨key, -, rest⟩ := bind_eq_ok_iff.mp done
    cases rest
    exact wf
  | pixel x y =>
    refine Outcome.wellFormed_ofExcept wf _ fun answer next done => ?_
    obtain ⟨lit, -, rest⟩ := bind_eq_ok_iff.mp done
    cases rest
    exact wf
  | xorPixel x y bit =>
    refine Outcome.wellFormed_ofExcept wf _ fun answer next done => ?_
    obtain ⟨⟨hit, display⟩, -, rest⟩ := bind_eq_ok_iff.mp done
    cases rest
    exact { wf with }
  | clear => exact { wf with }
  | poke address value => exact { wf with memory := wf.memory.write address value }
  | push address =>
    refine Outcome.wellFormed_ofExcept wf _ fun answer next done => ?_
    obtain ⟨stack, pushed, rest⟩ := bind_eq_ok_iff.mp done
    cases rest
    have pushing : { m with pc := address }.WellFormed := { wf with pc_range := fit }
    exact { wf with address_range := pushing.pushed_range pushed }
  | pop =>
    refine Outcome.wellFormed_ofExcept wf _ fun answer next done => ?_
    obtain ⟨⟨address, stack⟩, popped, rest⟩ := bind_eq_ok_iff.mp done
    cases rest
    exact { wf with address_range := (wf.popped_range popped).2 }
  | set values => exact wf.setValues fit
  | untouched | first | peek _ | memorySize | stackText | dump | fetch | crashReport _ => exact wf

end WellFormed

variable [ByteSource σ]

/-- Carries out commands one after the other, the refused ones included. -/
def performAll (m : Machine σ) (commands : List Command) : Machine σ :=
  commands.foldl (fun m command => (m.perform command).machine) m

theorem WellFormed.performAll {m : Machine σ} (wf : m.WellFormed) {commands : List Command}
    (fit : ∀ command ∈ commands, command.InRange) : (m.performAll commands).WellFormed := by
  induction commands generalizing m with
  | nil => exact wf
  | cons command rest ih =>
    have first := wf.perform (fit command (List.mem_cons_self ..))
    exact ih first fun later member => fit later (List.mem_cons_of_mem _ member)

/-- **Representation.** After any commands to a fresh machine, refused ones included, every register
is within its width, the stack is no deeper than its sixteen slots, and there are as many cells,
registers, slots, pixels and keys as at the start. -/
theorem fresh_performAll_wellFormed (source : σ) {commands : List Command}
    (fit : ∀ command ∈ commands, command.InRange) :
    ((fresh source).performAll commands).WellFormed ∧
      ((fresh source).performAll commands).memory.cells.toList.length = 4096 ∧
      ((fresh source).performAll commands).registers.toList.length = 16 ∧
      ((fresh source).performAll commands).stack.slots.toList.length = 16 ∧
      ((fresh source).performAll commands).stack.depth ≤ 16 ∧
      ((fresh source).performAll commands).display.pixels.toList.length = 64 * 32 ∧
      ((fresh source).performAll commands).keypad.down.toList.length = 16 := by
  refine ⟨(WellFormed.fresh source).performAll fit, ?_, ?_, ?_, ?_, ?_, ?_⟩
  · exact Vector.length_toList
  · exact Vector.length_toList
  · exact Vector.length_toList
  · exact CallStack.depth_le _
  · exact Vector.length_toList
  · exact Vector.length_toList

/-- A return with an empty stack, a key that does not exist, a value that is no byte, a frame of a
negative number of cycles and an address that is put on the stack. -/
theorem fresh_performAll_wellFormed_restless :
    Command.InRange (.push 0xFFFF) ∧
      ((fresh (Tape.ofList [-1])).performAll
        [.loadRom #[0x00, 0xEE], .cycle, .press (.int 16), .poke (-1) 70000, .frame (-3),
          .push 0xFFFF, .xorPixel (-5) 1000 true, .cycle]).WellFormed :=
  ⟨by simp [Command.InRange],
    (fresh_performAll_wellFormed _ (by simp [Command.InRange])).1⟩

end Machine

end ChipEight
