import ChipEight.Proofs.Machine.Drive
import ChipEight.Proofs.Machine.Flow

/-!
# Waiting for a key

The word `Fx0A` waits for a key without keeping any state about it: the cycle goes back to its word,
so that the next cycle meets the word again. As long as all keys are up the machine stands still
therefore, whatever cycles and steps of the timers drive it. Only the timers run, and the first
cycle has cleared the draw flag. When keys go down, the wait ends with the lowest of them.

## Main results

* `Machine.driven_of_idles` — what cycles and steps of the timers do to a machine that awaits a key
* `Machine.exists_cycle_of_pressed` — how the wait ends
* `Machine.idles_until_pressed` — the whole course of a wait
-/

namespace ChipEight.Machine

variable {σ : Type} {m : Machine σ}

theorem decode_of_idles (idle : m.Idles m.fetch) :
    decode m.fetch = some (.awaitKey (Opcode.x m.fetch)) := by
  have inTable : (0xF00A, fun opcode => .awaitKey (Opcode.x opcode)) ∈ Instruction.table := by
    simp [Instruction.table]
  exact decode_of_matches inTable idle.1

/-- Putting down keys one after the other changes nothing but the keypad. -/
theorem foldl_press (m : Machine σ) (keys : List (Fin 16)) :
    keys.foldl press m = { m with keypad := keys.foldl Keypad.press m.keypad } := by
  induction keys generalizing m with
  | nil => rfl
  | cons key rest ih => exact ih (m.press key)

variable [ByteSource σ]

/-- Cycles and steps of the timers leave a machine that awaits a key as it is, but for the timers
and the draw flag. -/
theorem driven_of_idles (wf : m.WellFormed) (idle : m.Idles m.fetch) {steps : List Drive}
    (only : ∀ step ∈ steps, step = .cycle ∨ step = .tick) :
    m.driven steps =
      { m with
        delay := m.delay - steps.countP Drive.isTick
        sound := m.sound - steps.countP Drive.isTick
        drawn := m.drawn && !steps.any Drive.isCycle } := by
  induction steps generalizing m with
  | nil => simp
  | cons step rest ih =>
    rw [List.forall_mem_cons] at only
    obtain ⟨rfl | rfl, later⟩ := only
    · have stays :=
        cycle_of_untouched wf (decode_of_idles idle) (Keypad.first_eq_none_iff.mpr idle.2)
      have waiting : { m with drawn := false }.WellFormed := { wf with }
      rw [driven_cons, drive_cycle, stays, ih waiting idle later]
      simp [Drive.isCycle, Drive.isTick]
    · have counted : (Drive.tick :: rest).countP Drive.isTick = rest.countP Drive.isTick + 1 :=
        List.countP_cons_of_pos rfl
      rw [driven_cons, show m.drive .tick = m.tick from rfl, ih wf.tick idle later, counted]
      simp [Drive.isCycle, tick, Nat.sub_sub, Nat.add_comm]

/-- When keys go down that were all up, the next cycle of a wait finds the lowest of them. -/
theorem exists_cycle_of_pressed (idle : m.Idles m.fetch) {keys : List (Fin 16)}
    (nonempty : keys ≠ []) {ready : Machine σ} (pressed : ready = keys.foldl press m) :
    ∃ least ∈ keys, (∀ key ∈ keys, least ≤ key) ∧
      ready.cycle =
        (.ok (.executed m.pc m.fetch),
          { ready with pc := (m.pc + 2) % 0x10000, drawn := false }.setRegister
            (Opcode.x m.fetch) least) := by
  rw [foldl_press] at pressed
  have down (key : Fin 16) : ready.keypad.isDown key = true ↔ key ∈ keys := by
    rw [pressed, Keypad.isDown_foldl_press, idle.2 key]
    simp
  cases first : ready.keypad.first with
  | none =>
    obtain ⟨key, member⟩ := List.exists_mem_of_ne_nil keys nonempty
    have up := Keypad.first_eq_none_iff.mp first key
    rw [(down key).mpr member] at up
    cases up
  | some least =>
    obtain ⟨found, lower⟩ := Keypad.first_eq_some_iff.mp first
    refine ⟨least, (down least).mp found, fun key member => ?_, ?_⟩
    · by_contra below
      have up := lower key (Fin.not_le.mp below)
      rw [(down key).mpr member] at up
      cases up
    · have word : ready.fetch = m.fetch := by
        rw [pressed]
        rfl
      have decoded : decode ready.fetch = some (.awaitKey (Opcode.x m.fetch)) := by
        rw [word]
        exact decode_of_idles idle
      rw [cycle_of_touched decoded first, pressed]
      rfl

/-- **Waiting for a key.** Take a machine at the word `Fx0A` while all keys are up, and any cycles
and steps of the timers in any order. Every one of the cycles executes the same word at the same
address. If there is a cycle among them, they leave everything as it was, except that the timers
have counted the steps, down to zero at least, and that the draw flag is off. If any keys go down
then, the next cycle executes the word once more and goes on behind it, with the lowest of these
keys in `Vx` and nothing else changed. All of this also holds where the program counter goes around
at the end of the addresses. -/
theorem idles_until_pressed (wf : m.WellFormed) (idle : m.Idles m.fetch) {steps : List Drive}
    (only : ∀ step ∈ steps, step = .cycle ∨ step = .tick) :
    (∀ before rest, steps = before ++ .cycle :: rest →
        (m.driven before).answer .cycle = .ok (.result (.executed m.pc m.fetch))) ∧
      (.cycle ∈ steps →
        m.driven steps =
          { m with
            delay := m.delay - steps.countP Drive.isTick
            sound := m.sound - steps.countP Drive.isTick
            drawn := false }) ∧
      ∀ (keys : List (Fin 16)) (ready : Machine σ), keys ≠ [] →
        ready = keys.foldl press (m.driven steps) →
        ∃ least ∈ keys, (∀ key ∈ keys, least ≤ key) ∧
          ready.cycle =
            (.ok (.executed m.pc m.fetch),
              { ready with pc := (m.pc + 2) % 0x10000, drawn := false }.setRegister
                (Opcode.x m.fetch) least) := by
  have after := driven_of_idles wf idle only
  refine ⟨fun before rest split => ?_, fun member => ?_, fun keys ready nonempty pressed => ?_⟩
  · have earlier : ∀ step ∈ before, step = .cycle ∨ step = .tick := by
      intro step member
      exact only step (split ▸ List.mem_append_left _ member)
    have wfBefore := wf.driven before
    rw [driven_of_idles wf idle earlier] at wfBefore ⊢
    rw [answer_cycle, cycle_of_untouched wfBefore (decode_of_idles idle)
      (Keypad.first_eq_none_iff.mpr idle.2)]
    rfl
  · have cycled : steps.any Drive.isCycle = true := List.any_eq_true.mpr ⟨_, member, rfl⟩
    rw [after, cycled, Bool.not_true, Bool.and_false]
  · have pc : (m.driven steps).pc = m.pc := by rw [after]
    have word : (m.driven steps).fetch = m.fetch := by
      rw [after]
      rfl
    have later : (m.driven steps).Idles (m.driven steps).fetch := by
      rw [after]
      exact idle
    have wakes := exists_cycle_of_pressed later nonempty pressed
    rwa [pc, word] at wakes

/-- A machine at the word `F30A` across the end of memory and of the program counter, with its
timers on. -/
def drowsy : Machine Tape :=
  { fresh (Tape.ofList []) with
    memory := (Memory.fresh.write 0xFFFF 0xF3).write 0x0000 0x0A
    pc := 0xFFFF
    delay := 2
    sound := 7
    drawn := true }

theorem drowsy_fetch : drowsy.fetch = 0xF30A := by
  have word : drowsy.fetch = 0xF3 * 256 + 0x0A := fetch_written (by decide) (by decide) rfl
  exact word

theorem drowsy_wellFormed : drowsy.WellFormed where
  memory := (Memory.WellFormed.fresh.write 0xFFFF 0xF3).write 0x0000 0x0A
  register_le x := by simp [drowsy, fresh, register_eq_getElem]
  delay_le := by simp [drowsy]
  sound_le := by simp [drowsy]
  pc_range := by simp [drowsy]
  index_le := Nat.zero_le _
  address_range := by simp [drowsy, fresh]

theorem drowsy_idles : drowsy.Idles drowsy.fetch := by
  refine ⟨?_, fun key => Keypad.isDown_released key⟩
  rw [drowsy_fetch]
  simp [Opcode.word, Matches, wordDigits, Admits, patternDigit]

/-- The machine waits for three steps of the timers. Then the keys `B` and `4` go down. -/
theorem idles_until_pressed_drowsy :
    drowsy.WellFormed ∧ drowsy.Idles drowsy.fetch ∧
      drowsy.driven [.tick, .cycle, .tick, .cycle, .tick] =
        { drowsy with delay := 0, sound := 4, drawn := false } ∧
      (((drowsy.driven [.tick, .cycle, .tick, .cycle, .tick]).press 11).press 4).cycle.2.register 3
        = 4 ∧
      (((drowsy.driven [.tick, .cycle, .tick, .cycle, .tick]).press 11).press 4).cycle.2.pc
        = 1 := by
  have only :
      ∀ step ∈ [Drive.tick, .cycle, .tick, .cycle, .tick], step = .cycle ∨ step = .tick := by simp
  obtain ⟨-, still, wakes⟩ := idles_until_pressed drowsy_wellFormed drowsy_idles only
  obtain ⟨least, member, lowest, cycled⟩ := wakes [11, 4]
    (((drowsy.driven [.tick, .cycle, .tick, .cycle, .tick]).press 11).press 4) (by simp) rfl
  have four : least = 4 := by
    have le := lowest 4 (by simp)
    simp only [List.mem_cons, List.not_mem_nil, or_false] at member
    rcases member with rfl | rfl
    · exact absurd le (by decide)
    · rfl
  refine ⟨drowsy_wellFormed, drowsy_idles, still (by simp), ?_, ?_⟩
  · rw [cycled, four, drowsy_fetch, register_setRegister, if_pos (by decide)]
    rfl
  · rw [cycled]
    exact (show (drowsy.pc + 2) % 0x10000 = 1 from rfl)

end ChipEight.Machine
