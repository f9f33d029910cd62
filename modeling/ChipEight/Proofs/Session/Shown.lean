import ChipEight.Proofs.Memory
import ChipEight.Proofs.Session.Stage

/-!
# The window is never out of date

Whatever the machine draws during a frame is shown at the end of the frame, and nothing else changes
the display. So after every frame, unless a call or return was refused in it, the picture that was
shown last is the display of the machine.

## Main definitions

* `Session.UpToDate` — the window and the last picture shown agree with the display

## Main results

* `Session.UpToDate.start`, `Session.UpToDate.after` — at the start, and after a frame
* `Session.upToDate_of_mem_stages` — after every frame of a session
-/

namespace ChipEight.Session

variable {σ : Type} {scale : Nat}

/-- The window shows the display of the machine, and the picture that was shown last is the one in
the window. -/
structure UpToDate (session : Session σ scale) : Prop where
  window : session.window.Shows session.machine.display
  picture : session.flips.head?.map Flip.picture = some session.window.picture

namespace UpToDate

theorem start {machine : Machine σ} (blank : machine.display = .blank _ _) (scale : Nat) :
    (start machine scale).UpToDate where
  window := by
    have shown :=
      Window.blank_shows screenWidth.toNat screenHeight.toNat scale screenWidth screenHeight
    rw [← blank] at shown
    exact shown
  picture := rfl

theorem exists_flip (visible : 0 < scale) {session : Session σ scale}
    (upToDate : session.UpToDate) :
    ∃ flip, session.flips.head? = some flip ∧ flip.picture.Shows session.machine.display := by
  obtain ⟨flip, last, same⟩ := Option.map_eq_some_iff.mp upToDate.picture
  refine ⟨flip, last, ?_⟩
  rw [same]
  exact upToDate.window.picture visible (by decide) (by decide)

/-- A frame that is not refused keeps the window up to date. -/
theorem after [ByteSource σ] {stage : Stage σ scale} (visible : 0 < scale)
    (accepted : ∀ fault, stage.frame.ending ≠ .refused fault) (upToDate : stage.before.UpToDate) :
    stage.after.UpToDate := by
  by_cases draws : stage.draws = true
  · obtain ⟨window, shown, shows⟩ := Stage.exists_after_of_draws visible accepted draws
    rw [shows]
    exact ⟨shown, rfl⟩
  · have still : stage.draws = false := Bool.eq_false_iff.mpr draws
    have kept : stage.frame.machine.display = stage.before.machine.display :=
      Machine.frame_display still
    rw [Stage.after_of_still accepted still]
    refine ⟨?_, upToDate.picture⟩
    have shown := upToDate.window
    rw [← kept] at shown
    exact shown

end UpToDate

variable [ByteSource σ]

theorem UpToDate.of_mem_stages (visible : 0 < scale) {session : Session σ scale}
    (upToDate : session.UpToDate) {cycles : Int} {script : List (List HostEvent)} :
    ∀ stage ∈ session.stages cycles script, stage.before.UpToDate :=
  stages_induction upToDate fun _ goesOn before =>
    before.after visible (Stage.accepted_of_goesOn goesOn)

/-- **The window is never out of date.** For every program that fits and every script of events, the
session that is played goes through frames, of which the last one ends it. After every frame in
which no call or return is refused, every dot of the window and every pixel of the picture that was
shown last agree with the display. The frame has shown a picture if it executed an instruction that
draws, and has shown none if not. -/
theorem upToDate_of_mem_stages (source : σ) {rom : Rom} (fits : rom.size ≤ 0xE00) (clock : Int)
    (visible : 1 ≤ scale) (script : List (List HostEvent)) :
    ∃ machine, (Machine.fresh source).loadRom rom = .ok machine ∧
      (∃ last, ((start machine scale).stages (cyclesPerFrame clock) script).getLast? = some last ∧
        (start machine scale).play (cyclesPerFrame clock) script =
          (last.after, last.exit?.getD .quit)) ∧
      ∀ stage ∈ (start machine scale).stages (cyclesPerFrame clock) script,
        (∀ fault, stage.frame.ending = .refused fault → fault.kind ≠ .stack) →
          stage.after.window.Shows stage.after.machine.display ∧
            ∃ flip, stage.after.flips.head? = some flip ∧
              flip.picture.Shows stage.after.machine.display ∧
              (stage.after.flips = flip :: stage.before.flips ↔ stage.draws) ∧
              (stage.after.flips = stage.before.flips ↔ ¬ stage.draws) := by
  obtain ⟨memory, loaded⟩ : ∃ memory, Memory.fresh.loadRom rom = .ok memory :=
    Memory.exists_loadRom rfl fits
  have machineLoaded :
      (Machine.fresh source).loadRom rom = .ok { Machine.fresh source with memory } :=
    bind_eq_ok_iff.mpr ⟨memory, loaded, rfl⟩
  refine ⟨_, machineLoaded, exists_play_eq _ _ script, fun stage member orderly => ?_⟩
  have accepted : ∀ fault, stage.frame.ending ≠ .refused fault := fun fault refused =>
    orderly fault refused (Machine.kind_of_frame_refused refused)
  have before : stage.before.UpToDate :=
    (UpToDate.start rfl scale).of_mem_stages visible stage member
  have after := before.after visible accepted
  obtain ⟨flip, last, shows⟩ := after.exists_flip visible
  refine ⟨after.window, flip, last, shows, ?_⟩
  by_cases draws : stage.draws = true
  · obtain ⟨window, -, shown⟩ := Stage.exists_after_of_draws visible accepted draws
    rw [shown] at last ⊢
    have isLast : flip = ⟨stage.before.frames + 1, window.picture⟩ := (Option.some.inj last).symm
    simp [draws, isLast]
  · rw [Stage.after_of_still accepted (Bool.eq_false_iff.mpr draws)]
    have silent : stage.played.flips = stage.before.flips := rfl
    simp [draws, silent]

/-- A frame of one cycle that meets the word `00E0`. -/
theorem frame_of_clear {m : Machine σ} (word : m.fetch = 0x00E0) :
    (m.frame 1).ending = .completed ∧ (m.frame 1).results.any CycleResult.draws = true := by
  have decoded : decode m.fetch = some .clearScreen := by
    rw [word]
    rfl
  have executed : m.cycle.1 = .ok (.executed m.pc m.fetch) :=
    congrArg Prod.fst (Machine.cycle_of_execute_ok decoded rfl)
  have ran := Machine.run_succ_of_executed executed 0
  constructor
  · change (m.run 1).ending = .completed
    rw [ran]
    rfl
  · change (m.run 1).results.any CycleResult.draws = true
    rw [ran, word]
    rfl

/-- The program `00E0` at one cycle for each frame. -/
theorem upToDate_of_mem_stages_clear :
    (#[0x00, 0xE0] : Rom).size ≤ 0xE00 ∧
      ∃ machine, (Machine.fresh (Tape.ofList [])).loadRom #[0x00, 0xE0] = .ok machine ∧
        ∃ stage ∈ (start machine 1).stages (cyclesPerFrame 1) [],
          stage.after.window.Shows stage.after.machine.display ∧ stage.after.flips.length = 2 := by
  have fits : (#[0x00, 0xE0] : Rom).size ≤ 0xE00 := by decide
  obtain ⟨machine, loaded, -, shown⟩ :=
    upToDate_of_mem_stages (Tape.ofList []) fits 1 (Nat.le_refl 1) []
  let stage : Stage Tape 1 := ⟨start machine 1, cyclesPerFrame 1, [.quit]⟩
  have member : stage ∈ (start machine 1).stages (cyclesPerFrame 1) [] := List.mem_singleton.mpr rfl
  have word : machine.fetch = 0x00E0 := by
    obtain ⟨memory, inMemory, rest⟩ := bind_eq_ok_iff.mp loaded
    have high : memory.read 0x200 = 0x00 :=
      Memory.read_program inMemory (show 0 < 2 by decide)
    have low : memory.read (0x200 + 1) = 0xE0 :=
      Memory.read_program inMemory (show 1 < 2 by decide)
    rw [← Except.ok.inj rest]
    change memory.read 0x200 * 256 + memory.read (0x200 + 1) = 0x00E0
    rw [high, low]
  obtain ⟨completed, draws⟩ : stage.frame.ending = .completed ∧ stage.draws = true :=
    frame_of_clear (m := { machine with keypad := _ }) word
  have orderly : ∀ fault, stage.frame.ending = .refused fault → fault.kind ≠ .stack := by
    intro fault refused
    rw [completed] at refused
    cases refused
  obtain ⟨window, flip, -, -, shows, -⟩ := shown stage member orderly
  refine ⟨fits, machine, loaded, stage, member, window, ?_⟩
  rw [shows.mpr draws]
  rfl

end ChipEight.Session
