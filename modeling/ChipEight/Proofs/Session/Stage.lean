import ChipEight.Proofs.HostEvent
import ChipEight.Proofs.Machine.Run
import ChipEight.Proofs.Session.Window
import ChipEight.Session.Basic

/-!
# The frames of a session

A session that is played goes from frame to frame: each but the last leaves a session that goes on,
and the next frame starts there.

## Main definitions

* `Session.Stage` — a session before a frame, and what happens in the frame
* `Session.Stage.frame`, `Session.Stage.after` — what the machine does, and the session after the
  frame
* `Session.stages` — the frames of a session that is played

## Main results

* `Session.stages_induction` — what every frame keeps holds before every frame
* `Session.exists_play_eq` — a session that is played ends with its last frame
* `Session.Stage.after_of_still`, `Session.Stage.exists_after_of_draws` — what a frame shows
-/

namespace ChipEight.Session

/-- A frame of a session: the session before it, the number of cycles and the events that arrive. -/
structure Stage (σ : Type) (scale : Nat) where
  before : Session σ scale
  cycles : Int
  events : List HostEvent

variable {σ : Type} [ByteSource σ] {scale : Nat}

namespace Stage

/-- The session after a frame. -/
def after (stage : Stage σ scale) : Session σ scale :=
  (stage.before.step stage.cycles stage.events).1

/-- How the session ended with a frame, if it did. -/
def exit? (stage : Stage σ scale) : Option Exit :=
  (stage.before.step stage.cycles stage.events).2

/-- What the machine does in a frame, after the events have arrived. -/
def frame (stage : Stage σ scale) : Frame σ :=
  { stage.before.machine with
    keypad := HostEvent.turnAll stage.before.machine.keypad stage.events }.frame stage.cycles

/-- Whether a cycle of a frame executes an instruction that draws. -/
def draws (stage : Stage σ scale) : Bool :=
  stage.frame.results.any CycleResult.draws

/-- The session when the machine has run its cycles. -/
def played (stage : Stage σ scale) : Session σ scale :=
  { stage.before with
    machine := stage.frame.machine
    frames := stage.before.frames + 1
    results := stage.before.results ++ stage.frame.results }

end Stage

/-- The frames of a session that is played for a script. -/
def stages (session : Session σ scale) (cycles : Int) : List (List HostEvent) → List (Stage σ scale)
  | [] => [⟨session, cycles, [.quit]⟩]
  | events :: rest =>
    let stage : Stage σ scale := ⟨session, cycles, events⟩
    match stage.exit? with
    | some _ => [stage]
    | none => stage :: stage.after.stages cycles rest

/-- A session that is played ends with its last frame. -/
theorem exists_play_eq (session : Session σ scale) (cycles : Int) (script : List (List HostEvent)) :
    ∃ last, (session.stages cycles script).getLast? = some last ∧
      session.play cycles script = (last.after, last.exit?.getD .quit) := by
  induction script generalizing session with
  | nil => exact ⟨⟨session, cycles, [.quit]⟩, rfl, rfl⟩
  | cons events rest ih =>
    cases ended : (session.step cycles events).2 with
    | some exit =>
      refine ⟨⟨session, cycles, events⟩, ?_, ?_⟩
      · simp only [stages, Stage.exit?, ended]
        rfl
      · have stepped : session.step cycles events = (_, some exit) := Prod.ext rfl ended
        rw [play, stepped]
        simp only [Stage.exit?, ended]
        rfl
    | none =>
      obtain ⟨last, isLast, ends⟩ := ih (session.step cycles events).1
      refine ⟨last, ?_, ?_⟩
      · simp only [stages, Stage.exit?, ended]
        rw [List.getLast?_cons, Stage.after, isLast]
        rfl
      · have stepped : session.step cycles events = (_, none) := Prod.ext rfl ended
        rw [play, stepped]
        exact ends

/-- What a session has at the start and keeps in every frame that does not end it, it has before
every frame. -/
theorem stages_induction {motive : Session σ scale → Prop} {session : Session σ scale}
    {cycles : Int} {script : List (List HostEvent)} (start : motive session)
    (kept : ∀ stage : Stage σ scale,
      stage.exit? = none → motive stage.before → motive stage.after) :
    ∀ stage ∈ session.stages cycles script, motive stage.before := by
  induction script generalizing session with
  | nil =>
    intro stage member
    rw [List.mem_singleton.mp member]
    exact start
  | cons events rest ih =>
    intro stage member
    simp only [stages] at member
    split at member
    · rw [List.mem_singleton.mp member]
      exact start
    · next goesOn =>
      rcases List.mem_cons.mp member with rfl | later
      · exact start
      · exact ih (kept ⟨session, cycles, events⟩ goesOn start) stage later

/-! ## What a frame shows -/

omit [ByteSource σ] in
/-- A session whose machine has drawn shows its display. -/
theorem exists_refresh (visible : 0 < scale) (session : Session σ scale)
    (drawn : session.machine.drawn = true) :
    ∃ window, window.Shows session.machine.display ∧
      session.refresh =
        (.ok (), { session with
          window
          flips := ⟨session.frames, window.picture⟩ :: session.flips }) := by
  obtain ⟨window, rendered, shown⟩ :=
    Window.exists_render visible (by decide) (by decide) session.window session.machine.display
  refine ⟨window, shown, ?_⟩
  simp only [refresh, drawn, if_true, rendered]

omit [ByteSource σ] in
theorem refresh_of_still (session : Session σ scale) (still : session.machine.drawn = false) :
    session.refresh = (.ok (), session) := by
  rw [refresh, still]
  rfl

namespace Stage

variable {stage : Stage σ scale}

/-- A frame by its ending: a refused one ends the session, and any other one refreshes the
window. -/
theorem step_eq (stage : Stage σ scale) :
    stage.before.step stage.cycles stage.events =
      match stage.frame.ending with
      | .refused fault =>
        if fault.kind = .stack then
          (stage.played, some (.crashed (stage.played.machine.crashReport fault.message)))
        else (stage.played, some (.faulted fault))
      | ending =>
        match stage.played.refresh with
        | (.error fault, next) => (next, some (.faulted fault))
        | (.ok (), next) =>
          match ending with
          | .unknown address opcode =>
            (next, some (.crashed (next.machine.crashReport (unknownReason address opcode))))
          | _ => (next, if stage.events.all HostEvent.goesOn then none else some .quit) := by
  simp only [step, HostEvent.deliverAll_eq_ok, Bool.and_true]
  rfl

theorem after_of_refresh (accepted : ∀ fault, stage.frame.ending ≠ .refused fault)
    {next : Session σ scale} (refreshed : stage.played.refresh = (.ok (), next)) :
    stage.after = next := by
  rw [after, step_eq, refreshed]
  cases ending : stage.frame.ending with
  | completed => rfl
  | unknown address opcode => rfl
  | refused fault => exact absurd ending (accepted fault)

/-- A session does not go on after a frame that was refused. -/
theorem accepted_of_goesOn (goesOn : stage.exit? = none) (fault : Fault) :
    stage.frame.ending ≠ .refused fault := by
  intro refused
  rw [exit?, step_eq, refused] at goesOn
  by_cases onStack : fault.kind = .stack
  · simp [onStack] at goesOn
  · simp [onStack] at goesOn

/-- A frame that does not draw shows nothing. -/
theorem after_of_still (accepted : ∀ fault, stage.frame.ending ≠ .refused fault)
    (still : stage.draws = false) : stage.after = stage.played := by
  have clear : stage.played.machine.drawn = false := (Machine.frame_drawn accepted).trans still
  exact after_of_refresh accepted (refresh_of_still _ clear)

/-- A frame that draws shows what the machine has drawn. -/
theorem exists_after_of_draws (visible : 0 < scale)
    (accepted : ∀ fault, stage.frame.ending ≠ .refused fault) (draws : stage.draws = true) :
    ∃ window, window.Shows stage.frame.machine.display ∧
      stage.after =
        { stage.played with
          window
          flips := ⟨stage.before.frames + 1, window.picture⟩ :: stage.before.flips } := by
  have drawn : stage.played.machine.drawn = true := (Machine.frame_drawn accepted).trans draws
  obtain ⟨window, shown, refreshed⟩ := exists_refresh visible stage.played drawn
  exact ⟨window, shown, after_of_refresh accepted refreshed⟩

end Stage

end ChipEight.Session
