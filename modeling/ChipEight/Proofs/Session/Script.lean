import ChipEight.Proofs.Machine.Course

/-!
# Scripts

A script holds the events of each frame, and behind its end the host quits in every frame. It says
which steps drive a machine through a number of frames: in each frame all events, then the cycles,
and at last a step of the timers. A session asks for no frames behind the first one in which the
host asks to quit.

## Main definitions

* `Script` — the events of each frame
* `Script.eventsAt`, `Script.lastFrame` — the events of a frame, and the frame in which the host
  quits
* `Script.steps`, `Script.stepsInto` — the steps of a number of frames, and those up to the first
  cycle of a frame

## Main results

* `Script.countP_isTick_steps`, `Script.countP_isTick_stepsInto`, `Script.countP_isCycle_steps` —
  how many steps of the timers and how many cycles there are
* `Script.steps_cons`, `Script.stepsInto_cons`, `Script.lastFrame_cons` — the first frame of a
  script
-/

namespace ChipEight

/-- The events of each frame. -/
abbrev Script := List (List HostEvent)

namespace Script

/-- The events of frame `k`, the first one being frame zero. Behind the end of the script the host
quits. -/
def eventsAt (script : Script) (k : Nat) : List HostEvent :=
  script.getD k [.quit]

/-- The number of frames up to the first one in which the host asks to quit, that one included. -/
def lastFrame (script : Script) : Nat :=
  script.findIdx HostEvent.quits + 1

/-- The steps of a frame. -/
def frameSteps (cycles : Nat) (events : List HostEvent) : List Drive :=
  events.map .event ++ (List.replicate cycles .cycle ++ [.tick])

/-- The steps of the first `n` frames. -/
def steps (script : Script) (cycles n : Nat) : List Drive :=
  (List.range n).flatMap fun k => frameSteps cycles (script.eventsAt k)

/-- The steps up to the first cycle of frame `k`. -/
def stepsInto (script : Script) (cycles k : Nat) : List Drive :=
  script.steps cycles k ++ (script.eventsAt k).map .event

/-! ## Counting -/

theorem countP_map_event {p : Drive → Bool} (other : ∀ event, p (.event event) = false)
    (events : List HostEvent) : (events.map Drive.event).countP p = 0 := by
  rw [List.countP_map, List.countP_eq_zero]
  intro event _
  simp [other event]

theorem countP_isTick_frameSteps (cycles : Nat) (events : List HostEvent) :
    (frameSteps cycles events).countP Drive.isTick = 1 := by
  have noEvents := countP_map_event (p := Drive.isTick) (fun _ => rfl) events
  simp [frameSteps, noEvents, List.countP_replicate, Drive.isTick]

theorem countP_isCycle_frameSteps (cycles : Nat) (events : List HostEvent) :
    (frameSteps cycles events).countP Drive.isCycle = cycles := by
  have noEvents := countP_map_event (p := Drive.isCycle) (fun _ => rfl) events
  simp [frameSteps, noEvents, List.countP_replicate, Drive.isCycle]

theorem steps_succ (script : Script) (cycles n : Nat) :
    script.steps cycles (n + 1) =
      script.steps cycles n ++ frameSteps cycles (script.eventsAt n) := by
  simp only [steps, List.range_succ, List.flatMap_append, List.flatMap_singleton]

/-- There is one step of the timers in each frame. -/
theorem countP_isTick_steps (script : Script) (cycles n : Nat) :
    (script.steps cycles n).countP Drive.isTick = n := by
  induction n with
  | zero => rfl
  | succ n ih => rw [steps_succ, List.countP_append, ih, countP_isTick_frameSteps]

/-- Up to the first cycle of a frame there is one step of the timers for each frame before it. -/
theorem countP_isTick_stepsInto (script : Script) (cycles k : Nat) :
    (script.stepsInto cycles k).countP Drive.isTick = k := by
  rw [stepsInto, List.countP_append, countP_isTick_steps, countP_map_event fun _ => rfl,
    Nat.add_zero]

/-- There are as many cycles in each frame. -/
theorem countP_isCycle_steps (script : Script) (cycles n : Nat) :
    (script.steps cycles n).countP Drive.isCycle = n * cycles := by
  induction n with
  | zero => exact (Nat.zero_mul cycles).symm
  | succ n ih => rw [steps_succ, List.countP_append, ih, countP_isCycle_frameSteps, Nat.succ_mul]

/-! ## The first frame -/

theorem steps_cons (events : List HostEvent) (rest : Script) (cycles n : Nat) :
    steps (events :: rest) cycles (n + 1) = frameSteps cycles events ++ rest.steps cycles n := by
  unfold steps
  rw [List.range_succ_eq_map, List.flatMap_cons, List.flatMap_map]
  rfl

theorem stepsInto_zero (script : Script) (cycles : Nat) :
    script.stepsInto cycles 0 = (script.eventsAt 0).map .event := rfl

theorem stepsInto_cons (events : List HostEvent) (rest : Script) (cycles k : Nat) :
    stepsInto (events :: rest) cycles (k + 1) =
      frameSteps cycles events ++ rest.stepsInto cycles k := by
  rw [stepsInto, steps_cons, List.append_assoc]
  rfl

theorem lastFrame_pos (script : Script) : 0 < script.lastFrame :=
  Nat.succ_pos _

theorem lastFrame_of_quits {script : Script} (quits : HostEvent.quits (script.eventsAt 0) = true) :
    script.lastFrame = 1 := by
  cases script with
  | nil => rfl
  | cons events rest =>
    have first : HostEvent.quits events = true := quits
    simp [lastFrame, List.findIdx_cons, first]

theorem lastFrame_cons {events : List HostEvent} (goesOn : HostEvent.quits events = false)
    (rest : Script) : lastFrame (events :: rest) = rest.lastFrame + 1 := by
  simp [lastFrame, List.findIdx_cons, goesOn]

end Script

end ChipEight
