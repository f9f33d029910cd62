import ChipEight.HostEvent
import ChipEight.Proofs.Refusal
import Mathlib.Data.List.Induction

/-!
# What host events change

An event is never refused, and it changes nothing but the keypad: a key that goes down is pressed,
and a key that goes up is let go of if it was down. Of the events that concern a key, the last one
decides where the key ends up.

## Main definitions

* `HostEvent.goesOn`, `HostEvent.quits` — whether the session goes on after an event, and whether
  one of several events ends it
* `HostEvent.key?`, `HostEvent.lastOf?` — the key that an event is about, and the last event that is
  about a key
* `HostEvent.turn`, `HostEvent.turnAll` — the keypad after an event, and after a list of events

## Main results

* `HostEvent.deliver_eq_ok` — what becomes of a machine
* `HostEvent.deliverAll_eq_ok` — what a list of events does
* `HostEvent.isDown_turnAll` — the keys that are down after a list of events
* `HostEvent.exists_deliverAll` — all that a list of events does, in terms of the list alone
-/

namespace ChipEight.HostEvent

variable {σ : Type}

/-- Whether the session goes on after an event. -/
def goesOn : HostEvent → Bool
  | quit => false
  | keyDown code => code != escapeCode
  | keyUp _ | other => true

/-- Whether the host asks to end the session by one of the events: by closing the window, or by the
escape key. -/
def quits (events : List HostEvent) : Bool :=
  events.contains quit || events.contains (keyDown escapeCode)

theorem goesOn_eq_false_iff (event : HostEvent) :
    event.goesOn = false ↔ event = quit ∨ event = keyDown escapeCode := by
  cases event <;> simp [goesOn]

/-- A session goes on after events of which none asks to end it. -/
theorem all_goesOn (events : List HostEvent) : events.all goesOn = !quits events := by
  induction events with
  | nil => rfl
  | cons event rest ih =>
    cases goesOn : event.goesOn with
    | false =>
      rcases (goesOn_eq_false_iff event).mp goesOn with rfl | rfl
      · simp [quits, HostEvent.goesOn]
      · simp [quits, HostEvent.goesOn]
    | true =>
      have other : ¬ (event = quit ∨ event = keyDown escapeCode) := by
        rw [← goesOn_eq_false_iff, goesOn]
        nofun
      obtain ⟨notQuit, notEscape⟩ := not_or.mp other
      rw [List.all_cons, ih, goesOn, Bool.true_and]
      simp [quits, Ne.symm notQuit, Ne.symm notEscape]

/-- The key that an event is about. -/
def key? : HostEvent → Option (Fin 16)
  | keyDown code | keyUp code => keyOfCode code
  | quit | other => none

/-- The last of the events that are about a key. -/
def lastOf? (key : Fin 16) (events : List HostEvent) : Option HostEvent :=
  (events.filter (·.key? = some key)).getLast?

theorem lastOf?_concat (key : Fin 16) (events : List HostEvent) (event : HostEvent) :
    lastOf? key (events ++ [event]) =
      if event.key? = some key then some event else lastOf? key events := by
  unfold lastOf?
  split <;> simp [*]

/-- The keypad after an event. -/
def turn (keypad : Keypad) : HostEvent → Keypad
  | quit | other => keypad
  | keyDown code =>
    match keyOfCode code with
    | some key => keypad.press key
    | none => keypad
  | keyUp code =>
    match keyOfCode code with
    | some key =>
      if keypad.isDown key then ⟨keypad.down.set key.val false (Machine.number_lt key)⟩ else keypad
    | none => keypad

/-- The keypad after a list of events. -/
def turnAll (keypad : Keypad) (events : List HostEvent) : Keypad :=
  events.foldl turn keypad

/-- Escape stands for no key. -/
theorem keyOfCode_escape : keyOfCode escapeCode = none := by decide

/-- An event is never refused and changes just the keypad. -/
theorem deliver_eq_ok (event : HostEvent) (m : Machine σ) :
    event.deliver m = .ok (event.goesOn, { m with keypad := turn m.keypad event }) := by
  cases event with
  | quit => rfl
  | other => rfl
  | keyDown code =>
    by_cases escape : code = escapeCode
    · subst escape
      simp [deliver, goesOn, turn, keyOfCode_escape]
    · cases mapped : keyOfCode code with
      | none => simp [deliver, goesOn, turn, escape, mapped]
      | some key => simp [deliver, goesOn, turn, escape, mapped, Machine.press]
  | keyUp code =>
    cases mapped : keyOfCode code with
    | none => simp [deliver, goesOn, turn, mapped]
    | some key =>
      -- a key that is not down is never let go of, so nothing is refused
      by_cases down : m.keypad.isDown key
      · simp [deliver, goesOn, turn, mapped, down, Machine.release, Keypad.release, pure_eq_ok,
          -bind_pure_comp]
      · simp [deliver, goesOn, turn, mapped, down]

/-- A list of events is never refused. The session goes on if it did before and none of the events
ends it. -/
theorem deliverAll_eq_ok (events : List HostEvent) (m : Machine σ) (running : Bool) :
    deliverAll m running events =
      .ok (events.all goesOn && running, { m with keypad := turnAll m.keypad events }) := by
  induction events generalizing m running with
  | nil => simp [deliverAll, turnAll]
  | cons event rest ih =>
    simp only [deliverAll, deliver_eq_ok, ok_bind, ih, turnAll, List.foldl_cons, List.all_cons]
    rw [← Bool.and_assoc, Bool.and_comm (rest.all goesOn)]

/-- An event that is about a key puts it where it says. Other events leave the key alone. -/
theorem isDown_turn (keypad : Keypad) (event : HostEvent) (key : Fin 16) :
    (turn keypad event).isDown key = true ↔
      if event.key? = some key then ∃ code, event = keyDown code else keypad.isDown key = true := by
  cases event with
  | quit => simp [turn, key?]
  | other => simp [turn, key?]
  | keyDown code =>
    cases mapped : keyOfCode code with
    | none => simp [turn, key?, mapped]
    | some pressed =>
      by_cases same : pressed = key <;> simp [turn, key?, mapped, Keypad.isDown_press, same]
  | keyUp code =>
    cases mapped : keyOfCode code with
    | none => simp [turn, key?, mapped]
    | some released =>
      by_cases down : keypad.isDown released
      · simp [turn, key?, mapped, down, Keypad.isDown_set]
      · have other : keypad.isDown key = true → released ≠ key := by
          rintro up rfl
          exact down up
        simpa [turn, key?, mapped, down] using other

/-- A key is down after a list of events if the last event about it has put it down. Without such an
event, it is where it was. -/
theorem isDown_turnAll (keypad : Keypad) (events : List HostEvent) (key : Fin 16) :
    (turnAll keypad events).isDown key = true ↔
      (∃ code, lastOf? key events = some (keyDown code)) ∨
        lastOf? key events = none ∧ keypad.isDown key = true := by
  -- the events are taken from the end, where the last one decides
  induction events using List.reverseRecOn with
  | nil => simp [turnAll, lastOf?]
  | append_singleton events event ih =>
    have turned : turnAll keypad (events ++ [event]) = turn (turnAll keypad events) event := by
      simp [turnAll]
    rw [turned, isDown_turn, lastOf?_concat]
    split
    · simp
    · exact ih

/-- **A batch of events.** A list of events is never refused, whatever its events are and whichever
keys are down. The session does not go on afterwards if it did not before or if one of the events
closes the window or puts down escape. Nothing of the machine changes but the keypad, and of the
events about a key the last one decides: the key is down afterwards if this event has put it down,
or if there is no such event and the key was down before. -/
theorem exists_deliverAll (m : Machine σ) (running : Bool) (events : List HostEvent) :
    ∃ after keypad, deliverAll m running events = .ok (after, { m with keypad }) ∧
      (after = false ↔ running = false ∨ quit ∈ events ∨ keyDown escapeCode ∈ events) ∧
      ∀ key, keypad.isDown key = true ↔
        (∃ code, lastOf? key events = some (keyDown code)) ∨
          lastOf? key events = none ∧ m.keypad.isDown key = true := by
  refine ⟨_, _, deliverAll_eq_ok events m running, ?_, isDown_turnAll m.keypad events⟩
  rw [all_goesOn]
  simp only [quits, Bool.and_eq_false_iff, Bool.not_eq_false', Bool.or_eq_true,
    List.contains_iff_mem]
  exact or_comm

end ChipEight.HostEvent
