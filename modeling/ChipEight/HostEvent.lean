import ChipEight.Machine.Basic

/-!
# Host events

What the host tells a session between frames. The keys `0` to `9` and `a` to `f` of the host stand
for the keys of the keypad; escape and closing the window end the session.

## Main definitions

* `HostEvent` — an event
* `keyOfCode` — the key that a key code of the host stands for
* `HostEvent.deliver`, `HostEvent.deliverAll` — events arrive at a machine
-/

namespace ChipEight

/-- An event of the host. Keys of the host have character codes. -/
inductive HostEvent where
  /-- The window was closed. -/
  | quit
  /-- A key went down. -/
  | keyDown (code : Int)
  /-- A key went up. -/
  | keyUp (code : Int)
  /-- Anything else, such as a move of the mouse. -/
  | other
  deriving DecidableEq, Repr

/-- The code of the escape key. -/
def escapeCode : Int := 27

/-- The key that a key code of the host stands for. -/
def keyOfCode (code : Int) : Option (Fin 16) :=
  if h : 48 ≤ code ∧ code ≤ 57 then some ⟨(code - 48).toNat, by omega⟩
  else if h : 97 ≤ code ∧ code ≤ 102 then some ⟨(code - 87).toNat, by omega⟩
  else none

namespace HostEvent

variable {σ : Type}

/-- The machine after an event, and whether the session goes on. A key that goes up need not have
gone down while the session had the host's attention. -/
def deliver (m : Machine σ) : HostEvent → Except Fault (Bool × Machine σ)
  | quit => .ok (false, m)
  | keyDown code =>
    if code = escapeCode then .ok (false, m)
    else
      match keyOfCode code with
      | some key => .ok (true, m.press key)
      | none => .ok (true, m)
  | keyUp code =>
    match keyOfCode code with
    | some key =>
      if m.keypad.isDown key then do
        let m ← m.release key
        return (true, m)
      else .ok (true, m)
    | none => .ok (true, m)
  | other => .ok (true, m)

/-- The machine after a list of events; the session goes on if it did before and all events let
it. -/
def deliverAll (m : Machine σ) (running : Bool) :
    List HostEvent → Except Fault (Bool × Machine σ)
  | [] => .ok (running, m)
  | event :: rest => do
    let (goesOn, m) ← event.deliver m
    deliverAll m (goesOn && running) rest

end HostEvent

end ChipEight
