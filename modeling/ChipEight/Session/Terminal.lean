import ChipEight.Session.Basic

/-!
# Sessions in a terminal

A terminal delivers its events as lines of text, one for each frame: a line names the keys that are
down during the frame. The pictures of a session are shown as text.

## Main definitions

* `Terminal.events` — the events of the lines
* `Terminal.shown` — the text of all pictures of a session
* `Terminal.code` — the code that the program ends with
-/

namespace ChipEight.Terminal

/-- The key codes that a line names. -/
def codes (line : String) : List Int :=
  (line.toList.map fun c => (c.toNat : Int)).filter fun code => (keyOfCode code).isSome

/-- The events that change which keys are down. -/
def changes (before after : List Int) : List HostEvent :=
  (before.filter (!after.contains ·)).map .keyUp ++ (after.filter (!before.contains ·)).map .keyDown

/-- The events of each frame for the lines of a terminal, when some keys are already down. -/
def eventsFrom (before : List Int) : List String → List (List HostEvent)
  | [] => []
  | line :: rest => changes before (codes line) :: eventsFrom (codes line) rest

/-- The events of each frame for the lines of a terminal. -/
def events (lines : List String) : List (List HostEvent) :=
  eventsFrom [] lines

/-- A row of pixels, lit ones as number signs. -/
def rowText (row : List Bool) : String :=
  String.ofList (row.map fun lit => if lit then '#' else '.')

/-- A picture under the number of its frame. -/
def flipText (flip : Flip) : String :=
  Session.ofLines (s!"frame {flip.frame}" :: flip.picture.toList.map fun row => rowText row.toList)

/-- The pictures of a session. -/
def shown (transcript : Transcript) : String :=
  String.join (transcript.flips.map flipText)

/-- What is written to the error output when a session ends. -/
def errors (transcript : Transcript) : String :=
  match transcript.exit with
  | .refused _ => transcript.errors
  | .quit => ""
  | .misused misuse => misuse.message ++ "\n"
  | .unreadable error => error.message ++ "\n"
  | .faulted fault => fault.message ++ "\n"
  | .crashed report => report ++ "\n"

/-- The code that the program ends with. -/
def code (transcript : Transcript) : Nat :=
  match transcript.exit with
  | .refused refusal => refusal.code
  | .quit => 0
  | _ => 1

end ChipEight.Terminal
