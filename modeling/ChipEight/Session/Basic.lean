import ChipEight.CommandLine.Parse
import ChipEight.HostEvent
import ChipEight.Machine.Dump
import ChipEight.Machine.Frame
import ChipEight.Machine.Trace
import ChipEight.Random.Twister
import ChipEight.Session.Storage
import ChipEight.Session.Window

/-!
# Sessions

A session runs a program in a window until the host quits or the machine crashes. Sixty times a
second there is a frame: the events that the host delivers reach the machine, the machine runs its
cycles, and if it has drawn anything the window is rendered and shown. An unknown word ends the
session after that; a call or return that is refused ends it at once.

## Main definitions

* `Session` — a machine with its window and all that has been shown
* `Session.step` — one frame
* `Session.play` — frames for a script of events, and a last one in which the host quits
* `Session.launch` — a whole session, from the command line on
-/

namespace ChipEight

/-- The number of frames in a second. -/
def framesPerSecond : Int := 60

/-- The number of cycles in a frame of a machine with a given clock. -/
def cyclesPerFrame (clock : Int) : Int :=
  max 1 (clock / framesPerSecond)

/-- A picture that was shown, with the number of the frame; the one before the first frame has
number zero. -/
structure Flip where
  frame : Nat
  picture : Picture screenWidth.toNat screenHeight.toNat

/-- How a session ended. -/
inductive Exit where
  /-- The command line was not carried out. -/
  | refused (refusal : CommandLine.Refusal)
  /-- A setting of the command line was void when it was needed. -/
  | misused (misuse : CommandLine.Misuse)
  /-- The program could not be read. -/
  | unreadable (error : Storage.Error)
  /-- An operation was refused other than a call or return. -/
  | faulted (fault : Fault)
  /-- The host quit. -/
  | quit
  /-- The machine could not go on. -/
  | crashed (report : String)

/-- A session in its window. -/
structure Session (σ : Type) (scale : Nat) where
  machine : Machine σ
  window : Window screenWidth.toNat screenHeight.toNat scale
  /-- The number of frames begun. -/
  frames : Nat
  /-- The pictures shown, the latest first. -/
  flips : List Flip
  /-- The results of all cycles. -/
  results : List CycleResult

namespace Session

variable {σ : Type} {scale : Nat}

/-- The session that shows an empty window. -/
def start (machine : Machine σ) (scale : Nat) : Session σ scale :=
  let window := .blank _ _ scale
  { machine, window, frames := 0, flips := [⟨0, window.picture⟩], results := [] }

/-- Renders the display in the window and shows it, if the machine has drawn. -/
def refresh (session : Session σ scale) : Except Fault Unit × Session σ scale :=
  if session.machine.drawn then
    match session.window.render session.machine.display with
    | (.error fault, window) => (.error fault, { session with window })
    | (.ok (), window) =>
      let flip : Flip := ⟨session.frames, window.picture⟩
      (.ok (), { session with window, flips := flip :: session.flips })
  else (.ok (), session)

/-- The words that name an unknown opcode and its address. -/
def unknownReason (address opcode : Int) : String :=
  s!"unknown opcode 0x{Text.hex 4 opcode} at 0x{Text.hex 4 address}"

/-- One frame: the session after it, and how the session ended if it did. -/
def step [ByteSource σ] (session : Session σ scale) (cycles : Int) (events : List HostEvent) :
    Session σ scale × Option Exit :=
  let session := { session with frames := session.frames + 1 }
  match HostEvent.deliverAll session.machine true events with
  | .error fault => (session, some (.faulted fault))
  | .ok (running, machine) =>
    let frame := machine.frame cycles
    let session :=
      { session with machine := frame.machine, results := session.results ++ frame.results }
    match frame.ending with
    | .refused fault =>
      if fault.kind = .stack then
        (session, some (.crashed (session.machine.crashReport fault.message)))
      else (session, some (.faulted fault))
    | ending =>
      match session.refresh with
      | (.error fault, session) => (session, some (.faulted fault))
      | (.ok (), session) =>
        match ending with
        | .unknown address opcode =>
          (session, some (.crashed (session.machine.crashReport (unknownReason address opcode))))
        | _ => (session, if running then none else some .quit)

/-- Frames for a script that holds the events of each frame. After the script the host quits. -/
def play [ByteSource σ] (session : Session σ scale) (cycles : Int) :
    List (List HostEvent) → Session σ scale × Exit
  | [] =>
    let (session, exit) := session.step cycles [.quit]
    (session, exit.getD .quit)
  | events :: rest =>
    match session.step cycles events with
    | (session, some exit) => (session, exit)
    | (session, none) => session.play cycles rest

end Session

/-- A program under the path that it was read from. -/
structure Program where
  path : String
  rom : Rom

/-- What a session finds at the host. -/
structure Host where
  files : Storage
  /-- The events of each frame; after them the host quits. -/
  events : List (List HostEvent)
  /-- Whether the trace of the machine is written out. -/
  tracing : Bool
  /-- The seed of the random bytes when none is asked for. -/
  entropy : Int

/-- The window that a session opened. -/
structure WindowFrame where
  width : Nat
  height : Nat
  caption : String
  deriving DecidableEq, Repr

/-- What can be seen of a session from outside. -/
structure Transcript where
  /-- What was written to the output. -/
  output : String
  /-- What was written to the error output. -/
  errors : String
  /-- The window, if the session came that far. -/
  window : Option WindowFrame
  /-- The number of frames begun. -/
  frames : Nat
  /-- The pictures shown, in order. -/
  flips : List Flip
  exit : Exit

namespace Session

/-- The transcript of a session that ended before it opened its window. -/
def unopened (exit : Exit) : Transcript :=
  ⟨"", "", none, 0, [], exit⟩

/-- The text of lines, each ended by a line feed. -/
def ofLines (lines : List String) : String :=
  String.join (lines.map (· ++ "\n"))

/-- Plays a session with a machine that holds a program. -/
def present {σ : Type} [ByteSource σ] (host : Host) (options : CommandLine.Options)
    (program : Program) (machine : Machine σ) : Transcript :=
  let scale := options.scale.toNat
  let (session, exit) := (start machine scale).play (cyclesPerFrame options.clock) host.events
  let loaded := s!"The ROM at path {program.path} has been loaded successfully"
  let lines :=
    if host.tracing then program.rom.trace :: loaded :: session.results.map CycleResult.trace
    else [loaded]
  { output := ofLines lines
    errors := ""
    window := some {
      width := screenWidth.toNat * scale
      height := screenHeight.toNat * scale
      caption := baseName program.path }
    frames := session.frames
    flips := session.flips.reverse
    exit }

/-- The session of a program under given options. -/
def ofProgram (host : Host) (options : CommandLine.Options) (program : Program) : Transcript :=
  match options.seed.valueOr? host.entropy with
  | none => unopened (.misused .seed)
  | some seed =>
    match (Machine.fresh (Twister.ofSeed seed)).loadRom program.rom with
    | .error fault => unopened (.faulted fault)
    | .ok machine => present host options program machine

/-- The transcript of a command line that sets nothing. -/
def ofFailure : CommandLine.Failure → Transcript
  | .refused refusal =>
    { unopened (.refused refusal) with output := refusal.output, errors := refusal.errors }
  | .misused misuse => unopened (.misused misuse)

/-- The session that given options ask for. -/
def ofOptions (host : Host) (options : CommandLine.Options) : Transcript :=
  match options.file with
  | none => unopened (.misused .path)
  | some path =>
    match host.files.read path with
    | .error error => unopened (.unreadable error)
    | .ok rom => ofProgram host options ⟨path, rom⟩

/-- The session that a command line asks for. -/
def launch (words : List String) (host : Host) : Transcript :=
  match CommandLine.parse words with
  | .error failure => ofFailure failure
  | .ok options => ofOptions host options

end Session

end ChipEight
