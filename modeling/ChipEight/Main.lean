import ChipEight.Session.Terminal
import ChipEight.Switch

/-!
# The program

Plays a program in a terminal. The command line names the program, the lines of the standard input
name the keys that are down in each frame, and the pictures and messages go to the standard output.
The environment variable `DEBUG` turns the trace on.
-/

namespace ChipEight.Terminal

/-- The lines up to the end of a stream. -/
partial def readLines (stream : IO.FS.Stream) : IO (List String) := do
  let line ← stream.getLine
  if line.isEmpty then return []
  return line :: (← readLines stream)

/-- Writes the transcript of a session. -/
def write (transcript : Transcript) : IO UInt32 := do
  IO.print (shown transcript ++ transcript.output)
  IO.eprint (errors transcript)
  return UInt32.ofNat (code transcript)

end ChipEight.Terminal

open ChipEight in
/-- Plays the program that the command line names. -/
def main (words : List String) : IO UInt32 := do
  let setting := (← IO.getEnv "DEBUG").getD Switch.absent
  match Switch.read setting, CommandLine.parse words with
  | .error error, _ =>
    IO.eprintln (error.message (Switch.normal setting))
    return 1
  | _, .error failure => Terminal.write (Session.ofFailure failure)
  | .ok tracing, .ok options =>
    match options.file with
    | none => Terminal.write (Session.unopened (.misused .path))
    | some path =>
      let content ← IO.FS.readBinFile path
      let entropy ← IO.rand 0 0xFFFFFFFF
      let lines ← Terminal.readLines (← IO.getStdin)
      let files : Storage := ⟨fun _ => .ok content.data⟩
      Terminal.write (Session.launch words ⟨files, Terminal.events lines, tracing, entropy⟩)
