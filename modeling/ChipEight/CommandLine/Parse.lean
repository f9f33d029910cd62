import ChipEight.CommandLine.Word
import ChipEight.Text.Numeral

/-!
# Reading a command line

The words are gone through from left to right. A flag takes its value from its own word or from the
operand behind it, and a later value replaces an earlier one; the first fault ends the reading. An
attached `--` is no value and makes the setting void. Then it is checked, in this order, that a file
is given, that no word is left over, and that the clock and the scale are positive.

## Main definitions

* `Settings` — what the words read so far have set
* `Settings.assign` — gives a flag its value
* `Settings.readAll` — goes through the words
* `Settings.finish` — the options, once all words have been read
* `parse` — the options that a command line sets
-/

namespace ChipEight.CommandLine

/-- What the words read so far have set, and those among them that belong to no flag. -/
structure Settings where
  file : Setting String
  clock : Setting Int
  scale : Setting Int
  seed : Setting Int
  extra : List String
  deriving DecidableEq, Repr

namespace Settings

/-- Nothing is set. -/
def initial : Settings := ⟨.absent, .absent, .absent, .absent, []⟩

/-- The number that is given as the value of a flag. -/
def number (flag : Flag) (value : String) : Except Refusal Int :=
  match Numeral.read value with
  | .ok n => .ok n
  | .error _ => .error (.notANumber flag value)

/-- Gives a flag its value. -/
def assign (settings : Settings) (flag : Flag) (value : String) : Except Refusal Settings :=
  match flag with
  | .help => .error .help
  | .file => .ok { settings with file := .given value }
  | .clock => do
    let clock ← number .clock value
    return { settings with clock := .given clock }
  | .scale => do
    let scale ← number .scale value
    return { settings with scale := .given scale }
  | .seed => do
    let seed ← number .seed value
    return { settings with seed := .given seed }

/-- Makes the setting of a flag void. -/
def clear (settings : Settings) : Flag → Settings
  | .help => settings
  | .file => { settings with file := .void }
  | .clock => { settings with clock := .void }
  | .scale => { settings with scale := .void }
  | .seed => { settings with seed := .void }

/-- Gives a flag the value attached to it; two dashes are none. -/
def attach (settings : Settings) (flag : Flag) (value : String) : Except Refusal Settings :=
  if value = "--" then .ok (settings.clear flag) else settings.assign flag value

/-- Leaves a word over. -/
def leave (settings : Settings) (text : String) : Settings :=
  { settings with extra := settings.extra ++ [text] }

/-- Whether a value stands at the front of the words that follow a flag. -/
def valueFollows : List Word → Bool
  | .operand _ :: _ => true
  | _ => false

/-- What comes of the help flag when letters follow its short name, which have to be the short names
of more flags. A flag with a value ends the word; its value stands in the rest of the word or behind
it. Help is given once the word makes sense. -/
def clusterRefusal (following : List Word) : List Char → Refusal
  | [] => .help
  | c :: rest =>
    match Flag.ofName? (String.ofList ['-', c]) with
    | none => .valueIgnored .help (String.ofList (c :: rest))
    | some flag =>
      if !flag.takesValue then clusterRefusal following rest
      else if rest.isEmpty && !valueFollows following then .valueMissing flag
      else .help

/-- What comes of the help flag, which ends the reading in any case. -/
def helpRefusal (short : Bool) (attached : Option String) (following : List Word) : Refusal :=
  match attached with
  | none => .help
  | some value =>
    if short && value ≠ "" then clusterRefusal following value.toList
    else .valueIgnored .help value

/-- Goes through the words. -/
def readAll (settings : Settings) : List Word → Except Refusal Settings
  | [] => .ok settings
  | .operand text :: rest => (settings.leave text).readAll rest
  | .unknown text :: rest => (settings.leave text).readAll rest
  | .separator :: rest => (settings.leave "--").readAll rest
  | .flagged .help short attached :: rest => .error (helpRefusal short attached rest)
  | .flagged flag _ (some attached) :: rest => do
    let settings ← settings.attach flag attached
    settings.readAll rest
  | .flagged flag _ none :: .operand value :: rest => do
    let settings ← settings.assign flag value
    settings.readAll rest
  | .flagged flag _ none :: _ => .error (.valueMissing flag)

/-- The number that a flag is set to, which has to be positive. -/
def positive (flag : Flag) (setting : Setting Int) (default : Int) : Except Failure Int :=
  match setting.valueOr? default with
  | none => .error (.misused .comparison)
  | some n => if n < 1 then .error (.refused (.notPositive flag)) else .ok n

/-- The path of the program; the flag for it has to be given, with a value or without. -/
def program (settings : Settings) : Except Failure (Option String) :=
  match settings.file with
  | .absent => .error (.refused (.required .file))
  | .void => .ok none
  | .given path => .ok (some path)

/-- The options, once all words have been read. -/
def finish (settings : Settings) : Except Failure Options := do
  let file ← settings.program
  if settings.extra ≠ [] then throw (.refused (.unrecognized settings.extra))
  let clock ← positive .clock settings.clock defaultClock
  let scale ← positive .scale settings.scale Window.defaultScale
  return ⟨file, clock, scale, settings.seed⟩

end Settings

/-- The options that a command line sets. -/
def parse (words : List String) : Except Failure Options :=
  match Word.classifyAll words >>= Settings.initial.readAll with
  | .error refusal => .error (.refused refusal)
  | .ok settings => settings.finish

end ChipEight.CommandLine
