import ChipEight.Session.Window
import ChipEight.Text.Quoted

/-!
# Options of the command line

The flags of the command line, what they set, and the reasons for which a command line is not
carried out, with the text that the user gets to see. A flag can be given without a value, by an
attached `--`; its setting is void then, which goes unnoticed until the value is needed.

## Main definitions

* `Flag` — a flag, with its names in `Flag.names`
* `Setting` — what a flag with a value is set to
* `Options` — what a command line sets
* `Refusal` — why a command line is not carried out
* `Refusal.output`, `Refusal.errors`, `Refusal.code` — what the user sees of it
* `Misuse` — the use of a void setting, with its wording in `Misuse.message`
* `Failure` — the ways in which a command line sets nothing
-/

namespace ChipEight.CommandLine

/-- A flag of the command line. -/
inductive Flag where
  | help
  | file
  | clock
  | scale
  | seed
  deriving DecidableEq, Repr

namespace Flag

/-- The flags in the order in which they are listed. -/
def all : List Flag := [help, file, clock, scale, seed]

/-- The names of a flag, the short one first. -/
def names : Flag → List String
  | help => ["-h", "--help"]
  | file => ["-f", "--file"]
  | clock => ["--clock"]
  | scale => ["--scale"]
  | seed => ["--seed"]

/-- Whether a flag is followed by a value. -/
def takesValue : Flag → Bool
  | help => false
  | _ => true

/-- The names of a flag as messages give them. -/
def label (flag : Flag) : String :=
  "/".intercalate flag.names

/-- All names with their flags. -/
def directory : List (String × Flag) :=
  all.flatMap fun flag => flag.names.map (·, flag)

/-- The flag of a name. -/
def ofName? (name : String) : Option Flag :=
  directory.lookup name

end Flag

/-- The instructions executed in a second when nothing else is asked for. -/
def defaultClock : Int := 600

/-- What a flag with a value is set to. -/
inductive Setting (α : Type) where
  /-- The flag is not given. -/
  | absent
  /-- The flag is given without a value. -/
  | void
  /-- The flag is given with a value. -/
  | given (value : α)
  deriving DecidableEq, Repr

namespace Setting

variable {α : Type}

/-- The value of a setting, with one for a flag that is not given. A void setting has none. -/
def valueOr? (setting : Setting α) (default : α) : Option α :=
  match setting with
  | absent => some default
  | void => none
  | given value => some value

end Setting

/-- What a command line sets. -/
structure Options where
  /-- The path of the program, if the flag for it has a value. -/
  file : Option String
  clock : Int
  scale : Int
  seed : Setting Int
  deriving DecidableEq, Repr

/-- Why a command line is not carried out. -/
inductive Refusal where
  /-- Help was asked for. -/
  | help
  /-- A word abbreviates several names. -/
  | ambiguous (word : String) (names : List String)
  /-- A flag lacks its value. -/
  | valueMissing (flag : Flag)
  /-- A flag has a value attached and takes none. -/
  | valueIgnored (flag : Flag) (value : String)
  /-- The value of a flag is not a numeral. -/
  | notANumber (flag : Flag) (value : String)
  /-- A flag that has to be given is not. -/
  | required (flag : Flag)
  /-- There are words that belong to no flag. -/
  | unrecognized (words : List String)
  /-- The value of a flag is not positive. -/
  | notPositive (flag : Flag)
  deriving DecidableEq, Repr

/-- The name of the program. -/
def programName : String := "chip8_emulator.py"

/-- The two lines that show how a command line is written. -/
def usage : String :=
  s!"usage: {programName} [-h] -f FILE [--clock CLOCK] [--scale SCALE]\n"
    ++ "                         [--seed SEED]\n"

/-- The text that tells about all flags. -/
def helpText : String :=
  usage ++ "\nCHIP-8 interpreter\n\noptions:\n"
    ++ "  -h, --help            show this help message and exit\n"
    ++ "  -f FILE, --file FILE  input rom file\n"
    ++ s!"  --clock CLOCK         instructions executed per second (default {defaultClock})\n"
    ++ s!"  --scale SCALE         pixel scale factor (default {Window.defaultScale})\n"
    ++ "  --seed SEED           seed of the random byte source, for reproducible runs\n"

namespace Refusal

/-- The wording of a refusal; asking for help is no error. -/
def message? : Refusal → Option String
  | help => none
  | ambiguous word names =>
    some (s!"ambiguous option: {word} could match " ++ ", ".intercalate names)
  | valueMissing flag => some s!"argument {flag.label}: expected one argument"
  | valueIgnored flag value =>
    some s!"argument {flag.label}: ignored explicit argument {Text.quoted value}"
  | notANumber flag value =>
    some s!"argument {flag.label}: invalid int value: {Text.quoted value}"
  | required flag => some s!"the following arguments are required: {flag.label}"
  | unrecognized words => some ("unrecognized arguments: " ++ " ".intercalate words)
  | notPositive flag => some s!"{flag.label} must be a positive number"

/-- What is written to the output. -/
def output : Refusal → String
  | help => helpText
  | _ => ""

/-- What is written to the error output. -/
def errors (refusal : Refusal) : String :=
  match refusal.message? with
  | none => ""
  | some message => usage ++ s!"{programName}: error: {message}\n"

/-- The code that the program ends with. -/
def code (refusal : Refusal) : Nat :=
  if refusal.message?.isNone then 0 else 2

end Refusal

/-- The use of a void setting. -/
inductive Misuse where
  /-- It is compared with a number. -/
  | comparison
  /-- It is taken for the path of a file. -/
  | path
  /-- It is taken for the seed of the random bytes. -/
  | seed
  deriving DecidableEq, Repr

/-- The wording of a misuse. -/
def Misuse.message : Misuse → String
  | comparison => "'<' not supported between instances of 'list' and 'int'"
  | path => "expected str, bytes or os.PathLike object, not list"
  | seed => "The only supported seed types are: None,\nint, float, str, bytes, and bytearray."

/-- The ways in which a command line sets nothing. -/
inductive Failure where
  /-- It is not carried out, and the user is told why. -/
  | refused (refusal : Refusal)
  /-- The check of its values needs one that is void. -/
  | misused (misuse : Misuse)
  deriving DecidableEq, Repr

end ChipEight.CommandLine
