import ChipEight.CommandLine.Basic
import ChipEight.Text.Digit

/-!
# Words of the command line

Each word of a command line is a flag, possibly with a value attached, an operand, or looks like a
flag without being one. A flag may be abbreviated as long as only one name starts that way; a value
is attached to a long name by an equals sign, and to a short name also directly. Negative numbers,
texts with a space, a lone dash and all words behind the word `--` are operands.

## Main definitions

* `Word` — a word with what it is taken for
* `Word.classify` — what one word is taken for
* `Word.classifyAll` — the words of a command line
-/

namespace ChipEight.CommandLine

/-- A word with what it is taken for. -/
inductive Word where
  /-- The value of a flag, or a word without use. -/
  | operand (text : String)
  /-- The word `--`. -/
  | separator
  /-- A flag with the value attached to it; `short` tells that it is given by its short name. -/
  | flagged (flag : Flag) (short : Bool) (attached : Option String)
  /-- It has the look of a flag. -/
  | unknown (text : String)
  deriving DecidableEq, Repr

namespace Word

/-- The part of a text before the first equals sign, and the part behind it if there is one. -/
def splitEquals (text : List Char) : List Char × Option (List Char) :=
  match text.dropWhile (· != '=') with
  | [] => (text, none)
  | _ :: rest => (text.takeWhile (· != '='), some rest)

/-- Whether a text is empty or a line feed: the ends that a number may have. -/
def isEnd (text : List Char) : Bool :=
  text.isEmpty || text == ['\n']

/-- Whether a text is a dash followed by digits, or by a fraction with a point. -/
def isNegativeNumber : List Char → Bool
  | '-' :: rest =>
    let isDecimal (c : Char) : Bool := (Text.decimalValue? c).isSome
    let digits := rest.takeWhile isDecimal
    match rest.dropWhile isDecimal with
    | '.' :: fraction =>
      !(fraction.takeWhile isDecimal).isEmpty && isEnd (fraction.dropWhile isDecimal)
    | tail => !digits.isEmpty && isEnd tail
  | _ => false

/-- A flag given by one of its names, with what is attached to it. -/
structure Match where
  name : String
  word : Word

/-- The ways to take a word that starts with two dashes for an abbreviated name. -/
def longMatches (text : List Char) : List Match :=
  let (start, value) := splitEquals text
  Flag.directory.filterMap fun (name, flag) =>
    if start.isPrefixOf name.toList then
      some ⟨name, .flagged flag false (value.map String.ofList)⟩
    else none

/-- The ways to take a word for a short name with a value attached directly. -/
def shortMatches (text : List Char) : List Match :=
  Flag.directory.filterMap fun (name, flag) =>
    if name.toList = text.take 2 then
      some ⟨name, .flagged flag true (some (String.ofList (text.drop 2)))⟩
    else none

/-- What a word that starts with a dash is taken for when it holds no name in full. -/
def classifyUnnamed (text : List Char) : Except Refusal Word :=
  let found :=
    match text with
    | '-' :: '-' :: _ => longMatches text
    | _ => shortMatches text
  match found with
  | [only] => .ok only.word
  | [] =>
    if isNegativeNumber text || text.contains ' ' then .ok (.operand (String.ofList text))
    else .ok (.unknown (String.ofList text))
  | several => .error (.ambiguous (String.ofList text) (several.map (·.name)))

/-- Whether a name is a short one. -/
def isShort (name : List Char) : Bool :=
  !(['-', '-'].isPrefixOf name)

/-- What a word other than `--` is taken for. -/
def classify (text : String) : Except Refusal Word :=
  match text.toList with
  | '-' :: c :: rest =>
    let chars := '-' :: c :: rest
    match Flag.ofName? text, splitEquals chars with
    | some flag, _ => .ok (.flagged flag (isShort chars) none)
    | none, (name, some value) =>
      match Flag.ofName? (String.ofList name) with
      | some flag => .ok (.flagged flag (isShort name) (some (String.ofList value)))
      | none => classifyUnnamed chars
    | none, (_, none) => classifyUnnamed chars
  | _ => .ok (.operand text)

/-- What the words of a command line are taken for. -/
def classifyAll : List String → Except Refusal (List Word)
  | [] => .ok []
  | text :: rest =>
    if text = "--" then .ok (.separator :: rest.map .operand)
    else do
      let word ← classify text
      let words ← classifyAll rest
      return word :: words

end Word

end ChipEight.CommandLine
