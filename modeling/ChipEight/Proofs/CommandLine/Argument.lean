import ChipEight.CommandLine.Parse
import ChipEight.Proofs.Refusal
import ChipEight.Proofs.Text.Numeral
import Mathlib.Data.List.Induction

/-!
# Command lines of attached values

A command line all of whose words are long names with a value attached. Each value reaches its flag
as it is written, later values replace earlier ones of the same flag, and the values are judged only
in the end. So nothing matters but the order of the values of each flag.

## Main definitions

* `Argument` — a long name with a value attached, with its word in `Argument.text`
* `Argument.outcome` — what a list of arguments comes to, told from the last value of each flag

## Main results

* `Word.classify_attached` — a word with a value attached is taken apart at its first equals sign
* `Settings.readAll_words`, `Settings.foldl_take` — the settings after the arguments
* `Argument.outcome_congr` — only the order of the arguments of each flag matters
* `parse_arguments` — what a command line of arguments sets, or why it is not carried out
-/

namespace ChipEight.CommandLine

/-- The long name of a flag. -/
def Flag.longName (flag : Flag) : String :=
  flag.names.getLastD ""

theorem Flag.toList_longName (flag : Flag) : ∃ rest, flag.longName.toList = '-' :: '-' :: rest := by
  cases flag <;> exact ⟨_, rfl⟩

theorem Flag.ofName?_longName (flag : Flag) : ofName? flag.longName = some flag := by
  cases flag <;> decide

theorem Flag.equals_notMem_longName (flag : Flag) : '=' ∉ flag.longName.toList := by
  cases flag <;> decide

namespace Word

/-- A text is taken apart at its first equals sign. -/
theorem splitEquals_append {name : List Char} (noEquals : '=' ∉ name) (value : List Char) :
    splitEquals (name ++ '=' :: value) = (name, some value) := by
  have before : ∀ c ∈ name, (c != '=') = true := by
    intro c member
    refine bne_iff_ne.mpr ?_
    rintro rfl
    exact noEquals member
  rw [splitEquals, List.dropWhile_append_of_pos before, List.takeWhile_append_of_pos before]
  simp

/-- A text with an equals sign is the name of no flag. -/
theorem ofName?_of_equals {text : String} (equals : '=' ∈ text.toList) :
    Flag.ofName? text = none := by
  have names : ∀ entry ∈ Flag.directory, '=' ∉ entry.1.toList := by decide
  refine List.lookup_eq_none_iff.mpr fun entry member => bne_iff_ne.mpr ?_
  rintro rfl
  exact names entry member equals

/-- A word with a value attached to a long name is a flag with this value. -/
theorem classify_attached (flag : Flag) (value : String) :
    classify (flag.longName ++ "=" ++ value) = .ok (.flagged flag false (some value)) := by
  obtain ⟨rest, long⟩ := flag.toList_longName
  have chars :
      (flag.longName ++ "=" ++ value).toList = '-' :: '-' :: (rest ++ '=' :: value.toList) := by
    rw [String.toList_append, String.toList_append, long]
    simp
  have whole : Flag.ofName? (flag.longName ++ "=" ++ value) = none := by
    apply ofName?_of_equals
    rw [chars]
    simp
  have apart : splitEquals ('-' :: '-' :: (rest ++ '=' :: value.toList)) =
      (flag.longName.toList, some value.toList) := by
    have split := splitEquals_append flag.equals_notMem_longName value.toList
    rw [long] at split ⊢
    exact split
  have isLong : isShort flag.longName.toList = false := by
    rw [long]
    rfl
  unfold classify
  rw [chars]
  simp only [whole, apart, String.ofList_toList, flag.ofName?_longName, isLong]

end Word

/-- A long name with a value attached. The value of the file may be anything but two dashes, and
those of the other flags are numbers. -/
inductive Argument where
  | file (path : String) (proper : path ≠ "--")
  | clock (literal : Literal)
  | scale (literal : Literal)
  | seed (literal : Literal)

namespace Argument

/-- The flag of an argument. -/
def flag : Argument → Flag
  | file .. => .file
  | clock _ => .clock
  | scale _ => .scale
  | seed _ => .seed

/-- The text that is attached. -/
def value : Argument → String
  | file path _ => path
  | clock literal | scale literal | seed literal => literal.text

/-- The word of an argument. -/
def text : Argument → String
  | file path _ => "--file=" ++ path
  | clock literal => "--clock=" ++ literal.text
  | scale literal => "--scale=" ++ literal.text
  | seed literal => "--seed=" ++ literal.text

/-- The path that an argument gives. -/
def path? : Argument → Option String
  | file path _ => some path
  | _ => none

/-- The clock that an argument gives. -/
def clock? : Argument → Option Int
  | clock literal => some literal.value
  | _ => none

/-- The scale that an argument gives. -/
def scale? : Argument → Option Int
  | scale literal => some literal.value
  | _ => none

/-- The seed that an argument gives. -/
def seed? : Argument → Option Int
  | seed literal => some literal.value
  | _ => none

/-- What the word of an argument is taken for. -/
def word (argument : Argument) : Word :=
  .flagged argument.flag false (some argument.value)

theorem text_eq (argument : Argument) :
    argument.text = argument.flag.longName ++ "=" ++ argument.value := by
  cases argument <;> rfl

/-- A word with an equals sign does not consist of two dashes. -/
theorem text_ne_separator (argument : Argument) : argument.text ≠ "--" := by
  have equals : '=' ∈ argument.text.toList := by
    rw [text_eq, String.toList_append, String.toList_append]
    simp
  intro separator
  rw [separator] at equals
  exact absurd equals (by decide)

/-- The word of an argument is taken for its flag with its value attached. -/
theorem classify_text (argument : Argument) : Word.classify argument.text = .ok argument.word := by
  rw [text_eq]
  exact Word.classify_attached argument.flag argument.value

theorem classifyAll_texts (arguments : List Argument) :
    Word.classifyAll (arguments.map text) = .ok (arguments.map word) := by
  induction arguments with
  | nil => rfl
  | cons first rest ih =>
    rw [List.map_cons, Word.classifyAll, if_neg first.text_ne_separator, classify_text, ok_bind, ih]
    rfl

end Argument

/-- The setting of a flag with these values, one after the other: the last one counts. -/
def Setting.ofLast {α : Type} (values : List α) : Setting α :=
  match values.getLast? with
  | none => .absent
  | some value => .given value

@[simp] theorem Setting.ofLast_concat {α : Type} (values : List α) (value : α) :
    ofLast (values ++ [value]) = .given value := by
  rw [ofLast, List.getLast?_concat]

namespace Settings

/-- The settings after an argument. -/
def take (settings : Settings) : Argument → Settings
  | .file path _ => { settings with file := .given path }
  | .clock literal => { settings with clock := .given literal.value }
  | .scale literal => { settings with scale := .given literal.value }
  | .seed literal => { settings with seed := .given literal.value }

theorem number_text (flag : Flag) (literal : Literal) :
    number flag literal.text = .ok literal.value := by
  rw [number, Numeral.read_text]

/-- No number is written as two dashes. -/
theorem text_ne_dashes (literal : Literal) : literal.text ≠ "--" := by
  intro dashes
  have malformed : Numeral.read "--" = .error .malformed := by decide
  have read := Numeral.read_text literal
  rw [dashes, malformed] at read
  cases read

/-- An argument sets its flag to its value. -/
theorem attach_argument (settings : Settings) (argument : Argument) :
    settings.attach argument.flag argument.value = .ok (settings.take argument) := by
  cases argument with
  | file path proper => exact if_neg proper
  | clock literal =>
    rw [attach, Argument.value, if_neg (text_ne_dashes literal), Argument.flag, assign, number_text]
    rfl
  | scale literal =>
    rw [attach, Argument.value, if_neg (text_ne_dashes literal), Argument.flag, assign, number_text]
    rfl
  | seed literal =>
    rw [attach, Argument.value, if_neg (text_ne_dashes literal), Argument.flag, assign, number_text]
    rfl

theorem readAll_words (settings : Settings) (arguments : List Argument) :
    settings.readAll (arguments.map Argument.word) = .ok (arguments.foldl take settings) := by
  induction arguments generalizing settings with
  | nil => rfl
  | cons first rest ih =>
    have step : settings.readAll ((first :: rest).map Argument.word) =
        settings.attach first.flag first.value >>= fun settings =>
          settings.readAll (rest.map Argument.word) := by
      cases first <;> rfl
    rw [step, attach_argument, ok_bind, ih, List.foldl_cons]

/-- A flag is set to the last one of its values. -/
theorem foldl_take (arguments : List Argument) :
    arguments.foldl take initial =
      ⟨.ofLast (arguments.filterMap Argument.path?), .ofLast (arguments.filterMap Argument.clock?),
        .ofLast (arguments.filterMap Argument.scale?),
        .ofLast (arguments.filterMap Argument.seed?), []⟩ := by
  -- from the end, because the last argument decides
  induction arguments using List.reverseRecOn with
  | nil => rfl
  | append_singleton earlier last ih =>
    rw [List.foldl_append, ih]
    cases last <;>
      simp [take, List.filterMap_cons, Argument.path?, Argument.clock?, Argument.scale?,
        Argument.seed?]

/-- Of the values of a flag the last one has to be positive, and the default is used if there is
none. -/
theorem positive_ofLast (flag : Flag) (values : List Int) (default : Int) :
    positive flag (.ofLast values) default =
      if values.getLast?.getD default < 1 then .error (.refused (.notPositive flag))
      else .ok (values.getLast?.getD default) := by
  unfold positive Setting.ofLast
  cases values.getLast? with
  | none => rfl
  | some value => rfl

end Settings

namespace Argument

/-- The last clock that arguments give, or the default. -/
def lastClock (arguments : List Argument) : Int :=
  (arguments.filterMap clock?).getLast?.getD 600

/-- The last scale that arguments give, or the default. -/
def lastScale (arguments : List Argument) : Int :=
  (arguments.filterMap scale?).getLast?.getD 15

/-- What arguments come to: there has to be a path, the last clock and the last scale have to be
positive, and the last value of every flag counts. -/
def outcome (arguments : List Argument) : Except Failure Options :=
  match (arguments.filterMap path?).getLast? with
  | none => .error (.refused (.required .file))
  | some path =>
    if lastClock arguments < 1 then .error (.refused (.notPositive .clock))
    else if lastScale arguments < 1 then .error (.refused (.notPositive .scale))
    else
      .ok ⟨some path, lastClock arguments, lastScale arguments,
        .ofLast (arguments.filterMap seed?)⟩

/-- What the user is told when arguments come to nothing. -/
def complaint (arguments : List Argument) : String :=
  if arguments.filterMap path? = [] then "the following arguments are required: -f/--file"
  else if lastClock arguments < 1 then "--clock must be a positive number"
  else "--scale must be a positive number"

variable {arguments : List Argument}

/-- The settings that arguments leave are checked. -/
theorem finish_foldl_take :
    (arguments.foldl Settings.take .initial).finish = outcome arguments := by
  have defaultScale : ((Window.defaultScale : Nat) : Int) = 15 := rfl
  rw [Settings.foldl_take, Settings.finish, Settings.positive_ofLast, Settings.positive_ofLast,
    defaultClock, defaultScale]
  unfold Settings.program Setting.ofLast outcome lastClock lastScale
  cases (arguments.filterMap path?).getLast? with
  | none => rfl
  | some path =>
    simp only [ne_eq, not_true_eq_false, if_false]
    split
    · rfl
    · split
      · rfl
      · rfl

/-- The words of arguments are read as what the arguments come to. -/
theorem parse_texts : parse (arguments.map text) = outcome arguments := by
  rw [parse, classifyAll_texts, ok_bind, Settings.readAll_words]
  exact finish_foldl_take

/-- Arguments that come to nothing are refused as wrong, with a complaint. -/
theorem refused_of_outcome {failure : Failure} (failed : outcome arguments = .error failure) :
    ∃ refusal, failure = .refused refusal ∧ refusal.code = 2 ∧ refusal.output = "" ∧
      refusal.errors = usage ++ "chip8_emulator.py: error: " ++ complaint arguments ++ "\n" := by
  unfold outcome at failed
  split at failed
  · next none =>
    obtain rfl := Except.error.inj failed
    refine ⟨_, rfl, rfl, rfl, ?_⟩
    rw [complaint, if_pos (List.getLast?_eq_none_iff.mp none)]
    rfl
  · next path last =>
    have given : arguments.filterMap path? ≠ [] := by
      intro none
      rw [none] at last
      cases last
    split at failed
    · next clock =>
      obtain rfl := Except.error.inj failed
      refine ⟨_, rfl, rfl, rfl, ?_⟩
      rw [complaint, if_neg given, if_pos clock]
      rfl
    · next clock =>
      split at failed
      · obtain rfl := Except.error.inj failed
        refine ⟨_, rfl, rfl, rfl, ?_⟩
        rw [complaint, if_neg given, if_neg clock]
        rfl
      · cases failed

/-- The values of a flag are told from its arguments. -/
theorem filterMap_filter_flag {α : Type} {value? : Argument → Option α} {flag : Flag}
    (only : ∀ argument, argument.flag ≠ flag → value? argument = none) (arguments : List Argument) :
    (arguments.filter fun argument => argument.flag = flag).filterMap value? =
      arguments.filterMap value? := by
  rw [List.filterMap_filter]
  refine List.filterMap_congr fun argument _ => ?_
  split
  · rfl
  · next other => exact (only argument (by simpa using other)).symm

/-- What arguments come to depends on the order of the arguments of each flag only. -/
theorem outcome_congr {other : List Argument}
    (same : ∀ flag, arguments.filter (fun argument => argument.flag = flag) =
      other.filter fun argument => argument.flag = flag) :
    outcome arguments = outcome other := by
  have values : ∀ {α : Type} {value? : Argument → Option α} (flag : Flag),
      (∀ argument, argument.flag ≠ flag → value? argument = none) →
        arguments.filterMap value? = other.filterMap value? := by
    intro α value? flag only
    rw [← filterMap_filter_flag only, same flag, filterMap_filter_flag only]
  have paths : arguments.filterMap path? = other.filterMap path? :=
    values .file fun
      | file .., apart => absurd rfl apart
      | clock _, _ | scale _, _ | seed _, _ => rfl
  have clocks : arguments.filterMap clock? = other.filterMap clock? :=
    values .clock fun
      | clock _, apart => absurd rfl apart
      | file .., _ | scale _, _ | seed _, _ => rfl
  have scales : arguments.filterMap scale? = other.filterMap scale? :=
    values .scale fun
      | scale _, apart => absurd rfl apart
      | file .., _ | clock _, _ | seed _, _ => rfl
  have seeds : arguments.filterMap seed? = other.filterMap seed? :=
    values .seed fun
      | seed _, apart => absurd rfl apart
      | file .., _ | clock _, _ | scale _, _ => rfl
  unfold outcome lastClock lastScale
  rw [paths, clocks, scales, seeds]

end Argument

/-- **The last values count.** A command line of values that are attached to long names, in any
order and with any repetitions, sets every flag to its last value. It is refused if no path is among
them, or else if the last clock is not positive, or else if the last scale is not, with a complaint
and code two; values that are replaced later are not judged. So a command line with the same
arguments for each flag in the same order comes to the same. -/
theorem parse_arguments (arguments : List Argument) :
    parse (arguments.map Argument.text) = Argument.outcome arguments ∧
      (∀ failure, parse (arguments.map Argument.text) = .error failure →
        ∃ refusal, failure = .refused refusal ∧ refusal.code = 2 ∧ refusal.output = "" ∧
          refusal.errors =
            usage ++ "chip8_emulator.py: error: " ++ Argument.complaint arguments ++ "\n") ∧
      ∀ other : List Argument,
        (∀ flag, arguments.filter (fun argument => argument.flag = flag) =
          other.filter fun argument => argument.flag = flag) →
        parse (other.map Argument.text) = parse (arguments.map Argument.text) := by
  rw [Argument.parse_texts]
  refine ⟨rfl, fun failure => Argument.refused_of_outcome, fun other same => ?_⟩
  rw [Argument.parse_texts, Argument.outcome_congr same]

/-- A clock that is not positive and, behind the path, one that is. -/
def belated : List Argument :=
  [.clock ⟨true, ['5'], by simp, by simp, by simp⟩, .file "-a=b c" (by decide),
    .clock ⟨false, ['0', '7', '0'], by simp, by simp, by simp⟩]

/-- The same with the path in front. -/
def early : List Argument :=
  [.file "-a=b c" (by decide), .clock ⟨true, ['5'], by simp, by simp, by simp⟩,
    .clock ⟨false, ['0', '7', '0'], by simp, by simp, by simp⟩]

/-- The positive clock replaces the other one, and without a path neither of them counts. -/
theorem parse_arguments_belated :
    parse ["--clock=-5", "--file=-a=b c", "--clock=070"] = .ok ⟨some "-a=b c", 70, 15, .absent⟩ ∧
      parse ["--file=-a=b c", "--clock=-5", "--clock=070"] = .ok ⟨some "-a=b c", 70, 15, .absent⟩ ∧
      ∃ refusal, parse ["--clock=-5"] = .error (.refused refusal) ∧ refusal.code = 2 ∧
        refusal.errors =
          usage ++ "chip8_emulator.py: error: " ++
            "the following arguments are required: -f/--file" ++ "\n" := by
  obtain ⟨last, -, reordered⟩ := parse_arguments belated
  have accepted : parse ["--clock=-5", "--file=-a=b c", "--clock=070"] =
      .ok ⟨some "-a=b c", 70, 15, .absent⟩ := last
  refine ⟨accepted, ?_, ?_⟩
  · exact (reordered early fun flag => by cases flag <;> rfl).trans accepted
  · obtain ⟨pathless, refused, -⟩ := parse_arguments (belated.take 1)
    obtain ⟨refusal, same, code, -, errors⟩ := refused _ pathless
    exact ⟨refusal, pathless.trans (congrArg Except.error same), code, errors⟩

end ChipEight.CommandLine
