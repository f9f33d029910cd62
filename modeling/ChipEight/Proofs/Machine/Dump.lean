import ChipEight.Machine.Dump
import ChipEight.Proofs.CallStack
import ChipEight.Proofs.Text.Listing

/-!
# Reading a dump

The values in a dump have no fixed width, and neither have its two lists. Still they do not run
together: a bar or the end of a line closes each part of the dump, and neither of the two stands in
a value. So the dump falls into its parts, and each part is a label with one value behind it that
can be read back.

## Main definitions

* `Machine.isMark`, `Machine.closed` — parts of a text, closed by marks
* `Machine.parts` — the parts of the dump of a machine

## Main results

* `Machine.splitOnP_closed` — a text falls into its parts at the marks
* `Machine.toList_dump` — a dump consists of its parts
* `Machine.dump_eq_iff_parts` — a dump tells its parts
* `Machine.dump_tells` — a dump tells the state that is printed in it, and nothing else
-/

namespace ChipEight.Machine

variable {σ τ : Type}

/-! ## Parts and marks -/

/-- The characters that close the parts of a dump. -/
def isMark (c : Char) : Bool :=
  c == '|' || c == '\n'

/-- Parts of a text, each with its mark behind it. The last part is not closed. -/
def closed : List Char → List (List Char) → List Char
  | mark :: marks, part :: parts => part ++ mark :: closed marks parts
  | _, parts => parts.flatten

/-- A text without marks. -/
def Unmarked (s : List Char) : Prop :=
  ∀ c ∈ s, isMark c = false

/-- A text falls into its parts at the marks when no mark stands in a part. -/
theorem splitOnP_closed {marks : List Char} {parts : List (List Char)}
    (allMarks : ∀ c ∈ marks, isMark c = true)
    (unmarked : ∀ part ∈ parts, Unmarked part) (one_more : parts.length = marks.length + 1) :
    (closed marks parts).splitOnP isMark = parts := by
  induction marks generalizing parts with
  | nil =>
    obtain ⟨part, rfl⟩ := List.length_eq_one_iff.mp one_more
    rw [show closed [] [part] = part from List.flatten_singleton]
    exact List.splitOnP_eq_singleton (unmarked part (List.mem_singleton_self part))
  | cons mark marks ih =>
    obtain ⟨part, rest, rfl⟩ := List.exists_cons_of_length_eq_add_one one_more
    have behind := ih (fun c member => allMarks c (List.mem_cons_of_mem _ member))
      (fun part member => unmarked part (List.mem_cons_of_mem _ member)) (Nat.succ.inj one_more)
    rw [closed, List.splitOnP_append_cons_of_forall_mem (unmarked part (List.mem_cons_self ..)) mark
      (allMarks mark (List.mem_cons_self ..)), behind]

theorem isMark_of_isAlphanum {c : Char} (figure : c.isAlphanum = true) : isMark c = false := by
  refine Bool.eq_false_iff.mpr fun mark => ?_
  rcases (Bool.or_eq_true ..).mp mark with bar | line
  · rw [eq_of_beq bar] at figure
    exact absurd figure (by decide)
  · rw [eq_of_beq line] at figure
    exact absurd figure (by decide)

theorem unmarked_hex (width : Nat) (n : Int) : Unmarked (Text.hex width n).toList := by
  intro c member
  rcases Text.isAlphanum_of_mem_hex member with rfl | figure
  · rfl
  · exact isMark_of_isAlphanum figure

theorem unmarked_toString (n : Nat) : Unmarked (toString n).toList := fun _ member =>
  isMark_of_isAlphanum (Text.isAlphanum_of_mem_toString member)

theorem unmarked_bracketed {items : List String} (unmarked : ∀ item ∈ items, Unmarked item.toList) :
    Unmarked (Text.bracketed items).toList := by
  intro c member
  rcases Text.mem_bracketed member with frame | ⟨item, inItems, inItem⟩
  · have all : ∀ c ∈ ['[', ',', ' ', ']'], isMark c = false := by simp [isMark]
    exact all c frame
  · exact unmarked item inItems c inItem

/-! ## The parts of a dump -/

/-- A part of a dump: a value between its label and a gap. -/
def part (label value gap : String) : List Char :=
  label.toList ++ (value.toList ++ gap.toList)

/-- The text of a draw flag. -/
def flagText (drawn : Bool) : String :=
  if drawn then "True" else "False"

/-- The parts of the dump of a machine. -/
def parts (m : Machine σ) : List (List Char) := [
  part "PC_REGISTER:0x" (Text.hex 4 m.pc) " ",
  part " IDX_REGISTER:0x" (Text.hex 4 m.index) " ",
  part " VARIABLE_REGISTERS:" (listText m.registers.toList) "",
  part "STACK:" m.stack.text " ",
  part " DEPTH:" (toString m.stack.depth) "",
  part "DELAY_TIMER:" (toString m.delay) " ",
  part " SOUND_TIMER:" (toString m.sound) "",
  part "DRAW: " (flagText m.drawn) ""
]

/-- The marks of a dump: its first line has three parts, the next two have two, and the last line
has one. -/
def marks : List Char := ['|', '|', '\n', '|', '\n', '|', '\n']

/-- A dump consists of its parts. -/
theorem toList_dump (m : Machine σ) : m.dump.toList = closed marks m.parts := by
  have same (s : String) : toString s = s := rfl
  have index : " | IDX_REGISTER:0x".toList = ' ' :: '|' :: " IDX_REGISTER:0x".toList := rfl
  have registers :
      " | VARIABLE_REGISTERS:".toList = ' ' :: '|' :: " VARIABLE_REGISTERS:".toList := rfl
  have depth : " | DEPTH:".toList = ' ' :: '|' :: " DEPTH:".toList := rfl
  have sound : " | SOUND_TIMER:".toList = ' ' :: '|' :: " SOUND_TIMER:".toList := rfl
  have line : "\n".toList = ['\n'] := rfl
  have blank : " ".toList = [' '] := rfl
  have none : "".toList = [] := rfl
  unfold dump
  simp only [same, String.toList_append, index, registers, depth, sound, line, blank, none, marks,
    parts, closed, part, flagText, List.flatten_singleton, List.append_assoc, List.cons_append,
    List.nil_append, List.append_nil]

theorem unmarked_part {label value gap : String} (frame : Unmarked (label.toList ++ gap.toList))
    (inside : Unmarked value.toList) : Unmarked (part label value gap) := by
  obtain ⟨before, behind⟩ := List.forall_mem_append.mp frame
  exact List.forall_mem_append.mpr ⟨before, List.forall_mem_append.mpr ⟨inside, behind⟩⟩

theorem unmarked_listText (numbers : List Nat) : Unmarked (listText numbers).toList := by
  refine unmarked_bracketed fun item member => ?_
  obtain ⟨n, -, rfl⟩ := List.mem_map.mp member
  exact unmarked_toString n

theorem unmarked_text (stack : CallStack) : Unmarked stack.text.toList := by
  refine unmarked_bracketed fun item member => ?_
  obtain ⟨address, -, rfl⟩ := List.mem_map.mp member
  rw [Text.toList_mark]
  exact List.forall_mem_cons.mpr ⟨rfl, List.forall_mem_cons.mpr ⟨rfl, unmarked_hex 4 address⟩⟩

theorem unmarked_flagText (drawn : Bool) : Unmarked (flagText drawn).toList := by
  cases drawn <;> simp [flagText, Unmarked, isMark]

/-- No mark stands in a part of a dump. -/
theorem unmarked_parts (m : Machine σ) : ∀ part ∈ m.parts, Unmarked part := by
  simp only [parts, List.forall_mem_cons, List.not_mem_nil, false_implies, implies_true, and_true]
  refine ⟨unmarked_part ?_ (unmarked_hex 4 _), unmarked_part ?_ (unmarked_hex 4 _),
    unmarked_part ?_ (unmarked_listText _), unmarked_part ?_ (unmarked_text _),
    unmarked_part ?_ (unmarked_toString _), unmarked_part ?_ (unmarked_toString _),
    unmarked_part ?_ (unmarked_toString _), unmarked_part ?_ (unmarked_flagText _)⟩
  all_goals simp [Unmarked, isMark]

/-- A dump tells its parts. -/
theorem dump_eq_iff_parts {a : Machine σ} {b : Machine τ} :
    a.dump = b.dump ↔ a.parts = b.parts := by
  have back : ∀ {υ : Type} (m : Machine υ), m.dump.toList.splitOnP isMark = m.parts := fun m => by
    rw [toList_dump]
    exact splitOnP_closed (by simp [marks, isMark]) (unmarked_parts m) rfl
  constructor
  · intro same
    rw [← back a, same, back b]
  · intro same
    rw [← String.toList_inj, toList_dump, same, toList_dump]

/-! ## The values in a dump -/

theorem part_inj {label value other gap : String} :
    part label value gap = part label other gap ↔ value = other := by
  rw [part, part, List.append_right_inj, List.append_left_inj, String.toList_inj]

theorem listText_inj {numbers others : List Nat} :
    listText numbers = listText others ↔ numbers = others := by
  have back : ∀ numbers, (Text.items (listText numbers)).map (Text.ofDigits 10) = numbers :=
    Text.ofDigits_items
  refine ⟨fun same => ?_, congrArg _⟩
  rw [← back numbers, same, back others]

theorem flagText_inj {drawn other : Bool} : flagText drawn = flagText other ↔ drawn = other := by
  refine ⟨fun same => ?_, congrArg _⟩
  cases drawn <;> cases other
  · rfl
  · exact absurd same (by decide)
  · exact absurd same (by decide)
  · rfl

/-- The parts tell the values in them. The depth need not be read, as it is the number of the
addresses. -/
theorem parts_eq_iff {a : Machine σ} {b : Machine τ} :
    a.parts = b.parts ↔
      a.pc = b.pc ∧ a.index = b.index ∧ a.registers = b.registers ∧
        a.stack.toList = b.stack.toList ∧ a.delay = b.delay ∧ a.sound = b.sound ∧
        a.drawn = b.drawn := by
  simp only [parts, List.cons.injEq, part_inj, Text.hex_inj, Text.toString_inj, listText_inj,
    flagText_inj, CallStack.text_eq_iff, Int.natCast_inj, Vector.toList_inj,
    ← CallStack.length_toList, and_true]
  constructor
  · rintro ⟨pc, index, registers, stack, -, timers⟩
    exact ⟨pc, index, registers, stack, timers⟩
  · rintro ⟨pc, index, registers, stack, timers⟩
    exact ⟨pc, index, registers, stack, congrArg List.length stack, timers⟩

/-- **A dump tells the state that is printed in it, and nothing else.** Two machines have the same
dump if and only if they have the same program counter, index, registers, return addresses in use,
timers and draw flag; they have the same depth then, too. So a machine keeps its dump when its
memory, its display, its keypad, its source of random bytes or the stale slots of its stack are
exchanged for others. -/
theorem dump_tells (a : Machine σ) (b : Machine τ) :
    (a.dump = b.dump ↔
      a.pc = b.pc ∧ a.index = b.index ∧ a.registers = b.registers ∧
        a.stack.toList = b.stack.toList ∧ a.delay = b.delay ∧ a.sound = b.sound ∧
        a.drawn = b.drawn) ∧
      (a.dump = b.dump → a.stack.depth = b.stack.depth) ∧
      ∀ memory display keypad (source : τ) stack, stack.toList = a.stack.toList →
        { a with memory, display, keypad, source, stack }.dump = a.dump := by
  refine ⟨dump_eq_iff_parts.trans parts_eq_iff, fun same => ?_,
    fun memory display keypad source stack live => ?_⟩
  · obtain ⟨-, -, -, stack, -⟩ := parts_eq_iff.mp (dump_eq_iff_parts.mp same)
    rw [← CallStack.length_toList, stack, CallStack.length_toList]
  · exact dump_eq_iff_parts.mpr (parts_eq_iff.mpr ⟨rfl, rfl, rfl, live, rfl, rfl, rfl⟩)

/-- A stack that is empty again after calls, with an address still in its slots. -/
def spent : CallStack :=
  { CallStack.empty with slots := Vector.replicate 16 0x202 }

/-- The address is not in a dump. Timers are told apart in it even if they have the same digits in a
row. -/
theorem dump_tells_apart :
    let m := fresh (Tape.ofList [])
    spent.slots ≠ m.stack.slots ∧
      { m with stack := spent, memory := m.memory.write 0 1, source := () }.dump = m.dump ∧
      { m with delay := 1, sound := 11 }.dump ≠ { m with delay := 11, sound := 1 }.dump := by
  intro m
  obtain ⟨told, -, -⟩ :=
    dump_tells { m with delay := 1, sound := 11 } { m with delay := 11, sound := 1 }
  obtain ⟨-, -, kept⟩ := dump_tells m { m with source := () }
  refine ⟨by decide, kept _ _ _ () spent rfl, fun same => ?_⟩
  obtain ⟨-, -, -, -, delay, -⟩ := told.mp same
  exact absurd delay (by decide)

end ChipEight.Machine
