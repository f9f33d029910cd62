import ChipEight.Proofs.Machine.Straight
import ChipEight.Proofs.Session.Exit
import ChipEight.Proofs.Session.Shown

/-!
# What a crash shows and reports

The two kinds of crashes differ in two ways. A session that meets an unknown word shows what was
drawn before it ends, and its report names the address of the word. A call or return that is refused
ends the session at once. What was drawn in the same frame is not shown then, and the report has the
address behind the word, where the machine is left.

## Main definitions

* `Session.Names` — a report has an address in it
* `Session.CrashesAt` — a machine at the cycle that makes a session crash

## Main results

* `Session.picture_at_crash` — the last picture of a session that crashes
* `Session.names_crashReport` — a report names the address at which the machine is left
* `Session.exists_crashesAt` — a crash comes from a cycle that executes no instruction
* `Session.report_at_crash` — the report of a session that crashes
-/

namespace ChipEight.Session

variable {σ : Type} [ByteSource σ] {scale : Nat}

/-! ## The last picture -/

namespace Stage

variable {stage : Stage σ scale}

/-- A frame with an unknown word ends the session with a report of it. -/
theorem exit?_of_unknown (visible : 0 < scale) {address opcode : Int}
    (ending : stage.frame.ending = .unknown address opcode) :
    stage.exit? =
      some (.crashed (stage.after.machine.crashReport (unknownReason address opcode))) := by
  obtain ⟨next, stepped, -, -⟩ := step_of_crashReason visible (congrArg Ending.crashReason? ending)
  rw [exit?, after, stepped]

/-- A refused frame ends the session as it is when the machine has run its cycles. -/
theorem step_of_refused {fault : Fault} (ending : stage.frame.ending = .refused fault) :
    stage.before.step stage.cycles stage.events =
      (stage.played, some (.crashed (stage.played.machine.crashReport fault.message))) := by
  rw [step_eq, ending]
  exact if_pos (Machine.kind_of_frame_refused ending)

end Stage

/-- **The last picture.** Let a program that fits be loaded into a new machine, and let a session be
played with it. There is a picture that was shown last. If the session crashes at an unknown word,
this picture is the display of the machine, with all that was drawn in the last frame. If it crashes
because a call or return is refused, nothing was shown in the last frame: the picture is the display
as it was before the frame, and it is the display of the machine only if the frame has left that as
it was. -/
theorem picture_at_crash (source : σ) {rom : Rom} (fits : rom.size ≤ 0xE00) (clock : Int)
    (visible : 1 ≤ scale) (script : List (List HostEvent)) :
    ∃ machine, (Machine.fresh source).loadRom rom = .ok machine ∧
      ∃ last, ((start machine scale).stages (cyclesPerFrame clock) script).getLast? = some last ∧
        (start machine scale).play (cyclesPerFrame clock) script =
          (last.after, last.exit?.getD .quit) ∧
        ∃ flip, last.after.flips.head? = some flip ∧
          (∀ address opcode, last.frame.ending = .unknown address opcode →
            last.exit? = some (.crashed
                (last.after.machine.crashReport (unknownReason address opcode))) ∧
              flip.picture.Shows last.after.machine.display) ∧
          ∀ fault, last.frame.ending = .refused fault →
            last.exit? = some (.crashed (last.after.machine.crashReport fault.message)) ∧
              last.after.flips = last.before.flips ∧
              flip.picture.Shows last.before.machine.display ∧
              (flip.picture.Shows last.after.machine.display ↔
                last.after.machine.display = last.before.machine.display) := by
  obtain ⟨machine, loaded⟩ := Machine.exists_loadRom source fits
  obtain ⟨memory, -, rfl⟩ := Machine.loadRom_fresh loaded
  obtain ⟨last, isLast, played⟩ :=
    exists_play_eq (start { Machine.fresh source with memory } scale) (cyclesPerFrame clock) script
  have before : last.before.UpToDate :=
    (UpToDate.start rfl scale).of_mem_stages visible last (List.mem_of_getLast? isLast)
  refine ⟨_, loaded, last, isLast, played, ?_⟩
  by_cases refused : ∃ fault, last.frame.ending = .refused fault
  · obtain ⟨fault, ending⟩ := refused
    obtain ⟨flip, isFlip, shows⟩ := before.exists_flip visible
    have stepped := Stage.step_of_refused ending
    have after : last.after = last.played := congrArg Prod.fst stepped
    have exit := congrArg Prod.snd stepped
    have flips : last.after.flips = last.before.flips := by rw [after]; rfl
    refine ⟨flip, flips ▸ isFlip, fun address opcode unknown => ?_, fun other also => ?_⟩
    · rw [ending] at unknown
      cases unknown
    · obtain rfl := Ending.refused.inj (ending.symm.trans also)
      refine ⟨?_, flips, shows, fun shown => shown.display_eq shows, fun same => ?_⟩
      · rw [after]
        exact exit
      · rw [same]
        exact shows
  · have accepted : ∀ fault, last.frame.ending ≠ .refused fault := fun fault ending =>
      refused ⟨fault, ending⟩
    obtain ⟨flip, isFlip, shows⟩ := (before.after visible accepted).exists_flip visible
    refine ⟨flip, isFlip, fun address opcode unknown => ?_, fun fault ending => ?_⟩
    · exact ⟨Stage.exit?_of_unknown visible unknown, shows⟩
    · exact absurd ending (accepted fault)

/-! A new machine draws the first row of the sprite of the digit zero, and then returns in the same
frame. -/

/-- The row lights the upper left pixel. -/
theorem isLit_of_sprite {source : σ} {memory : Memory} {keypad : Keypad} {rom : Rom}
    (loaded : Memory.fresh.loadRom rom = .ok memory) {m : Machine σ}
    (start : m = { Machine.fresh source with memory, keypad })
    (decoded : decode m.fetch = some (.draw 0 0 1)) : m.cycle.2.display.isLit 0 0 = true := by
  have glyph : memory.read 0 = 0xF0 := by
    rw [Memory.read_loadRom loaded, if_neg (by decide), Memory.read_fresh]
    rfl
  have strokes : Stroke.ofSprite (m.fetched.register 0) (m.fetched.register 0) (m.fetched.block 1) =
      Stroke.ofSprite 0 0 [0xF0] := by
    subst start
    exact congrArg (fun byte => Stroke.ofSprite 0 0 [byte]) glyph
  have before : m.fetched.display = .blank _ _ := by
    subst start
    rfl
  have painted : ((Display.blank screenWidth screenHeight).after
      (Stroke.ofSprite 0 0 [0xF0])).isLit 0 0 = true := by
    rw [Display.isLit_after (by decide) (by decide) _ (by decide) (by decide), Display.isLit_blank]
    rfl
  rw [Machine.cycle_of_execute_ok decoded (m.fetched.drawSprite_eq 0 0 1), strokes, before]
  exact painted

/-- The return is refused, and the pixel is still lit then. -/
theorem frame_of_sprite {source : σ} {memory : Memory} {keypad : Keypad}
    (loaded : Memory.fresh.loadRom #[0xD0, 0x01, 0x00, 0xEE] = .ok memory) {m : Machine σ}
    (start : m = { Machine.fresh source with memory, keypad }) :
    (m.frame (cyclesPerFrame 120)).ending = .refused .stackEmpty ∧
      (m.frame (cyclesPerFrame 120)).machine.display.isLit 0 0 = true := by
  obtain ⟨first, second, -⟩ : memory.Holds 0x200 [0xD001, 0x00EE] := Memory.holds_loadRom loaded
  have word : m.fetch = 0xD001 := by
    rw [start]
    exact first
  have decoded : decode m.fetch = some (.draw 0 0 1) := by
    rw [word]
    rfl
  obtain ⟨executed, pc, kept, stack⟩ := Machine.cycle_of_straight decoded (by decide)
  have next : m.cycle.2.fetch = 0x00EE := by
    rw [Machine.fetch, pc, kept, start]
    exact second
  have empty : m.cycle.2.fetched.stack.depth = 0 := by
    change m.cycle.2.stack.depth = 0
    rw [stack, start]
    rfl
  have refused : m.cycle.2.cycle.1 = .error .stackEmpty :=
    Machine.cycle_eq_error_iff.mpr ⟨.ret, by rw [next]; rfl,
      Machine.execute_eq_error_iff.mpr (.inl ⟨rfl, empty, rfl⟩)⟩
  have meets : (m.driven (List.replicate 1 .cycle)).meets = .refused .stackEmpty := by
    rw [Machine.driven_cycles_succ]
    change m.cycle.2.meets = _
    rw [Machine.meets, refused]
  have proceeds : m.Proceeds 1 := Machine.proceeds_succ_iff.mpr
    ⟨⟨_, _, executed⟩, fun _ early => absurd early (Nat.not_lt_zero _)⟩
  have within : 1 < (cyclesPerFrame 120).toNat := by decide
  have stalls : (m.driven (List.replicate 1 .cycle)).meets ≠ .completed := fun completed =>
    Ending.noConfusion (meets.symm.trans completed)
  obtain ⟨ending, course⟩ := proceeds.frame_of_meets within stalls
  refine ⟨ending.trans meets, ?_⟩
  have display : (m.frame (cyclesPerFrame 120)).machine.display = m.cycle.2.display := by
    have last := congrArg Machine.display course
    rw [Machine.driven_cycles_succ, Machine.driven_cycles_succ] at last
    have after := congrArg Machine.display (Machine.cycle_of_error refused)
    exact last.trans after
  rw [display]
  exact isLit_of_sprite loaded start decoded

/-- So the picture that is shown last does not have the row. -/
theorem picture_at_crash_sprite :
    (#[0xD0, 0x01, 0x00, 0xEE] : Rom).size ≤ 0xE00 ∧
      ∃ machine, (Machine.fresh (Tape.ofList [])).loadRom #[0xD0, 0x01, 0x00, 0xEE] = .ok machine ∧
        ∃ last ∈ (start machine 1).stages (cyclesPerFrame 120) [],
          last.frame.ending = .refused .stackEmpty ∧
            ∃ flip, last.after.flips.head? = some flip ∧
              ¬ flip.picture.Shows last.after.machine.display := by
  have fits : (#[0xD0, 0x01, 0x00, 0xEE] : Rom).size ≤ 0xE00 := by decide
  obtain ⟨machine, loaded, last, isLast, -, flip, isFlip, -, told⟩ :=
    picture_at_crash (Tape.ofList []) fits 120 (Nat.le_refl 1) []
  obtain ⟨memory, inMemory, rfl⟩ := Machine.loadRom_fresh loaded
  have member := List.mem_of_getLast? isLast
  have only := List.mem_singleton.mp member
  obtain ⟨ending, lit⟩ : last.frame.ending = .refused .stackEmpty ∧
      last.frame.machine.display.isLit 0 0 = true := by
    have played := frame_of_sprite inMemory (m := { Machine.fresh (Tape.ofList []) with
      memory, keypad := HostEvent.turnAll .released [.quit] }) rfl
    rw [only]
    exact played
  have after : last.after = last.played := congrArg Prod.fst (Stage.step_of_refused ending)
  obtain ⟨-, -, -, shows⟩ := told .stackEmpty ending
  refine ⟨fits, _, loaded, last, member, ending, flip, isFlip, fun shown => ?_⟩
  have dark : last.after.machine.display.isLit 0 0 = false := by
    rw [shows.mp shown, only]
    exact Display.isLit_blank 0 0
  rw [after] at dark
  exact absurd (dark.symm.trans lit) nofun

/-! ## Reports -/

/-- A report names an address: it has the address in it with four hexadecimal digits. -/
def Names (report : String) (address : Int) : Prop :=
  ("0x" ++ Text.hex 4 address).toList <:+: report.toList

namespace Names

variable {text : String} {address : Int}

theorem append_left (names : Names text address) (before : String) :
    Names (before ++ text) address := by
  unfold Names
  rw [String.toList_append (s := before)]
  exact List.infix_append_of_infix_right names

theorem append_right (names : Names text address) (behind : String) :
    Names (text ++ behind) address := by
  unfold Names
  rw [String.toList_append (s := text)]
  exact List.infix_append_of_infix_left names

end Names

omit [ByteSource σ] in
theorem names_dump (m : Machine σ) : Names m.dump m.pc := by
  have first :
      Names s!"PC_REGISTER:0x{Text.hex 4 m.pc} | IDX_REGISTER:0x{Text.hex 4 m.index}" m.pc :=
    ⟨"PC_REGISTER:".toList, (s!" | IDX_REGISTER:0x{Text.hex 4 m.index}").toList,
      by simp [toString]⟩
  exact (((first.append_right _).append_right _).append_right _).append_right _

omit [ByteSource σ] in
/-- The report of a crash names the address at which the machine is left. -/
theorem names_crashReport (m : Machine σ) (reason : String) : Names (m.crashReport reason) m.pc :=
  (names_dump m).append_left _

/-! ## Where a session crashes -/

/-- A machine is at the cycle that makes the session of a command line crash. It has been driven
through all frames before, and through the events and the cycles of its frame that come before, in
which every cycle executes an instruction. -/
inductive CrashesAt (words : List String) (host : Host) : Machine Twister → Prop
  | intro {options : CommandLine.Options} {path : String} {rom : Rom} {seed : Int}
      {machine : Machine Twister} {cycles k i : Nat}
      (accepted : CommandLine.parse words = .ok options) (named : options.file = some path)
      (found : host.files.read path = .ok rom)
      (seeded : options.seed.valueOr? host.entropy = some seed)
      (loaded : (Machine.fresh (Twister.ofSeed seed)).loadRom rom = .ok machine)
      (clocked : cycles = (cyclesPerFrame options.clock).toNat)
      (inTime : k < Script.lastFrame host.events) (inFrame : i < cycles)
      (earlier : ∀ j < k, (machine.driven (Script.stepsInto host.events cycles j)).Proceeds cycles)
      (proceeds : (machine.driven (Script.stepsInto host.events cycles k)).Proceeds i)
      (stalls : (machine.driven
        (Script.stepsInto host.events cycles k ++ List.replicate i .cycle)).meets ≠ .completed) :
      CrashesAt words host
        (machine.driven (Script.stepsInto host.events cycles k ++ List.replicate i .cycle))

/-- A session crashes only when it is played. -/
theorem exists_play_of_crash {words : List String} {host : Host} {report : String}
    (crashed : (launch words host).exit = .crashed report) :
    ∃ options path rom seed machine, CommandLine.parse words = .ok options ∧
      options.file = some path ∧ host.files.read path = .ok rom ∧
      options.seed.valueOr? host.entropy = some seed ∧
      (Machine.fresh (Twister.ofSeed seed)).loadRom rom = .ok machine ∧
      ((start machine options.scale.toNat).play (cyclesPerFrame options.clock) host.events).2 =
        .crashed report := by
  -- whatever else may go wrong before the session is played, it is no crash
  unfold launch at crashed
  split at crashed
  · next failure _ => cases failure <;> cases crashed
  · next options accepted =>
    unfold ofOptions at crashed
    split at crashed
    · cases crashed
    · next path named =>
      split at crashed
      · cases crashed
      · next rom found =>
        unfold ofProgram at crashed
        split at crashed
        · cases crashed
        · next seed seeded =>
          split at crashed
          · cases crashed
          · next machine loaded =>
            exact ⟨options, path, rom, seed, machine, accepted, named, found, seeded, loaded,
              crashed⟩

/-- The machine that a crash leaves is the one behind the cycle that executes nothing, up to the
draw flag. -/
theorem exists_crashesAt {words : List String} {host : Host} {report : String}
    (crashed : (launch words host).exit = .crashed report) :
    ∃ m, CrashesAt words host m ∧ ∃ reason, m.meets.crashReason? = some reason ∧
      ∃ drawn, report = { m.cycle.2 with drawn }.crashReport reason := by
  obtain ⟨options, path, rom, seed, machine, accepted, named, found, seeded, loaded, exited⟩ :=
    exists_play_of_crash crashed
  have visible : 0 < options.scale.toNat := by
    have := (CommandLine.parse_positive accepted).2
    omega
  obtain ⟨after, exit, played, ends⟩ :=
    play_ends visible (start machine options.scale.toNat) (cyclesPerFrame options.clock) host.events
  obtain rfl : exit = .crashed report := (congrArg Prod.snd played).symm.trans exited
  cases ends with
  | crashed k i reason inTime inFrame earlier proceeds meets frames course =>
    have stalls :
        (machine.driven (Script.stepsInto host.events (cyclesPerFrame options.clock).toNat k ++
          List.replicate i .cycle)).meets ≠ .completed := by
      intro completed
      have none := (congrArg Ending.crashReason? completed).symm.trans meets
      cases none
    refine ⟨_, .intro accepted named found seeded loaded rfl inTime inFrame earlier proceeds stalls,
      reason, meets, after.machine.drawn, ?_⟩
    rw [List.replicate_succ', ← List.append_assoc, Machine.driven_append, Machine.driven_cons,
      Machine.driven_nil, Machine.drive_cycle] at course
    have left : after.machine = { after.machine.undrawn with drawn := after.machine.drawn } := rfl
    rw [course] at left
    exact congrArg (Machine.crashReport · reason) left

/-- **The address in a report.** A session that a command line asks for crashes at a cycle of its
machine. If the cycle meets an unknown word, the report has the state of the machine at the word,
and names the address of the word. If a call or return is refused, the report has the state of the
machine behind the word, and names the address there. -/
theorem report_at_crash {words : List String} {host : Host} {report : String}
    (crashed : (launch words host).exit = .crashed report) :
    ∃ m, CrashesAt words host m ∧
      ((m.cycle.1 = .ok (.unknown m.pc m.fetch) ∧
          (∃ drawn, report = { m with drawn }.crashReport (unknownReason m.pc m.fetch)) ∧
          Names report m.pc) ∨
        ∃ fault, m.cycle.1 = .error fault ∧
          (∃ drawn,
            report = { m with pc := (m.pc + 2) % 0x10000, drawn }.crashReport fault.message) ∧
          Names report ((m.pc + 2) % 0x10000)) := by
  obtain ⟨m, site, reason, meets, drawn, text⟩ := exists_crashesAt crashed
  refine ⟨m, site, ?_⟩
  rcases m.cycle_cases with ⟨-, stays⟩ | ⟨_, next, -, -, moves⟩ | ⟨_, fault, -, -, ends⟩
  · have unknown : m.cycle.1 = .ok (.unknown m.pc m.fetch) := congrArg Prod.fst stays
    rw [Machine.meets, unknown] at meets
    obtain rfl := Option.some.inj meets
    rw [stays] at text
    exact .inl ⟨unknown, ⟨drawn, text⟩, text ▸ names_crashReport _ _⟩
  · have executed : m.cycle.1 = .ok (.executed m.pc m.fetch) := congrArg Prod.fst moves
    rw [Machine.meets, executed] at meets
    cases meets
  · have refused : m.cycle.1 = .error fault := congrArg Prod.fst ends
    rw [Machine.meets, refused] at meets
    obtain rfl := Option.some.inj ((if_pos (Machine.kind_of_cycle_error refused)).symm.trans meets)
    rw [ends] at text
    exact .inr ⟨fault, refused, ⟨drawn, text⟩, text ▸ names_crashReport _ _⟩

/-! A program that returns at once crashes at its first cycle, and its report does not name the
address of the word. -/

omit [ByteSource σ] in
theorem not_names_of_blank (m : Machine σ) (pc : m.pc = 0x202) (index : m.index = 0)
    (registers : m.registers = Vector.replicate 16 0) (stack : m.stack = .empty)
    (delay : m.delay = 0) (sound : m.sound = 0) :
    ¬ Names (m.crashReport Fault.stackEmpty.message) 0x200 := by
  have listed : Machine.listText (Vector.replicate 16 0).toList =
      "[0, 0, 0, 0, 0, 0, 0, 0, 0, 0, 0, 0, 0, 0, 0, 0]" := rfl
  have text : CallStack.empty.text = "[]" := rfl
  have shown : Text.hex 4 0x202 = "0202" := rfl
  have address : Text.hex 4 0x200 = "0200" := rfl
  have start : Text.hex 4 (0 : Nat) = "0000" := rfl
  have zero : toString (0 : Nat) = "0" := rfl
  have depth : CallStack.empty.depth = 0 := rfl
  have message : Fault.stackEmpty.message =
      "Cannot return from a subroutine, the CHIP-8 stack is empty" := rfl
  have same (s : String) : toString s = s := rfl
  unfold Names Machine.crashReport Machine.dump
  rw [pc, index, registers, stack, delay, sound, listed, text, shown, address, start, depth]
  rw [message, zero]
  simp only [same, String.toList_append, String.reduceToList]
  cases m.drawn
  · simp only [Bool.false_eq_true, if_false, String.reduceToList]
    decide +kernel
  · simp only [if_true, String.reduceToList]
    decide +kernel

theorem hasty_crashes :
    ∃ report, (launch ["--file=a", "--clock=60"] hastyHost).exit = .crashed report := by
  obtain ⟨machine, loaded⟩ : ∃ machine,
      (Machine.fresh (Twister.ofSeed 0)).loadRom #[0x00, 0xEE] = .ok machine :=
    Machine.exists_loadRom _ (by decide)
  obtain ⟨after, exit, played, ends⟩ :=
    play_ends (by decide) (start machine 15) (cyclesPerFrame 60) []
  have exits : (launch ["--file=a", "--clock=60"] hastyHost).exit = exit := by
    rw [launch_eq_present hasty_parse rfl hasty_read rfl loaded]
    exact congrArg Prod.snd played
  rw [exits]
  cases ends with
  | quit proceeds =>
    have completed := proceeds 0 (Script.lastFrame_pos []) 0 (by decide)
    exact absurd ((hasty_meets loaded).symm.trans completed) nofun
  | crashed => exact ⟨_, rfl⟩

theorem hasty_crashesAt {m : Machine Twister}
    (site : CrashesAt ["--file=a", "--clock=60"] hastyHost m) :
    m.meets = .refused .stackEmpty ∧
      ∃ source memory keypad, m = { Machine.fresh source with memory, keypad } := by
  obtain ⟨accepted, named, found, -, loaded, clocked, inTime, inFrame, -, -, -⟩ := site
  obtain rfl := Except.ok.inj (hasty_parse.symm.trans accepted)
  obtain rfl := Option.some.inj named
  obtain rfl := Except.ok.inj (hasty_read.symm.trans found)
  obtain rfl := Nat.lt_one_iff.mp inTime
  obtain rfl := clocked.trans (show (cyclesPerFrame 60).toNat = 1 by decide)
  obtain rfl := Nat.lt_one_iff.mp inFrame
  rw [List.replicate_zero, List.append_nil]
  refine ⟨hasty_meets loaded, ?_⟩
  generalize Twister.ofSeed _ = source at loaded
  obtain ⟨memory, -, rfl⟩ := Machine.loadRom_fresh loaded
  rw [Script.stepsInto_zero, Machine.driven_events]
  exact ⟨source, memory, _, rfl⟩

/-- The report has the address behind the word, and not that of the word. -/
theorem report_at_crash_hasty :
    ∃ report, (launch ["--file=a", "--clock=60"] hastyHost).exit = .crashed report ∧
      ∃ m, CrashesAt ["--file=a", "--clock=60"] hastyHost m ∧ m.pc = 0x200 ∧
        m.cycle.1 = .error .stackEmpty ∧ Names report 0x202 ∧ ¬ Names report 0x200 := by
  obtain ⟨report, crashed⟩ := hasty_crashes
  obtain ⟨m, site, ⟨unknown, -⟩ | ⟨fault, refused, ⟨drawn, text⟩, names⟩⟩ := report_at_crash crashed
  · have meets := (hasty_crashesAt site).1
    rw [Machine.meets, unknown] at meets
    cases meets
  · obtain ⟨meets, source, memory, keypad, rfl⟩ := hasty_crashesAt site
    rw [Machine.meets, refused] at meets
    obtain rfl := Ending.refused.inj meets
    refine ⟨report, crashed, _, site, rfl, refused, names, ?_⟩
    rw [text]
    exact not_names_of_blank _ rfl rfl rfl rfl rfl rfl

end ChipEight.Session
