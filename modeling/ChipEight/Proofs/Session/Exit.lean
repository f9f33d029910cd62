import ChipEight.Proofs.CommandLine.Parse
import ChipEight.Proofs.Machine.Call
import ChipEight.Proofs.Machine.Load
import ChipEight.Proofs.Session.Script
import ChipEight.Proofs.Session.Stage

/-!
# How a session ends

Several things can end a session: the host quits, a cycle meets an unknown word, or a call or return
is refused. A crash counts before a wish to quit of the same frame, and a frame that crashes has no
step of the timers. Nothing else ends a session, as events and pictures are never refused.

## Main definitions

* `Ending.crashReason?` — the reason in the report of a crash
* `Session.Ends` — the two ways in which a session ends, with all that has happened until then
* `Session.Advances` — a frame after which a session goes on

## Main results

* `Session.step_of_proceeds`, `Session.exists_ends_of_stall` — a frame as the machine before it is
  driven
* `Session.step_cases` — the first frame of a session ends it or advances it
* `Session.Ends.cons` — a frame that advances a session goes in front of what comes later
* `Session.play_ends` — every session that is played ends in one of the two ways
* `Session.launch_ends` — so does the session that a command line asks for, unless its file or its
  seed lacks a value
-/

namespace ChipEight

/-- The reason that the report of a crash gives for the ending of a frame; a frame that is
completed, or refused for something else than the stack, gives none. -/
def Ending.crashReason? : Ending → Option String
  | completed => none
  | unknown address opcode => some (Session.unknownReason address opcode)
  | refused fault => if fault.kind = .stack then some fault.message else none

/-- A cycle that executes no instruction makes the session crash. -/
theorem Machine.exists_crashReason {σ : Type} [ByteSource σ] {m : Machine σ}
    (stalls : m.meets ≠ .completed) : ∃ reason, m.meets.crashReason? = some reason := by
  unfold meets at stalls ⊢
  split at stalls
  · exact absurd rfl stalls
  · next address opcode _ => exact ⟨_, rfl⟩
  · next fault refused => exact ⟨fault.message, if_pos (kind_of_cycle_error refused)⟩

namespace Session

variable {σ : Type} [ByteSource σ] {scale : Nat}

/-- How a session ends that is played for a script, as seen from the machine before, which is driven
through the script one frame after the other. Frames and cycles are counted from zero. -/
inductive Ends (before : Session σ scale) (cycles : Nat) (script : Script)
    (after : Session σ scale) : Exit → Prop
  /-- All cycles up to the end of the frame in which the host quits execute an instruction. -/
  | quit
      (proceeds : ∀ k < script.lastFrame,
        (before.machine.driven (script.stepsInto cycles k)).Proceeds cycles)
      (frames : after.frames = before.frames + script.lastFrame)
      (results : after.results.length = before.results.length + script.lastFrame * cycles)
      (machine : after.machine.undrawn =
        (before.machine.driven (script.steps cycles script.lastFrame)).undrawn) :
      Ends before cycles script after .quit
  /-- Cycle `i` of frame `k` is the first one that executes no instruction. -/
  | crashed (k i : Nat) (reason : String) (inTime : k < script.lastFrame) (inFrame : i < cycles)
      (earlier : ∀ j < k, (before.machine.driven (script.stepsInto cycles j)).Proceeds cycles)
      (proceeds : (before.machine.driven (script.stepsInto cycles k)).Proceeds i)
      (meets : (before.machine.driven
        (script.stepsInto cycles k ++ List.replicate i .cycle)).meets.crashReason? = some reason)
      (frames : after.frames = before.frames + k + 1)
      (machine : after.machine.undrawn =
        (before.machine.driven
          (script.stepsInto cycles k ++ List.replicate (i + 1) .cycle)).undrawn) :
      Ends before cycles script after (.crashed (after.machine.crashReport reason))

/-- A frame after which a session goes on: all its cycles execute an instruction, and the host does
not ask to quit. -/
structure Advances (before : Session σ scale) (cycles : Nat) (events : List HostEvent)
    (after : Session σ scale) : Prop where
  goesOn : HostEvent.quits events = false
  proceeds : (before.machine.driven (events.map .event)).Proceeds cycles
  frames : after.frames = before.frames + 1
  results : after.results.length = before.results.length + cycles
  machine : after.machine.undrawn =
    (before.machine.driven (Script.frameSteps cycles events)).undrawn

/-! ## One frame -/

omit [ByteSource σ] in
/-- Showing what was drawn is never refused, and changes nothing but the window and the pictures. -/
theorem exists_refresh_eq (visible : 0 < scale) (session : Session σ scale) :
    ∃ next, session.refresh = (.ok (), next) ∧ next.machine = session.machine ∧
      next.frames = session.frames ∧ next.results = session.results := by
  cases drawn : session.machine.drawn with
  | false => exact ⟨session, refresh_of_still session drawn, rfl, rfl, rfl⟩
  | true =>
    obtain ⟨window, -, refreshed⟩ := exists_refresh visible session drawn
    exact ⟨_, refreshed, rfl, rfl, rfl⟩

namespace Stage

variable {stage : Stage σ scale}

theorem frame_eq (stage : Stage σ scale) :
    stage.frame = (stage.before.machine.driven (stage.events.map .event)).frame stage.cycles := by
  rw [Machine.driven_events]
  rfl

/-- A frame in which all cycles execute an instruction ends a session only if the host quits. -/
theorem step_of_completed (visible : 0 < scale) (completed : stage.frame.ending = .completed) :
    ∃ next : Session σ scale,
      stage.before.step stage.cycles stage.events =
          (next, if HostEvent.quits stage.events then some .quit else none) ∧
        next.machine = stage.frame.machine ∧ next.frames = stage.before.frames + 1 ∧
        next.results = stage.before.results ++ stage.frame.results := by
  obtain ⟨next, refreshed, machine, frames, results⟩ := exists_refresh_eq visible stage.played
  refine ⟨next, ?_, machine, frames, results⟩
  rw [step_eq, completed, refreshed, HostEvent.all_goesOn]
  cases HostEvent.quits stage.events <;> rfl

/-- A frame with a cycle that executes no instruction makes the session crash, whatever the host
asks for. -/
theorem step_of_crashReason (visible : 0 < scale) {reason : String}
    (crashes : stage.frame.ending.crashReason? = some reason) :
    ∃ next : Session σ scale,
      stage.before.step stage.cycles stage.events =
          (next, some (.crashed (next.machine.crashReport reason))) ∧
        next.machine = stage.frame.machine ∧ next.frames = stage.before.frames + 1 := by
  rw [step_eq]
  cases ending : stage.frame.ending with
  | completed =>
    rw [ending] at crashes
    cases crashes
  | unknown address opcode =>
    rw [ending] at crashes
    obtain rfl := Option.some.inj crashes
    obtain ⟨next, refreshed, machine, frames, -⟩ := exists_refresh_eq visible stage.played
    refine ⟨next, ?_, machine, frames⟩
    rw [refreshed]
  | refused fault =>
    rw [ending] at crashes
    have onStack : fault.kind = .stack := Machine.kind_of_frame_refused ending
    obtain rfl := Option.some.inj ((if_pos onStack).symm.trans crashes)
    exact ⟨stage.played, if_pos onStack, rfl, rfl⟩

end Stage

/-- A frame in which all cycles execute an instruction, as the machine before it is driven. -/
theorem step_of_proceeds (visible : 0 < scale) {before : Session σ scale} {cycles : Int}
    {events : List HostEvent}
    (proceeds : (before.machine.driven (events.map .event)).Proceeds cycles.toNat) :
    ∃ next : Session σ scale,
      before.step cycles events = (next, if HostEvent.quits events then some .quit else none) ∧
        next.frames = before.frames + 1 ∧
        next.results.length = before.results.length + cycles.toNat ∧
        next.machine.undrawn =
          (before.machine.driven (Script.frameSteps cycles.toNat events)).undrawn := by
  let stage : Stage σ scale := ⟨before, cycles, events⟩
  obtain ⟨completed, length, course⟩ := proceeds.frame
  rw [← stage.frame_eq] at completed length course
  obtain ⟨next, stepped, machine, frames, results⟩ := Stage.step_of_completed visible completed
  refine ⟨next, stepped, frames, ?_, ?_⟩
  · rw [results, List.length_append, length]
  · rw [machine, course, ← Machine.driven_append]
    rfl

/-- A first frame with a cycle that executes no instruction ends the session. -/
theorem exists_ends_of_stall (visible : 0 < scale) {before : Session σ scale} {cycles : Int}
    {script : Script}
    (stalls : ¬ (before.machine.driven ((script.eventsAt 0).map .event)).Proceeds cycles.toNat) :
    ∃ next exit, before.step cycles (script.eventsAt 0) = (next, some exit) ∧
      Ends before cycles.toNat script next exit := by
  let stage : Stage σ scale := ⟨before, cycles, script.eventsAt 0⟩
  obtain ⟨i, inFrame, proceeds, stalls⟩ := Machine.exists_stall stalls
  obtain ⟨ending, course⟩ := proceeds.frame_of_meets inFrame stalls
  rw [← stage.frame_eq] at ending course
  obtain ⟨reason, crashes⟩ := Machine.exists_crashReason stalls
  obtain ⟨next, stepped, machine, frames⟩ :=
    Stage.step_of_crashReason visible ((congrArg Ending.crashReason? ending).trans crashes)
  refine ⟨next, _, stepped,
    .crashed 0 i reason script.lastFrame_pos inFrame ?_ proceeds ?_ frames ?_⟩
  · intro j early
    exact absurd early (Nat.not_lt_zero j)
  · rw [Script.stepsInto_zero, Machine.driven_append]
    exact crashes
  · rw [Script.stepsInto_zero, Machine.driven_append, machine, course]

/-- The first frame of a script ends a session, or the session goes on after it. -/
theorem step_cases (visible : 0 < scale) (before : Session σ scale) (cycles : Int)
    (script : Script) :
    (∃ next exit, before.step cycles (script.eventsAt 0) = (next, some exit) ∧
        Ends before cycles.toNat script next exit) ∨
      ∃ next, before.step cycles (script.eventsAt 0) = (next, none) ∧
        Advances before cycles.toNat (script.eventsAt 0) next := by
  by_cases proceeds : (before.machine.driven ((script.eventsAt 0).map .event)).Proceeds cycles.toNat
  · obtain ⟨next, stepped, frames, results, machine⟩ := step_of_proceeds visible proceeds
    cases quits : HostEvent.quits (script.eventsAt 0) with
    | true =>
      rw [quits] at stepped
      have last := Script.lastFrame_of_quits quits
      refine .inl ⟨next, .quit, stepped, .quit ?_ ?_ ?_ ?_⟩
      · intro k early
        obtain rfl : k = 0 := by omega
        exact proceeds
      · rw [frames, last]
      · rw [results, last, Nat.one_mul]
      · rw [machine, last, Script.steps_succ]
        rfl
    | false =>
      rw [quits] at stepped
      exact .inr ⟨next, stepped, quits, proceeds, frames, results, machine⟩
  · exact .inl (exists_ends_of_stall visible proceeds)

/-! ## The whole session -/

/-- The machine after a frame is driven the way that the machine before it is driven later. -/
theorem Advances.driven_congr {before next : Session σ scale} {cycles : Nat}
    {events : List HostEvent} (first : Advances before cycles events next) (steps : List Drive) :
    (next.machine.driven steps).undrawn =
      (before.machine.driven (Script.frameSteps cycles events ++ steps)).undrawn := by
  rw [Machine.driven_append]
  exact Machine.driven_undrawn_congr first.machine steps

/-- A frame that advances a session goes in front of what comes later. -/
theorem Ends.cons {before next after : Session σ scale} {cycles : Nat}
    {events : List HostEvent} {rest : Script} {exit : Exit}
    (first : Advances before cycles events next) (later : Ends next cycles rest after exit) :
    Ends before cycles (events :: rest) after exit := by
  have last := Script.lastFrame_cons first.goesOn rest
  -- a frame of the rest is the frame behind it in the whole script
  have shifted : ∀ k n, (next.machine.driven (rest.stepsInto cycles k)).Proceeds n →
      (before.machine.driven (Script.stepsInto (events :: rest) cycles (k + 1))).Proceeds n := by
    intro k n proceeds
    rw [Script.stepsInto_cons]
    exact proceeds.congr (first.driven_congr _)
  have front : ∀ bound,
      (∀ k < bound, (next.machine.driven (rest.stepsInto cycles k)).Proceeds cycles) →
      ∀ k < bound + 1,
        (before.machine.driven (Script.stepsInto (events :: rest) cycles k)).Proceeds cycles := by
    intro bound proceeds k early
    cases k with
    | zero => exact first.proceeds
    | succ k => exact shifted k cycles (proceeds k (Nat.lt_of_succ_lt_succ early))
  cases later with
  | quit proceeds frames results machine =>
    refine .quit ?_ ?_ ?_ ?_
    · rw [last]
      exact front _ proceeds
    · rw [frames, first.frames, last]
      omega
    · rw [results, first.results, last, Nat.succ_mul]
      omega
    · rw [machine, last, Script.steps_cons]
      exact first.driven_congr _
  | crashed k i reason inTime inFrame earlier proceeds meets frames machine =>
    refine .crashed (k + 1) i reason ?_ inFrame (front k earlier) (shifted k i proceeds) ?_ ?_ ?_
    · rw [last]
      exact Nat.succ_lt_succ inTime
    · rw [Script.stepsInto_cons, List.append_assoc, ← Machine.meets_congr (first.driven_congr _)]
      exact meets
    · rw [frames, first.frames]
      omega
    · rw [Script.stepsInto_cons, List.append_assoc, machine]
      exact first.driven_congr _

/-- Every session that is played ends because the host quits, or with a crash. -/
theorem play_ends (visible : 0 < scale) (before : Session σ scale) (cycles : Int)
    (script : Script) :
    ∃ after exit, before.play cycles script = (after, exit) ∧
      Ends before cycles.toNat script after exit := by
  induction script generalizing before with
  | nil =>
    obtain ⟨next, exit, stepped, ends⟩ | ⟨next, -, advances⟩ := step_cases visible before cycles []
    · refine ⟨next, exit, ?_, ends⟩
      rw [play]
      exact congrArg (fun result => (result.1, result.2.getD .quit)) stepped
    · have goesOn := advances.goesOn
      cases goesOn
  | cons events rest ih =>
    obtain ⟨next, exit, stepped, ends⟩ | ⟨next, stepped, advances⟩ :=
      step_cases visible before cycles (events :: rest)
    · refine ⟨next, exit, ?_, ends⟩
      rw [play, show before.step cycles events = (next, some exit) from stepped]
    · obtain ⟨after, exit, played, later⟩ := ih next
      refine ⟨after, exit, ?_, later.cons advances⟩
      rw [play, show before.step cycles events = (next, none) from stepped]
      exact played

/-! ## From the command line -/

/-- A command line that is accepted, and names a program that is found and fits, plays a session
with it. -/
theorem launch_eq_present {words : List String} {host : Host} {options : CommandLine.Options}
    {path : String} {rom : Rom} {seed : Int} {machine : Machine Twister}
    (accepted : CommandLine.parse words = .ok options) (named : options.file = some path)
    (found : host.files.read path = .ok rom)
    (seeded : options.seed.valueOr? host.entropy = some seed)
    (loaded : (Machine.fresh (Twister.ofSeed seed)).loadRom rom = .ok machine) :
    launch words host = present host options ⟨path, rom⟩ machine := by
  simp only [launch, accepted, ofOptions, named, found, ofProgram, seeded, loaded]

/-- A seed without a value is turned down before the first frame. -/
theorem launch_of_void {words : List String} {host : Host} {options : CommandLine.Options}
    {path : String} {rom : Rom} (accepted : CommandLine.parse words = .ok options)
    (named : options.file = some path) (found : host.files.read path = .ok rom)
    (void : options.seed = .void) : launch words host = unopened (.misused .seed) := by
  have unseeded : options.seed.valueOr? host.entropy = none :=
    CommandLine.Setting.valueOr?_eq_none_iff.mpr void
  simp only [launch, accepted, ofOptions, named, found, ofProgram, unseeded]

/-- A file without a value names no program, which is turned down before the first frame, too. -/
theorem launch_of_nameless {words : List String} {host : Host} {options : CommandLine.Options}
    (accepted : CommandLine.parse words = .ok options) (nameless : options.file = none) :
    launch words host = unopened (.misused .path) := by
  simp only [launch, accepted, ofOptions, nameless]

/-- **How a session ends.** Let a command line be accepted, let it name a program that is found and
fits, and let the seed have a value if there is a flag for it. The session is played, and there are
two ways in which it ends. If all cycles up to the end of the frame in which the host quits execute
an instruction, the host quits after just these frames, with a full number of cycles in each. If
not, the session crashes in the frame of the first cycle that meets an unknown word or a refused
call or return, be it the frame in which the host quits, and its report gives the reason. Either way
the machine has been driven through all events of each frame before the first cycle of the frame,
and through one step of the timers in each frame but the one that crashes. -/
theorem launch_ends {words : List String} {host : Host} {options : CommandLine.Options}
    {path : String} {rom : Rom} (accepted : CommandLine.parse words = .ok options)
    (named : options.file = some path) (valued : options.seed ≠ .void)
    (found : host.files.read path = .ok rom) (fits : rom.size ≤ 0xE00) :
    ∃ (seed : Int) (machine : Machine Twister) (session : Session Twister options.scale.toNat),
      options.seed.valueOr? host.entropy = some seed ∧
        (Machine.fresh (Twister.ofSeed seed)).loadRom rom = .ok machine ∧
        (start machine options.scale.toNat).play (cyclesPerFrame options.clock) host.events =
          (session, (launch words host).exit) ∧
        (launch words host).frames = session.frames ∧
        Ends (start machine options.scale.toNat) (max 1 (options.clock / 60)).toNat host.events
          session (launch words host).exit ∧
        ∀ n, (Script.steps host.events (max 1 (options.clock / 60)).toNat n).countP Drive.isCycle =
            n * (max 1 (options.clock / 60)).toNat ∧
          (Script.steps host.events (max 1 (options.clock / 60)).toNat n).countP Drive.isTick = n ∧
          (Script.stepsInto host.events (max 1 (options.clock / 60)).toNat n).countP
            Drive.isTick = n := by
  obtain ⟨seed, seeded⟩ : ∃ seed, options.seed.valueOr? host.entropy = some seed :=
    Option.ne_none_iff_exists'.mp fun none =>
      valued (CommandLine.Setting.valueOr?_eq_none_iff.mp none)
  obtain ⟨machine, loaded⟩ := Machine.exists_loadRom (Twister.ofSeed seed) fits
  have visible : 0 < options.scale.toNat := by
    have := (CommandLine.parse_positive accepted).2
    omega
  obtain ⟨session, exit, played, ends⟩ :=
    play_ends visible (start machine options.scale.toNat) (cyclesPerFrame options.clock) host.events
  rw [launch_eq_present accepted named found seeded loaded]
  have exits : (present host options ⟨path, rom⟩ machine).exit = exit := by
    simp only [present, played]
  have frames : (present host options ⟨path, rom⟩ machine).frames = session.frames := by
    simp only [present, played]
  rw [exits]
  refine ⟨seed, machine, session, seeded, loaded, played, frames, ends, fun n => ?_⟩
  exact ⟨Script.countP_isCycle_steps _ _ n, Script.countP_isTick_steps _ _ n,
    Script.countP_isTick_stepsInto _ _ n⟩

/-- A host with a program that returns at once, which quits in the first frame. -/
def hastyHost : Host where
  files := ⟨fun path => if path = "a" then .ok #[0x00, 0xEE] else .error (.missing path)⟩
  events := []
  tracing := false
  entropy := 0

theorem hasty_meets {machine : Machine Twister} {seed : Int}
    (loaded : (Machine.fresh (Twister.ofSeed seed)).loadRom #[0x00, 0xEE] = .ok machine) :
    (machine.driven (Script.stepsInto [] 1 0)).meets = .refused .stackEmpty := by
  have word : machine.fetch = 0x00EE := by
    rw [Machine.fetch_program loaded (by decide)]
    rfl
  have empty : machine.stack.depth = 0 := Machine.depth_of_started (.inr ⟨_, loaded⟩)
  rw [Script.stepsInto_zero, Machine.driven_events]
  have decoded : decode machine.fetch = some .ret := by
    rw [word]
    rfl
  have refused : ({ machine with
      keypad := HostEvent.turnAll machine.keypad (Script.eventsAt [] 0) }).cycle.1 =
        .error .stackEmpty :=
    Machine.cycle_eq_error_iff.mpr
      ⟨.ret, decoded, Machine.execute_eq_error_iff.mpr (.inl ⟨rfl, empty, rfl⟩)⟩
  rw [Machine.meets, refused]

theorem hasty_parse :
    CommandLine.parse ["--file=a", "--clock=60"] = .ok ⟨some "a", 60, 15, .absent⟩ := rfl

theorem hasty_read : hastyHost.files.read "a" = .ok #[0x00, 0xEE] := rfl

/-- The crash counts, though the host quits in the same frame. -/
theorem launch_ends_hasty :
    CommandLine.parse ["--file=a", "--clock=60"] = .ok ⟨some "a", 60, 15, .absent⟩ ∧
      hastyHost.files.read "a" = .ok #[0x00, 0xEE] ∧ (#[0x00, 0xEE] : Rom).size ≤ 0xE00 ∧
        (launch ["--file=a", "--clock=60"] hastyHost).frames = 1 ∧
          ∃ machine : Machine Twister, (launch ["--file=a", "--clock=60"] hastyHost).exit =
            .crashed (machine.crashReport Fault.stackEmpty.message) := by
  have fits : (#[0x00, 0xEE] : Rom).size ≤ 0xE00 := by decide
  refine ⟨hasty_parse, hasty_read, fits, ?_⟩
  obtain ⟨seed, machine, session, -, loaded, -, frames, ends, -⟩ :=
    launch_ends hasty_parse rfl nofun hasty_read fits
  have refused := hasty_meets loaded
  rw [frames]
  generalize (launch ["--file=a", "--clock=60"] hastyHost).exit = exit at ends
  cases ends with
  | quit proceeds =>
    have completed := proceeds 0 (Script.lastFrame_pos []) 0 (by decide)
    exact absurd (refused.symm.trans completed) nofun
  | crashed k i reason inTime inFrame earlier proceeds meets total =>
    obtain rfl : k = 0 := Nat.lt_one_iff.mp inTime
    obtain rfl : i = 0 := Nat.lt_one_iff.mp inFrame
    rw [List.replicate_zero, List.append_nil] at meets
    have message := (congrArg Ending.crashReason? refused).symm.trans meets
    obtain rfl := Option.some.inj message
    exact ⟨total, session.machine, rfl⟩

/-- A command line with a seed or a file without a value is accepted, too, but there is no frame,
and the session ends in neither way. -/
theorem launch_void :
    (CommandLine.parse ["--file=a", "--seed=--"] = .ok ⟨some "a", 600, 15, .void⟩ ∧
      hastyHost.files.read "a" = .ok #[0x00, 0xEE] ∧ (#[0x00, 0xEE] : Rom).size ≤ 0xE00 ∧
        (launch ["--file=a", "--seed=--"] hastyHost).frames = 0 ∧
          (launch ["--file=a", "--seed=--"] hastyHost).exit ≠ .quit ∧
            ∀ report, (launch ["--file=a", "--seed=--"] hastyHost).exit ≠ .crashed report) ∧
      CommandLine.parse ["--file=--"] = .ok ⟨none, 600, 15, .absent⟩ ∧
        (launch ["--file=--"] hastyHost).frames = 0 ∧
          (launch ["--file=--"] hastyHost).exit ≠ .quit ∧
            ∀ report, (launch ["--file=--"] hastyHost).exit ≠ .crashed report := by
  have seedless :
      CommandLine.parse ["--file=a", "--seed=--"] = .ok ⟨some "a", 600, 15, .void⟩ := by
    rfl
  have nameless : CommandLine.parse ["--file=--"] = .ok ⟨none, 600, 15, .absent⟩ := by
    rfl
  refine ⟨⟨seedless, hasty_read, by decide, ?_⟩, nameless, ?_⟩
  · rw [launch_of_void seedless rfl hasty_read rfl]
    exact ⟨rfl, nofun, nofun⟩
  · rw [launch_of_nameless nameless rfl]
    exact ⟨rfl, nofun, nofun⟩

end Session

end ChipEight
