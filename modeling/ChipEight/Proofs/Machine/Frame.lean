import ChipEight.Proofs.Machine.Course
import ChipEight.Proofs.Machine.Effect

/-!
# Frames and the timers

A frame that is completed steps the timers once, however many cycles it has, and any other frame
does not step them. No instruction writes a timer but the one that sets it. So a timer that is not
set counts the frames, down to zero at least, and it does not matter how the cycles are dealt out to
them.

## Main definitions

* `Timer`, `Machine.timer` — the two timers of a machine
* `Machine.cycled` — the machine after a number of cycles
* `Machine.frames`, `Machine.framed` — frames one after the other, and the machine behind them
* `Frame.Executes` — whether a frame executes a word with a given pattern

## Main results

* `Machine.timer_frame` — a completed frame counts a timer down by one
* `Machine.timer_framed` — completed frames count it down by their number
* `Machine.frames_count` — what a frame does, and what it means for the timers
-/

namespace ChipEight

/-- One of the two timers. -/
inductive Timer where
  | delay
  | sound

/-- The part of a machine that a timer is. -/
def Timer.part : Timer → Part
  | delay => .delay
  | sound => .sound

/-- The pattern of the instruction that sets a timer. -/
def Timer.setter : Timer → String
  | delay => "Fx15"
  | sound => "Fx18"

/-- A timer has no other instruction. -/
theorem Timer.writers_part (timer : Timer) : timer.part.writers = [timer.setter] := by
  cases timer <;> rfl

/-- Whether a frame executes a word that matches a pattern. -/
def Frame.Executes {σ : Type} (frame : Frame σ) (name : String) : Prop :=
  ∃ result ∈ frame.results, result.isExecuted = true ∧ Matches name (Opcode.word result.opcode)

namespace Machine

variable {σ : Type}

/-- What a timer shows. -/
def timer (m : Machine σ) : Timer → Nat
  | .delay => m.delay
  | .sound => m.sound

theorem timer_eq_of_agrees {m next : Machine σ} {timer : Timer}
    (agrees : m.Agrees next timer.part) : next.timer timer = m.timer timer := by
  cases timer <;> exact agrees

theorem timer_tick (m : Machine σ) (timer : Timer) : m.tick.timer timer = m.timer timer - 1 := by
  cases timer <;> rfl

variable [ByteSource σ] {m : Machine σ}

/-- The machine after `n` cycles. -/
def cycled (m : Machine σ) (n : Nat) : Machine σ :=
  m.driven (List.replicate n .cycle)

/-- What frames of the given sizes do, one after the other. -/
def frames (m : Machine σ) : List Int → List (Frame σ)
  | [] => []
  | cycles :: rest => m.frame cycles :: (m.frame cycles).machine.frames rest

/-- The machine behind frames of the given sizes. -/
def framed (m : Machine σ) (sizes : List Int) : Machine σ :=
  sizes.foldl (fun m cycles => (m.frame cycles).machine) m

/-- A frame without cycles just steps the timers. -/
theorem frame_of_nonpos (m : Machine σ) (cycles : Int) (none : cycles ≤ 0) :
    m.frame cycles = ⟨m.undrawn.tick, [], .completed⟩ := by
  simp only [frame, Int.toNat_of_nonpos none]
  rfl

/-! ## The timers -/

/-- An instruction that writes a timer sets it. -/
theorem executes_setter {cycles : Int} {timer : Timer} {result : CycleResult}
    (member : result ∈ (m.frame cycles).results) {instruction : Instruction}
    (found : result.instruction? = some instruction)
    (written : timer.part ∈ instruction.footprint) :
    (m.frame cycles).Executes timer.setter := by
  cases result with
  | unknown address opcode => cases found
  | executed address opcode =>
    have setter := instruction.pattern_mem_writers timer.part written
    rw [timer.writers_part, List.mem_singleton] at setter
    refine ⟨_, member, rfl, ?_⟩
    rw [← setter]
    exact matches_of_decode found

/-- A completed frame counts a timer down by one if it does not set it. -/
theorem timer_frame {cycles : Int} {timer : Timer}
    (completed : (m.frame cycles).ending = .completed)
    (unset : ¬ (m.frame cycles).Executes timer.setter) :
    (m.frame cycles).machine.timer timer = m.timer timer - 1 := by
  have kept : m.Agrees (m.run cycles.toNat).machine timer.part := by
    refine run_agrees ?_ ?_ fun result member instruction found written => ?_
    · cases timer <;> exact nofun
    · cases timer <;> exact nofun
    · exact unset (executes_setter member found written)
  have ending : (m.run cycles.toNat).ending = .completed := completed
  simp only [frame, ending]
  rw [timer_tick, ← timer_eq_of_agrees kept]
  cases timer <;> rfl

/-- Completed frames count a timer down by their number if none of them sets it. -/
theorem timer_framed (timer : Timer) {sizes : List Int}
    (completed : ∀ frame ∈ m.frames sizes, frame.ending = .completed)
    (unset : ∀ frame ∈ m.frames sizes, ¬ frame.Executes timer.setter) :
    (m.framed sizes).timer timer = m.timer timer - sizes.length := by
  -- counting down stops at zero, so the order of the two differences does not matter
  induction sizes generalizing m with
  | nil => rfl
  | cons cycles rest ih =>
    rw [frames, List.forall_mem_cons] at completed unset
    calc ((m.frame cycles).machine.framed rest).timer timer
        = (m.frame cycles).machine.timer timer - rest.length := ih completed.2 unset.2
      _ = m.timer timer - 1 - rest.length := by rw [timer_frame completed.1 unset.1]
      _ = m.timer timer - (cycles :: rest).length := by
        rw [Nat.sub_sub, Nat.add_comm, List.length_cons]

/-! ## Frames -/

/-- **Frames.** If all its cycles execute an instruction, a frame is these cycles followed by one
step of the timers, and afterwards the draw flag tells whether one of them drew. If a cycle meets an
unknown word, the frame ends with it: there is no further cycle and no step of the timers, and the
draw flag tells whether an earlier cycle drew. If a cycle is refused, the frame is refused for the
same reason, and the machine is the one that the cycle leaves. So a timer that completed frames do
not set is less by their number afterwards, and zero at least, whatever their sizes. -/
theorem frames_count (m : Machine σ) :
    (∀ n : Int,
      (m.Proceeds n.toNat →
        (m.frame n).ending = .completed ∧ (m.frame n).results.length = n.toNat ∧
          ∃ drawn, (m.frame n).machine = { m.cycled n.toNat with drawn }.tick ∧
            (drawn = true ↔ ∃ i < n.toNat, (m.cycled (i + 1)).drawn = true)) ∧
      ∀ i < n.toNat, m.Proceeds i →
        (∀ address opcode, (m.cycled i).cycle.1 = .ok (.unknown address opcode) →
          (m.frame n).ending = .unknown address opcode ∧ (m.frame n).results.length = i + 1 ∧
            ∃ drawn, (m.frame n).machine = { m.cycled (i + 1) with drawn } ∧
              (drawn = true ↔ ∃ j < i, (m.cycled (j + 1)).drawn = true)) ∧
        ∀ fault, (m.cycled i).cycle.1 = .error fault →
          fault.kind = .stack ∧ (m.frame n).ending = .refused fault ∧
            (m.frame n).results.length = i ∧ (m.frame n).machine = m.cycled (i + 1)) ∧
    ∀ sizes : List Int, (∀ frame ∈ m.frames sizes, frame.ending = .completed) →
      ((∀ frame ∈ m.frames sizes, ¬ frame.Executes "Fx15") →
        ((m.framed sizes).delay : Int) = max 0 (m.delay - sizes.length)) ∧
      ((∀ frame ∈ m.frames sizes, ¬ frame.Executes "Fx18") →
        ((m.framed sizes).sound : Int) = max 0 (m.sound - sizes.length)) := by
  refine ⟨fun n => ⟨fun proceeds => ?_, fun i within proceeds => ⟨?_, ?_⟩⟩,
    fun sizes completed => ⟨fun unset => ?_, fun unset => ?_⟩⟩
  · rw [proceeds.frame_eq]
    exact ⟨rfl, proceeds.run.2.1, _, rfl, proceeds.run_drawn_iff⟩
  · intro address opcode unknown
    rw [proceeds.frame_of_unknown within unknown, List.length_append, proceeds.run.2.1]
    exact ⟨rfl, rfl, _, rfl, proceeds.run_drawn_iff⟩
  · intro fault refused
    rw [proceeds.frame_of_error within refused]
    exact ⟨kind_of_cycle_error refused, rfl, proceeds.run.2.1, rfl⟩
  · have counted : (m.framed sizes).delay = m.delay - sizes.length :=
      timer_framed .delay completed unset
    omega
  · have counted : (m.framed sizes).sound = m.sound - sizes.length :=
      timer_framed .sound completed unset
    omega

/-- A machine with its timers on that clears the display, with an unknown word behind that. -/
def countdown : Machine Tape :=
  { facing (Tape.ofList []) 0x00 0xE0 with delay := 2, sound := 5 }

/-- The machine after its first cycle. -/
def countdownCleared : Machine Tape :=
  { countdown with pc := 0x202, display := .blank _ _, drawn := true }

theorem countdown_cycle : countdown.cycle = (.ok (.executed 0x200 0x00E0), countdownCleared) := by
  have word : countdown.fetch = 0x00E0 := by
    have same : countdown.fetch = (facing (Tape.ofList []) 0x00 0xE0).fetch := fetch_congr rfl rfl
    rw [same]
    exact fetch_facing _ (by decide) (by decide)
  have decoded : decode countdown.fetch = some .clearScreen := by
    rw [word]
    rfl
  rw [cycle_of_execute_ok decoded rfl, word]
  rfl

theorem countdown_executed : countdown.cycle.1 = .ok (.executed 0x200 0x00E0) := by
  rw [countdown_cycle]

theorem countdown_proceeds : countdown.Proceeds 1 :=
  proceeds_succ_iff.mpr
    ⟨⟨_, _, countdown_executed⟩, fun _ early => absurd early (Nat.not_lt_zero _)⟩

theorem countdown_cycled : countdown.cycled 1 = countdownCleared := by
  rw [cycled, driven_cycles_concat, List.replicate_zero, driven_nil, countdown_cycle]

/-- The memory behind the first word is empty. -/
theorem countdown_unknown : countdownCleared.cycle.1 = .ok (.unknown 0x202 0x0000) := by
  have word : countdownCleared.fetch = 0x0000 := by
    have memory : countdownCleared.memory = (Memory.fresh.write 0x200 0x00).write 0x201 0xE0 := rfl
    have pc : countdownCleared.pc = 0x202 := rfl
    have high : countdownCleared.memory.read 0x202 = 0 := by
      rw [memory, Memory.read_write, Memory.read_write, Memory.read_fresh]
      rfl
    have low : countdownCleared.memory.read (0x202 + 1) = 0 := by
      rw [memory, Memory.read_write, Memory.read_write, Memory.read_fresh]
      rfl
    rw [fetch, pc, high, low]
  have unknown : decode countdownCleared.fetch = none := by
    rw [word]
    rfl
  rw [cycle_of_decode_none unknown, word]
  rfl

theorem countdown_executes {name : String} (sets : (countdown.frame 1).Executes name) :
    Matches name 0x00E0 := by
  obtain ⟨result, member, -, matched⟩ := sets
  have results : (countdown.frame 1).results = [.executed 0x200 0x00E0] := by
    have first := run_succ_of_executed countdown_executed 0
    rw [Nat.zero_add] at first
    rw [countdown_proceeds.frame_eq, Int.toNat_one, first]
    rfl
  rw [results, List.mem_singleton] at member
  rw [member] at matched
  exact matched

/-- A frame of one cycle clears the display; a second cycle meets the unknown word, and a return is
refused. The timers count three frames, though two of them have no cycles. -/
theorem frames_count_countdown :
    ((countdown.frame 1).ending = .completed ∧ (countdown.frame 1).machine.drawn = true) ∧
      ((countdown.frame 2).ending = .unknown 0x202 0x0000 ∧
        (countdown.frame 2).machine.drawn = true) ∧
      ((facing (Tape.ofList []) 0x00 0xEE).frame 3).ending = .refused .stackEmpty ∧
      (countdown.framed [1, 0, -3]).delay = 0 ∧ (countdown.framed [1, 0, -3]).sound = 2 := by
  have cleared : (countdown.cycled 1).drawn = true := by
    rw [countdown_cycled]
    rfl
  have unknown : (countdown.cycled 1).cycle.1 = .ok (.unknown 0x202 0x0000) := by
    rw [countdown_cycled]
    exact countdown_unknown
  obtain ⟨completed, -, drawn, machine, drew⟩ := ((frames_count countdown).1 1).1 countdown_proceeds
  obtain ⟨ending, -, flag, stopped, marked⟩ :=
    (((frames_count countdown).1 2).2 1 (by decide) countdown_proceeds).1 _ _ unknown
  have refused : (facing (Tape.ofList []) 0x00 0xEE).cycle.1 = .error .stackEmpty := by
    refine cycle_eq_error_iff.mpr ⟨.ret, ?_, execute_eq_error_iff.mpr (.inl ⟨rfl, rfl, rfl⟩)⟩
    rw [fetch_facing _ (by decide) (by decide)]
    rfl
  obtain ⟨-, propagated, -⟩ :=
    (((frames_count (facing (Tape.ofList []) 0x00 0xEE)).1 3).2 0 (by decide) nofun).2 _ refused
  have all : ∀ frame ∈ countdown.frames [1, 0, -3], frame.ending = .completed := by
    simp only [frames, List.forall_mem_cons]
    exact ⟨completed, congrArg Frame.ending (frame_of_nonpos _ 0 (by decide)),
      congrArg Frame.ending (frame_of_nonpos _ (-3) (by decide)), nofun⟩
  have unset (name : String) (other : ¬ Matches name 0x00E0) :
      ∀ frame ∈ countdown.frames [1, 0, -3], ¬ frame.Executes name := by
    simp only [frames, List.forall_mem_cons]
    rw [frame_of_nonpos _ 0 (by decide), frame_of_nonpos _ (-3) (by decide)]
    exact ⟨fun sets => other (countdown_executes sets), nofun, nofun, nofun⟩
  obtain ⟨delay, sound⟩ := (frames_count countdown).2 [1, 0, -3] all
  refine ⟨⟨completed, ?_⟩, ⟨ending, ?_⟩, propagated, ?_, ?_⟩
  · rw [machine]
    exact drew.mpr ⟨0, by decide, cleared⟩
  · rw [stopped]
    exact marked.mpr ⟨0, by decide, cleared⟩
  · have counted := delay (unset "Fx15" (by simp [Matches, wordDigits, Admits, patternDigit]))
    rw [show countdown.delay = 2 from rfl, List.length_cons, List.length_cons,
      List.length_singleton] at counted
    omega
  · have counted := sound (unset "Fx18" (by simp [Matches, wordDigits, Admits, patternDigit]))
    rw [show countdown.sound = 5 from rfl, List.length_cons, List.length_cons,
      List.length_singleton] at counted
    omega

end Machine

end ChipEight
