import ChipEight.Proofs.Machine.Drive
import ChipEight.Proofs.Machine.Run

/-!
# The course of a frame

A frame does to a machine what a list of steps does: the cycles, and a step of the timers behind
them. It stops behind the first cycle that executes no instruction, and then the timers stand still.
Only the draw flag is another one, as a frame gathers it from all its cycles.

## Main definitions

* `Machine.meets` — what the next cycle of a machine meets
* `Machine.undrawn` — a machine with its draw flag off
* `Machine.Proceeds` — the next cycles all execute an instruction

## Main results

* `Machine.driven_undrawn_congr` — steps do not look at the draw flag
* `Machine.exists_stall` — cycles proceed up to the first that does not
* `Machine.Proceeds.run_add` — a run goes on behind cycles that all execute an instruction
* `Machine.Proceeds.frame_eq`, `Machine.Proceeds.frame_of_unknown`,
  `Machine.Proceeds.frame_of_error` — the three ways of a frame
* `Machine.Proceeds.frame`, `Machine.Proceeds.frame_of_meets` — a frame as a list of steps
-/

namespace ChipEight.Machine

variable {σ : Type}

/-- A machine with its draw flag off. -/
def undrawn (m : Machine σ) : Machine σ :=
  { m with drawn := false }

variable [ByteSource σ] {m n : Machine σ}

/-- The ending of a frame that the next cycle of a machine brings about; the frame goes on after a
cycle that executes an instruction. -/
def meets (m : Machine σ) : Ending :=
  match m.cycle.1 with
  | .ok (.executed _ _) => .completed
  | .ok (.unknown address opcode) => .unknown address opcode
  | .error fault => .refused fault

theorem meets_eq_completed_iff :
    m.meets = .completed ↔ ∃ address opcode, m.cycle.1 = .ok (.executed address opcode) := by
  unfold meets
  rcases m.cycle.1 with fault | ⟨address, opcode⟩ | ⟨address, opcode⟩ <;> simp

/-! ## The draw flag -/

theorem cycle_congr (same : m.undrawn = n.undrawn) : m.cycle = n.cycle := by
  calc m.cycle = m.undrawn.cycle := rfl
    _ = n.undrawn.cycle := by rw [same]

theorem meets_congr (same : m.undrawn = n.undrawn) : m.meets = n.meets := by
  rw [meets, meets, cycle_congr same]

theorem drive_event (m : Machine σ) (event : HostEvent) :
    m.drive (.event event) = { m with keypad := HostEvent.turn m.keypad event } :=
  m.drive_of_ne_cycle nofun

/-- A step does not look at the draw flag. -/
theorem drive_undrawn (m : Machine σ) (step : Drive) :
    (m.undrawn.drive step).undrawn = (m.drive step).undrawn := by
  by_cases cycle : step = .cycle
  · subst cycle
    rw [drive_cycle, drive_cycle]
    rfl
  · rw [drive_of_ne_cycle _ cycle, drive_of_ne_cycle _ cycle]
    rfl

theorem driven_undrawn_congr (same : m.undrawn = n.undrawn) (steps : List Drive) :
    (m.driven steps).undrawn = (n.driven steps).undrawn := by
  induction steps generalizing m n with
  | nil => exact same
  | cons step rest ih =>
    apply ih
    rw [← m.drive_undrawn, ← n.drive_undrawn, same]

/-- Events arrive one after the other. -/
theorem driven_events (m : Machine σ) (events : List HostEvent) :
    m.driven (events.map .event) = { m with keypad := HostEvent.turnAll m.keypad events } := by
  induction events generalizing m with
  | nil => rfl
  | cons event rest ih =>
    rw [List.map_cons, driven_cons, drive_event, ih]
    rfl

/-! ## Runs -/

/-- The next `n` cycles all execute an instruction. -/
def Proceeds (m : Machine σ) (n : Nat) : Prop :=
  ∀ i < n, (m.driven (List.replicate i .cycle)).meets = .completed

theorem driven_cycles_succ (m : Machine σ) (n : Nat) :
    m.driven (List.replicate (n + 1) .cycle) = m.cycle.2.driven (List.replicate n .cycle) := by
  rw [List.replicate_succ, driven_cons, drive_cycle]

theorem driven_cycles_concat (m : Machine σ) (n : Nat) :
    m.driven (List.replicate (n + 1) .cycle) = (m.driven (List.replicate n .cycle)).cycle.2 := by
  rw [List.replicate_succ', driven_append, driven_cons, driven_nil, drive_cycle]

theorem proceeds_succ_iff {k : Nat} :
    m.Proceeds (k + 1) ↔
      (∃ address opcode, m.cycle.1 = .ok (.executed address opcode)) ∧ m.cycle.2.Proceeds k := by
  constructor
  · intro proceeds
    refine ⟨meets_eq_completed_iff.mp (proceeds 0 k.succ_pos), fun i before => ?_⟩
    rw [← driven_cycles_succ]
    exact proceeds (i + 1) (Nat.succ_lt_succ before)
  · rintro ⟨first, later⟩ i before
    cases i with
    | zero => exact meets_eq_completed_iff.mpr first
    | succ i =>
      rw [driven_cycles_succ]
      exact later i (Nat.lt_of_succ_lt_succ before)

theorem Proceeds.congr (same : m.undrawn = n.undrawn) {k : Nat} (proceeds : m.Proceeds k) :
    n.Proceeds k := by
  intro i before
  rw [← meets_congr (driven_undrawn_congr same _)]
  exact proceeds i before

/-- Cycles proceed up to the first that does not. -/
theorem exists_stall {k : Nat} (stalls : ¬ m.Proceeds k) :
    ∃ i < k, m.Proceeds i ∧ (m.driven (List.replicate i .cycle)).meets ≠ .completed := by
  induction k with
  | zero => exact absurd (fun _ before => absurd before (Nat.not_lt_zero _)) stalls
  | succ k ih =>
    by_cases proceeds : m.Proceeds k
    · refine ⟨k, k.lt_succ_self, proceeds, fun completed => stalls fun i before => ?_⟩
      rcases Nat.lt_succ_iff_lt_or_eq.mp before with earlier | rfl
      · exact proceeds i earlier
      · exact completed
    · obtain ⟨i, before, first⟩ := ih proceeds
      exact ⟨i, Nat.lt_succ_of_lt before, first⟩

/-- A run goes on after a first cycle that executes an instruction. -/
theorem ending_run_succ {address opcode : Int}
    (executed : m.cycle.1 = .ok (.executed address opcode)) (k : Nat) :
    (m.run (k + 1)).ending = (m.cycle.2.run k).ending := by
  rw [run_succ_of_executed executed]
  unfold Run.ending
  cases (m.cycle.2.run k).fault with
  | some fault => rfl
  | none =>
    -- the result of the first cycle is the last one only if there is no other, and it ends nothing
    rw [List.getLast?_cons]
    cases (m.cycle.2.run k).results.getLast? with
    | none => rfl
    | some last => rfl

/-- A run of cycles that all execute an instruction. -/
theorem Proceeds.run {k : Nat} (proceeds : m.Proceeds k) :
    (m.run k).ending = .completed ∧ (m.run k).results.length = k ∧
      (m.run k).machine = m.driven (List.replicate k .cycle) := by
  induction k generalizing m with
  | zero => exact ⟨rfl, rfl, rfl⟩
  | succ k ih =>
    obtain ⟨⟨address, opcode, executed⟩, later⟩ := proceeds_succ_iff.mp proceeds
    obtain ⟨completed, length, machine⟩ := ih later
    rw [ending_run_succ executed, run_succ_of_executed executed, driven_cycles_succ]
    exact ⟨completed, congrArg (· + 1) length, machine⟩

/-- A run goes on behind cycles that all execute an instruction. -/
theorem Proceeds.run_add {i : Nat} (proceeds : m.Proceeds i) (k : Nat) :
    m.run (i + k) =
      ⟨((m.driven (List.replicate i .cycle)).run k).machine,
        (m.run i).results ++ ((m.driven (List.replicate i .cycle)).run k).results,
        (m.run i).drawn || ((m.driven (List.replicate i .cycle)).run k).drawn,
        ((m.driven (List.replicate i .cycle)).run k).fault⟩ := by
  induction i generalizing m with
  | zero =>
    rw [Nat.zero_add]
    rfl
  | succ i ih =>
    obtain ⟨⟨address, opcode, executed⟩, later⟩ := proceeds_succ_iff.mp proceeds
    rw [Nat.succ_add, driven_cycles_succ, run_succ_of_executed executed,
      run_succ_of_executed executed, ih later, List.cons_append, Bool.or_assoc]

/-- Cycles that all execute an instruction have drawn if one of them did. -/
theorem Proceeds.run_drawn_iff {k : Nat} (proceeds : m.Proceeds k) :
    (m.run k).drawn = true ↔ ∃ i < k, (m.driven (List.replicate (i + 1) .cycle)).drawn = true := by
  induction k generalizing m with
  | zero =>
    constructor
    · rintro ⟨⟩
    · rintro ⟨_, ⟨⟩, -⟩
  | succ k ih =>
    obtain ⟨⟨address, opcode, executed⟩, later⟩ := proceeds_succ_iff.mp proceeds
    rw [run_succ_of_executed executed, Bool.or_eq_true, ih later, Nat.exists_lt_succ_left]
    simp only [driven_cycles_succ, List.replicate_zero, driven_nil]

/-! ## Frames -/

/-- A frame of cycles that all execute an instruction. -/
theorem Proceeds.frame_eq {cycles : Int} (proceeds : m.Proceeds cycles.toNat) :
    m.frame cycles =
      ⟨{ m.driven (List.replicate cycles.toNat .cycle) with
          drawn := (m.run cycles.toNat).drawn }.tick,
        (m.run cycles.toNat).results, .completed⟩ := by
  obtain ⟨completed, -, machine⟩ := proceeds.run
  simp only [Machine.frame, completed, machine]

/-- A frame with a cycle that meets an unknown word. -/
theorem Proceeds.frame_of_unknown {cycles address opcode : Int} {i : Nat} (proceeds : m.Proceeds i)
    (within : i < cycles.toNat)
    (unknown : (m.driven (List.replicate i .cycle)).cycle.1 = .ok (.unknown address opcode)) :
    m.frame cycles =
      ⟨{ m.driven (List.replicate (i + 1) .cycle) with drawn := (m.run i).drawn },
        (m.run i).results ++ [.unknown address opcode], .unknown address opcode⟩ := by
  obtain ⟨k, total⟩ := Nat.exists_eq_add_of_lt within
  have drawn := cycle_drawn_of_ok unknown
  have ran : m.run cycles.toNat =
      ⟨m.driven (List.replicate (i + 1) .cycle), (m.run i).results ++ [.unknown address opcode],
        (m.run i).drawn, none⟩ := by
    rw [total, Nat.add_assoc, proceeds.run_add, run_succ_of_unknown unknown, drawn,
      driven_cycles_concat, CycleResult.draws, CycleResult.instruction?, Option.any_none,
      Bool.or_false]
  have ending : (m.run cycles.toNat).ending = .unknown address opcode := by
    rw [ran, Run.ending, List.getLast?_concat]
  simp only [Machine.frame, ending]
  rw [ran]

/-- A frame with a cycle that is refused. -/
theorem Proceeds.frame_of_error {cycles : Int} {i : Nat} {fault : Fault} (proceeds : m.Proceeds i)
    (within : i < cycles.toNat)
    (refused : (m.driven (List.replicate i .cycle)).cycle.1 = .error fault) :
    m.frame cycles =
      ⟨m.driven (List.replicate (i + 1) .cycle), (m.run i).results, .refused fault⟩ := by
  obtain ⟨k, total⟩ := Nat.exists_eq_add_of_lt within
  have ran := proceeds.run_add (k + 1)
  rw [← Nat.add_assoc, ← total, run_succ_of_error refused, ← driven_cycles_concat,
    List.append_nil] at ran
  have ending : (m.run cycles.toNat).ending = .refused fault := by
    rw [ran]
    rfl
  simp only [Machine.frame, ending]
  rw [ran]

/-- So, but for the draw flag, a frame of cycles that all execute an instruction is a list of
steps. -/
theorem Proceeds.frame {cycles : Int} (proceeds : m.Proceeds cycles.toNat) :
    (m.frame cycles).ending = .completed ∧ (m.frame cycles).results.length = cycles.toNat ∧
      (m.frame cycles).machine.undrawn =
        (m.driven (List.replicate cycles.toNat .cycle ++ [.tick])).undrawn := by
  rw [proceeds.frame_eq, driven_append]
  exact ⟨rfl, proceeds.run.2.1, rfl⟩

/-- And so is a frame with a cycle that executes no instruction. -/
theorem Proceeds.frame_of_meets {cycles : Int} {i : Nat} (proceeds : m.Proceeds i)
    (within : i < cycles.toNat)
    (stalls : (m.driven (List.replicate i .cycle)).meets ≠ .completed) :
    (m.frame cycles).ending = (m.driven (List.replicate i .cycle)).meets ∧
      (m.frame cycles).machine.undrawn = (m.driven (List.replicate (i + 1) .cycle)).undrawn := by
  cases done : (m.driven (List.replicate i .cycle)).cycle.1 with
  | error fault =>
    rw [proceeds.frame_of_error within done, meets, done]
    exact ⟨rfl, rfl⟩
  | ok result =>
    cases result with
    | executed address opcode =>
      exact absurd (meets_eq_completed_iff.mpr ⟨address, opcode, done⟩) stalls
    | unknown address opcode =>
      rw [proceeds.frame_of_unknown within done, meets, done]
      exact ⟨rfl, rfl⟩

end ChipEight.Machine
