import ChipEight.Machine.Frame
import ChipEight.Proofs.Machine.Footprint

/-!
# Runs of cycles

A run is its first cycle followed by the run of what is left, so its results and whether it draws
are those of its cycles one after the other. Only two instructions draw, and the display changes
under no other instruction.

## Main definitions

* `Instruction.draws`, `CycleResult.draws` — whether an instruction or a cycle draws on the display

## Main results

* `Machine.runFrom_eq` — a run does not depend on what has been collected before
* `Machine.run_succ_of_executed`, `Machine.run_succ_of_unknown`, `Machine.run_succ_of_error` — the
  first cycle of a run
* `Machine.run_induction` — a run by its first cycle
* `Machine.run_agrees` — what no instruction of a run may write stays as it is
* `Machine.run_drawn`, `Machine.run_display` — when a run draws, and when it leaves the display
  alone
* `Machine.frame_drawn`, `Machine.frame_display` — the same for a frame
-/

namespace ChipEight

/-- Whether an instruction draws on the display. -/
def Instruction.draws : Instruction → Bool
  | clearScreen | draw _ _ _ => true
  | _ => false

theorem Instruction.drawn_mem_footprint_iff (instruction : Instruction) :
    .drawn ∈ instruction.footprint ↔ instruction.draws := by
  cases instruction <;> simp [footprint, draws]

theorem Instruction.display_mem_footprint_iff (instruction : Instruction) :
    .display ∈ instruction.footprint ↔ instruction.draws := by
  cases instruction <;> simp [footprint, draws]

/-- Whether a cycle executed an instruction that draws on the display. -/
def CycleResult.draws (result : CycleResult) : Bool :=
  result.instruction?.any Instruction.draws

namespace Machine

variable {σ : Type} [ByteSource σ] {m : Machine σ}

/-! ## The first cycle of a run -/

/-- What has been collected before a run only goes in front of what the run collects. -/
theorem runFrom_eq (m : Machine σ) (results : List CycleResult) (drawn : Bool) (n : Nat) :
    m.runFrom results drawn n =
      ⟨(m.run n).machine, results.reverse ++ (m.run n).results, drawn || (m.run n).drawn,
        (m.run n).fault⟩ := by
  -- both runs collect something during the first cycle, so neither is the one in the hypothesis
  induction n generalizing m results drawn with
  | zero => simp [run, runFrom]
  | succ n ih =>
    simp only [run, runFrom]
    rcases m.cycle with ⟨fault | result, next⟩
    · simp
    · by_cases executed : result.isExecuted
      · simp [executed, ih next (result :: results), ih next [result], Bool.or_assoc]
      · simp [executed]

theorem run_succ_of_error {fault : Fault} (refused : m.cycle.1 = .error fault) (n : Nat) :
    m.run (n + 1) = ⟨m.cycle.2, [], m.cycle.2.drawn, some fault⟩ := by
  have cycled : m.cycle = (.error fault, m.cycle.2) := Prod.ext refused rfl
  rw [run, runFrom, cycled]
  simp

theorem run_succ_of_unknown {address opcode : Int}
    (unknown : m.cycle.1 = .ok (.unknown address opcode)) (n : Nat) :
    m.run (n + 1) = ⟨m.cycle.2, [.unknown address opcode], m.cycle.2.drawn, none⟩ := by
  have cycled : m.cycle = (.ok (.unknown address opcode), m.cycle.2) := Prod.ext unknown rfl
  rw [run, runFrom, cycled]
  simp [CycleResult.isExecuted]

theorem run_succ_of_executed {address opcode : Int}
    (executed : m.cycle.1 = .ok (.executed address opcode)) (n : Nat) :
    m.run (n + 1) =
      ⟨(m.cycle.2.run n).machine, .executed address opcode :: (m.cycle.2.run n).results,
        m.cycle.2.drawn || (m.cycle.2.run n).drawn, (m.cycle.2.run n).fault⟩ := by
  have cycled : m.cycle = (.ok (.executed address opcode), m.cycle.2) := Prod.ext executed rfl
  rw [run, runFrom, cycled]
  simp [CycleResult.isExecuted, runFrom_eq m.cycle.2 [.executed address opcode]]

/-- What holds of every run: it holds if no cycle is left, if the first cycle ends the run, and if
the first cycle goes on with a run of which it holds. -/
theorem run_induction {motive : Machine σ → Run σ → Prop}
    (done : ∀ m, motive m ⟨m, [], false, none⟩)
    (refused : ∀ (m : Machine σ) fault, m.cycle.1 = .error fault →
      motive m ⟨m.cycle.2, [], m.cycle.2.drawn, some fault⟩)
    (unknown : ∀ (m : Machine σ) address opcode, m.cycle.1 = .ok (.unknown address opcode) →
      motive m ⟨m.cycle.2, [.unknown address opcode], m.cycle.2.drawn, none⟩)
    (executed : ∀ (m : Machine σ) address opcode (rest : Run σ),
      m.cycle.1 = .ok (.executed address opcode) → motive m.cycle.2 rest →
        motive m ⟨rest.machine, .executed address opcode :: rest.results,
          m.cycle.2.drawn || rest.drawn, rest.fault⟩)
    (m : Machine σ) (n : Nat) : motive m (m.run n) := by
  induction n generalizing m with
  | zero => exact done m
  | succ n ih =>
    cases first : m.cycle.1 with
    | error fault =>
      rw [run_succ_of_error first]
      exact refused m fault first
    | ok result =>
      cases result with
      | unknown address opcode =>
        rw [run_succ_of_unknown first]
        exact unknown m address opcode first
      | executed address opcode =>
        rw [run_succ_of_executed first]
        exact executed m address opcode _ first (ih m.cycle.2)

theorem executes_of_ok {result : CycleResult} (done : m.cycle.1 = .ok result) :
    m.executes = result.instruction? := by
  rw [executes, done]

theorem executes_of_error {fault : Fault} (refused : m.cycle.1 = .error fault) :
    m.executes = none := by
  rw [executes, refused]

/-- A run leaves a part of the machine alone that no instruction in it may write. -/
theorem run_agrees {part : Part} (pc : part ≠ .pc) (drawn : part ≠ .drawn) {n : Nat}
    (untouched : ∀ result ∈ (m.run n).results, ∀ instruction ∈ result.instruction?,
      part ∉ instruction.footprint) : m.Agrees (m.run n).machine part := by
  revert untouched
  refine run_induction
    (motive := fun m run => (∀ result ∈ run.results, ∀ instruction ∈ result.instruction?,
      part ∉ instruction.footprint) → m.Agrees run.machine part) ?_ ?_ ?_ ?_ m n
  · intro m _
    exact .refl m part
  · intro m fault first _
    exact m.cycle_agrees pc drawn (by rw [executes_of_error first]; exact nofun)
  · intro m address opcode first untouched
    rw [List.forall_mem_singleton, ← executes_of_ok first] at untouched
    exact m.cycle_agrees pc drawn untouched
  · intro m address opcode rest first ih untouched
    rw [List.forall_mem_cons, ← executes_of_ok first] at untouched
    exact (m.cycle_agrees pc drawn untouched.1).trans (ih untouched.2)

/-- A run is refused for no other reason than the stack. -/
theorem kind_of_run_fault {n : Nat} {fault : Fault} (refused : (m.run n).fault = some fault) :
    fault.kind = .stack := by
  revert refused
  refine run_induction (motive := fun _ run => run.fault = some fault → fault.kind = .stack)
    ?_ ?_ ?_ ?_ m n
  · intro m refused
    cases refused
  · intro m reason first refused
    rw [← Option.some.inj refused]
    exact kind_of_cycle_error first
  · intro m address opcode first refused
    cases refused
  · intro m address opcode rest first ih
    exact ih

/-! ## Drawing -/

theorem execute_drawn {next : Machine σ} {instruction : Instruction}
    (done : m.execute instruction = .ok next) (clear : m.drawn = false) :
    next.drawn = instruction.draws := by
  cases instruction
  case clearScreen =>
    obtain rfl := Except.ok.inj done
    rfl
  case draw x y rows =>
    obtain ⟨display, value, drawn⟩ := exists_drawSprite m x y rows
    obtain rfl := Except.ok.inj (drawn.symm.trans done)
    rfl
  all_goals
    have kept : m.Agrees next .drawn :=
      execute_agrees done (by simp [Instruction.drawn_mem_footprint_iff, Instruction.draws])
    exact Eq.trans kept clear

/-- After a cycle the draw flag tells whether the cycle executed an instruction that draws. -/
theorem cycle_drawn (m : Machine σ) : m.cycle.2.drawn = m.executes.any Instruction.draws := by
  cases run : m.executes with
  | none =>
    obtain ⟨pc, stays⟩ := cycle_of_executes_none run
    rw [stays]
    rfl
  | some instruction => exact execute_drawn (execute_of_executes run) rfl

theorem cycle_display (still : m.cycle.2.drawn = false) : m.cycle.2.display = m.display := by
  have kept : m.Agrees m.cycle.2 .display := by
    refine m.cycle_agrees nofun nofun fun instruction run => ?_
    rw [cycle_drawn, Option.mem_def.mp run] at still
    rw [Instruction.display_mem_footprint_iff]
    exact Bool.eq_false_iff.mp still
  exact kept

theorem cycle_drawn_of_ok {result : CycleResult} (done : m.cycle.1 = .ok result) :
    m.cycle.2.drawn = result.draws := by
  rw [cycle_drawn, executes_of_ok done]
  rfl

theorem cycle_drawn_of_error {fault : Fault} (refused : m.cycle.1 = .error fault) :
    m.cycle.2.drawn = false := by
  rw [cycle_of_error refused]
  rfl

/-- A run draws if one of its cycles does. -/
theorem run_drawn (m : Machine σ) (n : Nat) :
    (m.run n).drawn = (m.run n).results.any CycleResult.draws := by
  refine run_induction (motive := fun _ run => run.drawn = run.results.any CycleResult.draws)
    ?_ ?_ ?_ ?_ m n
  · intro m
    rfl
  · intro m fault first
    exact cycle_drawn_of_error first
  · intro m address opcode first
    rw [List.any_cons, List.any_nil, Bool.or_false]
    exact cycle_drawn_of_ok first
  · intro m address opcode rest first ih
    rw [List.any_cons, ← cycle_drawn_of_ok first, ih]

/-- A run that does not draw leaves the display as it is. -/
theorem run_display {n : Nat} (still : (m.run n).drawn = false) :
    (m.run n).machine.display = m.display := by
  revert still
  refine run_induction
    (motive := fun m run => run.drawn = false → run.machine.display = m.display) ?_ ?_ ?_ ?_ m n
  · intro m still
    rfl
  · intro m fault first still
    exact cycle_display still
  · intro m address opcode first still
    exact cycle_display still
  · intro m address opcode rest first ih still
    obtain ⟨now, later⟩ := Bool.or_eq_false_iff.mp still
    rw [ih later, cycle_display now]

/-! ## Frames -/

/-- A frame is refused for no other reason than the stack. -/
theorem kind_of_frame_refused {cycles : Int} {fault : Fault}
    (refused : (m.frame cycles).ending = .refused fault) : fault.kind = .stack := by
  have ending : (m.run cycles.toNat).ending = .refused fault := refused
  unfold Run.ending at ending
  split at ending
  case h_1 found =>
    cases ending
    exact kind_of_run_fault found
  case h_2 => cases ending
  case h_3 => cases ending

/-- After a frame the draw flag tells whether one of its cycles drew, unless one was refused. -/
theorem frame_drawn {cycles : Int} (accepted : ∀ fault, (m.frame cycles).ending ≠ .refused fault) :
    (m.frame cycles).machine.drawn = (m.frame cycles).results.any CycleResult.draws := by
  have drawn := m.run_drawn cycles.toNat
  simp only [frame] at accepted ⊢
  split
  · exact drawn
  · exact drawn
  · next refused => exact absurd refused (accepted _)

/-- A frame that does not draw leaves the display as it is. -/
theorem frame_display {cycles : Int}
    (still : (m.frame cycles).results.any CycleResult.draws = false) :
    (m.frame cycles).machine.display = m.display := by
  have same := run_display ((m.run_drawn cycles.toNat).trans still)
  simp only [frame]
  split <;> exact same

end Machine

end ChipEight
