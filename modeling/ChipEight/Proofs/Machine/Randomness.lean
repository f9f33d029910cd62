import ChipEight.Proofs.Machine.Drive
import ChipEight.Proofs.Machine.Rewiring
import Mathlib.Data.Int.ModEq

/-!
# Where randomness comes in

The source of random bytes is one part of a machine that only the instruction `Cxkk` looks at. It
draws one number and uses its lowest eight bits. So two machines that differ just in their sources
go the same way for ever if the sources give the same bytes, and a machine draws as many numbers as
it executes instructions `Cxkk`. What it draws shows in a source that keeps a record.

## Main definitions

* `Machine.withSource` — a machine with another source
* `Recorded`, `Machine.recording` — a source that keeps a record, and a machine with such a source
* `Machine.SameBytes` — two machines differ at most in their sources, which give the same bytes

## Main results

* `Machine.execute_withSource` — the other instructions do not look at the source
* `Machine.SameBytes.cycle`, `Machine.SameBytes.drive`, `Machine.SameBytes.driven` — cycles, other
  steps and lists of steps keep two machines the same up to their sources
* `Machine.source_driven` — the source after any steps
* `Machine.driven_sources` — all that the source has to do with a machine
-/

namespace ChipEight

/-- Whether an instruction is `Cxkk`. -/
def Instruction.isRandom : Instruction → Bool
  | random _ _ => true
  | _ => false

theorem Instruction.source_mem_footprint_iff (instruction : Instruction) :
    .source ∈ instruction.footprint ↔ instruction.isRandom := by
  cases instruction <;> simp [footprint, isRandom]

/-! ## Sources -/

/-- A source with a record of the numbers that it has given, the first one first. -/
structure Recorded (σ : Type) where
  given : List Int
  source : σ

instance {σ : Type} [ByteSource σ] : ByteSource (Recorded σ) where
  draw recorded :=
    let (value, source) := ByteSource.draw recorded.source
    (value, ⟨recorded.given ++ [value], source⟩)

namespace ByteSource

variable {σ : Type} [ByteSource σ]

theorem rest_add (source : σ) (a b : Nat) : rest source (a + b) = rest (rest source a) b := by
  induction a generalizing source with
  | zero => rw [Nat.zero_add]; rfl
  | succ a ih =>
    rw [Nat.succ_add]
    exact ih (draw source).2

/-- A record holds the numbers that have been drawn. -/
theorem given_rest (source : σ) (given : List Int) (n : Nat) :
    (rest (⟨given, source⟩ : Recorded σ) n).given = given ++ (List.range n).map (value source) := by
  induction n generalizing source given with
  | zero => exact (List.append_nil given).symm
  | succ n ih =>
    have later := ih (draw source).2 (given ++ [value source 0])
    rw [List.append_assoc] at later
    rw [List.range_succ_eq_map, List.map_cons, List.map_map]
    exact later

/-- A record does not change the numbers. -/
theorem value_recorded (source : σ) (given : List Int) (n : Nat) :
    value (⟨given, source⟩ : Recorded σ) n = value source n := by
  induction n generalizing source given with
  | zero => rfl
  | succ n ih => exact ih (draw source).2 _

end ByteSource

namespace Machine

variable {σ τ : Type}

/-- A machine with another source. -/
def withSource (m : Machine σ) (source : τ) : Machine τ :=
  { m with source }

/-- A machine with a record of the numbers that it draws from now on. -/
def recording (m : Machine σ) : Machine (Recorded σ) :=
  m.withSource ⟨[], m.source⟩

variable [ByteSource σ] [ByteSource τ] {m : Machine σ} {n : Machine τ}

/-! ## Instructions -/

/-- An instruction that is not `Cxkk` does the same with any source. -/
theorem execute_withSource {instruction : Instruction} (noDraw : ¬ instruction.isRandom)
    (m : Machine σ) (source : τ) :
    (m.withSource source).execute instruction =
      (m.execute instruction).map (·.withSource source) := by
  have ignores : instruction.Ignores (⟨id, id, fun _ => source⟩ : Rewiring σ τ) := by
    cases instruction
    case random => exact absurd rfl noDraw
    all_goals simp [Instruction.Ignores]
  exact execute_rewired ignores m

/-- Two machines differ at most in their sources, and the numbers that these are going to give have
the same lowest eight bits. -/
structure SameBytes (m : Machine σ) (n : Machine τ) : Prop where
  state : n = m.withSource n.source
  bytes : ∀ i, ByteSource.value m.source i ≡ ByteSource.value n.source i [ZMOD 256]

namespace SameBytes

/-- An instruction comes out the same way, and both sources have given a number or neither has. -/
theorem execute (same : SameBytes m n) (instruction : Instruction) :
    Alike SameBytes (m.execute instruction) (n.execute instruction) := by
  obtain ⟨state, bytes⟩ := same
  generalize n.source = source at state bytes
  subst state
  by_cases random : instruction.isRandom
  · cases instruction with
    | random x mask =>
      have byte : (ByteSource.draw m.source).1 % 256 = (ByteSource.draw source).1 % 256 := bytes 0
      have value : (m.withSource source).source = source := rfl
      simp only [Machine.execute, value, byte]
      exact .ok ⟨rfl, fun i => bytes (i + 1)⟩
    | _ => cases random
  · rw [execute_withSource random]
    cases done : m.execute instruction with
    | error fault => exact .error fault
    | ok next =>
      have kept : m.Agrees next .source :=
        execute_agrees done (by rwa [Instruction.source_mem_footprint_iff])
      refine .ok ⟨rfl, fun i => ?_⟩
      rw [show next.source = m.source from kept]
      exact bytes i

/-- A cycle has the same result on both machines, and they go on to give the same bytes. -/
theorem cycle (same : SameBytes m n) : m.cycle.1 = n.cycle.1 ∧ SameBytes m.cycle.2 n.cycle.2 := by
  obtain ⟨state, bytes⟩ := same
  generalize n.source = source at state bytes
  subst state
  have fetched : SameBytes m.fetched (m.withSource source).fetched := ⟨rfl, bytes⟩
  obtain ⟨results, after⟩ : Alike (· = ·) m.cycle.1 (m.withSource source).cycle.1 ∧
      SameBytes m.cycle.2 (m.withSource source).cycle.2 :=
    cycle_alike rfl rfl rfl ⟨rfl, bytes⟩ fetched fetched.execute
  exact ⟨results.eq, after⟩

/-- So does every other step. -/
theorem drive (same : SameBytes m n) (step : Drive) :
    m.answer step = n.answer step ∧ m.executedBy step = n.executedBy step ∧
      SameBytes (m.drive step) (n.drive step) := by
  by_cases cycle : step = .cycle
  · subst cycle
    obtain ⟨results, after⟩ := same.cycle
    rw [answer_cycle, answer_cycle, drive_cycle, drive_cycle, executedBy, executedBy, executes,
      executes, results]
    exact ⟨rfl, rfl, after⟩
  · obtain ⟨state, bytes⟩ := same
    generalize n.source = source at state bytes
    subst state
    rw [answer_of_ne_cycle _ cycle, answer_of_ne_cycle _ cycle, drive_of_ne_cycle _ cycle,
      drive_of_ne_cycle _ cycle, executedBy_of_ne_cycle _ cycle, executedBy_of_ne_cycle _ cycle]
    exact ⟨rfl, rfl, ⟨rfl, bytes⟩⟩

/-- So does a list of steps. -/
theorem driven (same : SameBytes m n) (steps : List Drive) :
    m.executed steps = n.executed steps ∧ SameBytes (m.driven steps) (n.driven steps) := by
  induction steps generalizing m n with
  | nil => exact ⟨rfl, same⟩
  | cons step rest ih =>
    obtain ⟨-, first, after⟩ := same.drive step
    obtain ⟨later, last⟩ := ih after
    exact ⟨by rw [executed, executed, first, later], last⟩

end SameBytes

/-! ## What is drawn -/

/-- An instruction `Cxkk` puts the lowest eight bits of the next number under its mask. -/
theorem cycle_of_random {x : Fin 16} {mask : Fin 256} (run : m.executes = some (.random x mask)) :
    m.cycle.2.register x = (ByteSource.value m.source 0 % 256).toNat &&& mask.val ∧
      m.cycle.2.source = ByteSource.rest m.source 1 := by
  have done := execute_of_executes run
  rw [← Except.ok.inj done]
  refine ⟨?_, rfl⟩
  rw [register_setRegister, if_pos rfl]
  rfl

/-- A step draws a number for every instruction `Cxkk` that it executes. -/
theorem source_drive (m : Machine σ) (step : Drive) :
    (m.drive step).source =
      ByteSource.rest m.source ((m.executedBy step).toList.countP Instruction.isRandom) := by
  by_cases cycle : step = .cycle
  · subst cycle
    rw [drive_cycle, executedBy]
    by_cases draws : ∃ x mask, m.executes = some (.random x mask)
    · obtain ⟨x, mask, run⟩ := draws
      rw [(cycle_of_random run).2, run]
      rfl
    · have noDraw : ∀ instruction ∈ m.executes, ¬ instruction.isRandom := by
        intro instruction run random
        cases instruction with
        | random x mask => exact draws ⟨x, mask, run⟩
        | _ => cases random
      have none : (m.executes.toList).countP Instruction.isRandom = 0 := by
        rw [List.countP_eq_zero]
        intro instruction member
        exact noDraw instruction (Option.mem_toList.mp member)
      rw [none]
      have kept : m.Agrees m.cycle.2 .source := by
        refine m.cycle_agrees nofun nofun fun instruction run => ?_
        rw [Instruction.source_mem_footprint_iff]
        exact noDraw instruction run
      exact kept
  · rw [drive_of_ne_cycle _ cycle, executedBy_of_ne_cycle _ cycle]
    rfl

/-- So does a list of steps. -/
theorem source_driven (m : Machine σ) (steps : List Drive) :
    (m.driven steps).source =
      ByteSource.rest m.source ((m.executed steps).countP Instruction.isRandom) := by
  induction steps generalizing m with
  | nil => rfl
  | cons step rest ih =>
    rw [driven_cons, ih, m.source_drive, executed, List.countP_append, ByteSource.rest_add]

/-- A record holds the numbers that the machine has drawn, one for each instruction `Cxkk`. -/
theorem given_driven (m : Machine σ) (steps : List Drive) :
    (m.recording.driven steps).source.given =
      (List.range ((m.executed steps).countP Instruction.isRandom)).map
        (ByteSource.value m.source) := by
  have same : SameBytes m m.recording :=
    ⟨rfl, fun i => congrArg (· % 256) (ByteSource.value_recorded m.source [] i).symm⟩
  rw [source_driven, ← (same.driven steps).1]
  exact ByteSource.given_rest m.source [] _

/-- **Randomness.** Give a machine another source whose numbers have the same lowest eight bits as
those of its own, however large or negative they are. Then every step of every list of steps, with
cycles, ticks and keys in any order, answers the same, and the machine goes through the same states.
The numbers that it draws are the first ones of its source, one for each instruction `Cxkk` that it
executes, and each of these instructions leaves the lowest eight bits of its number in `Vx`, under
the mask `kk`. -/
theorem driven_sources {m : Machine σ} {source : τ}
    (same : ∀ i, ByteSource.value m.source i ≡ ByteSource.value source i [ZMOD 256])
    (steps : List Drive) :
    (∃ rest, (m.withSource source).driven steps = (m.driven steps).withSource rest) ∧
      (∀ step, ((m.withSource source).driven steps).answer step = (m.driven steps).answer step) ∧
      (m.recording.driven steps).source.given =
        (List.range ((m.executed steps).countP Instruction.isRandom)).map
          (ByteSource.value m.source) ∧
      ∀ address opcode x mask, (m.driven steps).cycle.1 = .ok (.executed address opcode) →
        decode opcode = some (.random x mask) →
          (m.driven steps).cycle.2.register x =
            (ByteSource.value m.source ((m.executed steps).countP Instruction.isRandom) % 256).toNat
              &&& mask.val := by
  have start : SameBytes m (m.withSource source) := ⟨rfl, same⟩
  have later := (start.driven steps).2
  refine ⟨⟨_, later.state⟩, fun step => (later.drive step).1.symm, m.given_driven steps, ?_⟩
  intro address opcode x mask executed decoded
  obtain ⟨-, run⟩ := executes_of_cycle executed decoded
  rw [(cycle_of_random run).1, source_driven]
  rfl

/-- A machine at the word `C35A`. -/
def lucky : Machine Tape :=
  facing (Tape.ofList [-1]) 0xC3 0x5A

/-- A tape with one number gives it over and over. -/
theorem value_singleton (number : Int) (n : Nat) :
    ByteSource.value (Tape.ofList [number]) n = number := by
  have again : (ByteSource.draw (Tape.ofList [number])).2 = Tape.ofList [number] :=
    congrArg (Tape.mk [number]) (Nat.mod_self 1)
  have rest : ByteSource.rest (Tape.ofList [number]) n = Tape.ofList [number] := by
    induction n with
    | zero => rfl
    | succ n ih => rw [ByteSource.rest, again, ih]
  rw [ByteSource.value, rest]
  rfl

theorem driven_sources_lucky :
    (∀ i, ByteSource.value lucky.source i ≡ ByteSource.value (Tape.ofList [0x100FF]) i [ZMOD 256]) ∧
      lucky.cycle.1 = .ok (.executed 0x200 0xC35A) ∧ lucky.cycle.2.register 3 = 0x5A ∧
      ((lucky.withSource (Tape.ofList [0x100FF])).driven [.tick, .cycle]).answer .cycle =
        (lucky.driven [.tick, .cycle]).answer .cycle := by
  have same (i : Nat) :
      ByteSource.value lucky.source i ≡ ByteSource.value (Tape.ofList [0x100FF]) i [ZMOD 256] := by
    rw [show lucky.source = Tape.ofList [-1] from rfl, value_singleton, value_singleton]
    rfl
  have pc : lucky.pc = 0x200 := rfl
  have word : lucky.fetch = 0xC35A := fetch_facing _ (by decide) (by decide)
  have decoded : decode (0xC35A : Int) = some (.random 3 0x5A) := rfl
  have executed : lucky.cycle.1 = .ok (.executed 0x200 0xC35A) := by
    have run : lucky.executes = some (.random 3 0x5A) :=
      executes_of_decode (by rw [word]; exact decoded) fun fault => nofun
    have first := (executes_eq_some_iff.mp run).1
    rwa [word, pc] at first
  have value := (driven_sources same []).2.2.2 0x200 0xC35A 3 0x5A executed decoded
  exact ⟨same, executed, value, (driven_sources same [.tick, .cycle]).2.1 .cycle⟩

end Machine

end ChipEight
