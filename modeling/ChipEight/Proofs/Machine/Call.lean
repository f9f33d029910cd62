import ChipEight.Proofs.Machine.Drive

/-!
# Calls and returns

Only two instructions touch the call stack: a call puts the address behind it on top, and a return
goes on at the address on top and takes it off. So the return that brings the stack back to the
depth of a call for the first time goes on right behind that call, whatever was called in between.

## Main definitions

* `Instruction.isCall` — whether an instruction is a call
* `Machine.FirstReturn` — a stretch of steps after which the stack is as deep as before its first
  cycle

## Main results

* `Machine.stack_drive_cases` — what one step does to the stack
* `Machine.prefix_drive`, `Machine.prefix_driven` — addresses stay on the stack as long as it does
  not get shallower
* `Machine.depth_driven` — the depth counts calls and returns
* `Machine.call_returns` — calls return behind themselves
-/

namespace ChipEight

namespace Instruction

/-- Whether an instruction is a call. -/
def isCall : Instruction → Bool
  | call _ => true
  | _ => false

theorem stack_mem_footprint_iff (instruction : Instruction) :
    .stack ∈ instruction.footprint ↔ instruction = ret ∨ instruction.isCall := by
  cases instruction <;> simp [footprint, isCall]

theorem exists_of_isCall {instruction : Instruction} (call : instruction.isCall) :
    ∃ target, instruction = .call target := by
  cases instruction with
  | call target => exact ⟨target, rfl⟩
  | _ => cases call

end Instruction

namespace Machine

variable {σ : Type} [ByteSource σ] {m : Machine σ}

/-! ## One step -/

/-- A call puts the address behind it on the stack. -/
theorem stack_cycle_of_call {target : Fin 4096} (run : m.executes = some (.call target)) :
    m.cycle.2.stack.toList = m.stack.toList ++ [(m.pc + 2) % 0x10000] := by
  obtain ⟨stack, pushed, rest⟩ := bind_eq_ok_iff.mp (execute_of_executes run)
  rw [← Except.ok.inj rest]
  exact CallStack.toList_push pushed

/-- A return goes on at the address on top of the stack and takes it off. -/
theorem stack_cycle_of_ret (run : m.executes = some .ret) :
    m.stack.toList = m.cycle.2.stack.toList ++ [m.cycle.2.pc] := by
  obtain ⟨⟨pc, stack⟩, popped, rest⟩ := bind_eq_ok_iff.mp (execute_of_executes run)
  rw [← Except.ok.inj rest]
  exact CallStack.toList_pop popped

theorem depth_cycle_of_call {target : Fin 4096} (run : m.executes = some (.call target)) :
    m.cycle.2.stack.depth = m.stack.depth + 1 := by
  simpa using congrArg List.length (stack_cycle_of_call run)

theorem depth_cycle_of_ret (run : m.executes = some .ret) :
    m.stack.depth = m.cycle.2.stack.depth + 1 := by
  simpa using congrArg List.length (stack_cycle_of_ret run)

/-- Only calls and returns touch the stack. -/
theorem stack_cycle_of_neither
    (neither : ∀ instruction ∈ m.executes, instruction ≠ .ret ∧ ¬ instruction.isCall) :
    m.cycle.2.stack = m.stack := by
  have same : m.Agrees m.cycle.2 .stack := by
    refine m.cycle_agrees nofun nofun fun instruction run => ?_
    rw [Instruction.stack_mem_footprint_iff, not_or]
    exact neither instruction run
  exact same

/-- A step leaves the stack alone, or calls, or returns. -/
theorem stack_drive_cases (m : Machine σ) (step : Drive) :
    ((∀ instruction ∈ m.executedBy step, instruction ≠ .ret ∧ ¬ instruction.isCall) ∧
        (m.drive step).stack = m.stack) ∨
      (step = .cycle ∧ (∃ target, m.executes = some (.call target)) ∧
        (m.drive step).stack.toList = m.stack.toList ++ [(m.pc + 2) % 0x10000]) ∨
      step = .cycle ∧ m.executes = some .ret ∧
        m.stack.toList = (m.drive step).stack.toList ++ [(m.drive step).pc] := by
  by_cases cycle : step = .cycle
  · subst cycle
    rw [drive_cycle]
    by_cases call : ∃ target, m.executes = some (.call target)
    · obtain ⟨target, run⟩ := call
      exact .inr (.inl ⟨rfl, ⟨target, run⟩, stack_cycle_of_call run⟩)
    · by_cases ret : m.executes = some .ret
      · exact .inr (.inr ⟨rfl, ret, stack_cycle_of_ret ret⟩)
      · have neither : ∀ instruction ∈ m.executes, instruction ≠ .ret ∧ ¬ instruction.isCall := by
          intro instruction run
          refine ⟨fun same => ret (same ▸ run), fun called => call ?_⟩
          obtain ⟨target, rfl⟩ := Instruction.exists_of_isCall called
          exact ⟨target, run⟩
        exact .inl ⟨neither, stack_cycle_of_neither neither⟩
  · refine .inl ⟨?_, by rw [m.drive_of_ne_cycle cycle]⟩
    rw [executedBy_of_ne_cycle m cycle]
    nofun

/-! ## Counting -/

/-- The depth after a step, by what it executes. -/
theorem depth_drive (m : Machine σ) (step : Drive) :
    (m.drive step).stack.depth + (m.executedBy step).toList.count .ret =
      m.stack.depth + (m.executedBy step).toList.countP Instruction.isCall := by
  rcases m.stack_drive_cases step with ⟨neither, same⟩ | ⟨rfl, ⟨target, run⟩, -⟩ |
    ⟨rfl, run, -⟩
  · rw [same]
    cases found : m.executedBy step with
    | none => rfl
    | some instruction =>
      have ⟨noReturn, noCall⟩ := neither instruction found
      simp [noReturn, noCall]
  · rw [drive_cycle, depth_cycle_of_call run]
    simp [executedBy, run, Instruction.isCall]
  · rw [drive_cycle, depth_cycle_of_ret run]
    simp [executedBy, run, Instruction.isCall]

/-- Every call makes the stack one deeper, and every return one less. -/
theorem depth_driven (m : Machine σ) (steps : List Drive) :
    (m.driven steps).stack.depth + (m.executed steps).count .ret =
      m.stack.depth + (m.executed steps).countP Instruction.isCall := by
  induction steps generalizing m with
  | nil => rfl
  | cons step rest ih =>
    have first := m.depth_drive step
    have later := ih (m.drive step)
    simp only [driven_cons, executed, List.count_append, List.countP_append]
    omega

/-! ## Returning -/

/-- A step keeps an address and those below it on the stack, unless it returns to that address. -/
theorem prefix_drive {below : List Int} {address : Int}
    (stacked : below ++ [address] <+: m.stack.toList) (step : Drive) :
    below ++ [address] <+: (m.drive step).stack.toList ∨
      step = .cycle ∧ m.executes = some .ret ∧ (m.drive step).pc = address ∧
        (m.drive step).stack.toList = below := by
  rcases m.stack_drive_cases step with ⟨-, same⟩ | ⟨-, -, pushed⟩ | ⟨isCycle, ret, popped⟩
  · left
    rw [same]
    exact stacked
  · left
    rw [pushed]
    exact stacked.trans (List.prefix_append ..)
  · -- the address on top is the one in question or lies above it
    rw [popped, List.prefix_concat_iff] at stacked
    rcases stacked with whole | kept
    · obtain ⟨rest, top⟩ := List.append_inj' whole rfl
      exact .inr ⟨isCycle, ret, (List.singleton_inj.mp top).symm, rest.symm⟩
    · exact .inl kept

/-- As long as no cycle brings the stack back to the depth below an address, that address and those
below it stay. -/
theorem prefix_driven {below : List Int} {address : Int} {steps : List Drive}
    (stacked : below ++ [address] <+: m.stack.toList)
    (deep : ∀ earlier, earlier ++ [.cycle] <+: steps →
      (m.driven (earlier ++ [.cycle])).stack.depth ≠ below.length) :
    below ++ [address] <+: (m.driven steps).stack.toList := by
  induction steps generalizing m with
  | nil => exact stacked
  | cons step rest ih =>
    have later : ∀ earlier, earlier ++ [.cycle] <+: rest →
        ((m.drive step).driven (earlier ++ [.cycle])).stack.depth ≠ below.length := by
      intro earlier begins
      exact deep (step :: earlier) (List.cons_prefix_cons.mpr ⟨rfl, begins⟩)
    rcases prefix_drive stacked step with kept | ⟨rfl, -, -, gone⟩
    · exact ih kept later
    · have returned : (m.driven ([] ++ [.cycle])).stack.depth = below.length := by
        rw [← CallStack.length_toList, ← gone]
        rfl
      exact absurd returned (deep [] ⟨rest, rfl⟩)

/-- After a call and a stretch of further steps, the next cycle is the first one after which the
stack is as deep as it was before the call. -/
structure FirstReturn (caller : Machine σ) (between : List Drive) : Prop where
  deep : ∀ earlier, earlier ++ [.cycle] <+: between →
    ((caller.drive .cycle).driven (earlier ++ [.cycle])).stack.depth ≠ caller.stack.depth
  back : ((caller.drive .cycle).driven (between ++ [.cycle])).stack.depth = caller.stack.depth

/-- While a call is not over, its return address and the addresses below stay on the stack. -/
theorem FirstReturn.prefix_driven {caller : Machine σ} {between part : List Drive}
    (first : caller.FirstReturn between) {target : Fin 4096}
    (call : caller.executes = some (.call target)) (begins : part <+: between) :
    caller.stack.toList ++ [(caller.pc + 2) % 0x10000] <+:
      ((caller.drive .cycle).driven part).stack.toList := by
  refine Machine.prefix_driven ?_ fun earlier within => ?_
  · exact ⟨[], by rw [List.append_nil, drive_cycle, stack_cycle_of_call call]⟩
  · rw [CallStack.length_toList]
    exact first.deep earlier (within.trans begins)

/-- The cycle that ends a call returns right behind it and leaves the addresses below. -/
theorem FirstReturn.last {caller : Machine σ} {between : List Drive}
    (first : caller.FirstReturn between) {target : Fin 4096}
    (call : caller.executes = some (.call target)) :
    ((caller.drive .cycle).driven between).executes = some .ret ∧
      ((caller.drive .cycle).driven (between ++ [.cycle])).pc = (caller.pc + 2) % 0x10000 ∧
      ((caller.drive .cycle).driven (between ++ [.cycle])).stack.toList = caller.stack.toList := by
  have stacked := first.prefix_driven call (List.prefix_refl between)
  have back := first.back
  rw [driven_append, driven_cons, driven_nil] at back ⊢
  rcases prefix_drive stacked .cycle with kept | ⟨-, ret, pc, rest⟩
  · -- a cycle that keeps the return address leaves the stack deeper than before the call
    have long := kept.length_le
    simp only [List.length_append, CallStack.length_toList, List.length_singleton, back] at long
    omega
  · exact ⟨ret, pc, rest⟩

omit [ByteSource σ] in
theorem depth_of_started {source : σ}
    (started : m = fresh source ∨ ∃ rom, (fresh source).loadRom rom = .ok m) :
    m.stack.depth = 0 := by
  rcases started with rfl | ⟨rom, loaded⟩
  · rfl
  · obtain ⟨memory, -, rest⟩ := bind_eq_ok_iff.mp loaded
    rw [← Except.ok.inj rest]
    rfl

/-- **Calls return behind themselves.** Take a machine at any point of any run whose next cycle
executes a call, and the first later cycle after which the stack is as deep as before. That cycle
executes a return, it goes on behind the call, and up to then the addresses below the call stay as
they were. After any steps from a fresh machine, with a program or without, the stack is as deep as
there were more calls than returns. -/
theorem call_returns :
    (∀ (caller : Machine σ) (between : List Drive) (address opcode : Int) (target : Fin 4096),
      caller.cycle.1 = .ok (.executed address opcode) → decode opcode = some (.call target) →
        caller.FirstReturn between →
          (∃ start word,
            ((caller.drive .cycle).driven between).cycle.1 = .ok (.executed start word) ∧
              decode word = some .ret) ∧
          ((caller.drive .cycle).driven (between ++ [.cycle])).pc = (address + 2) % 0x10000 ∧
          ∀ part, part <+: between ++ [.cycle] →
            ((caller.drive .cycle).driven part).stack.toList.take caller.stack.depth =
              caller.stack.toList) ∧
      ∀ (source : σ) (m : Machine σ) (steps : List Drive),
        (m = fresh source ∨ ∃ rom, (fresh source).loadRom rom = .ok m) →
          ((m.driven steps).stack.depth : Int) =
            (m.executed steps).countP Instruction.isCall - (m.executed steps).count .ret := by
  constructor
  · intro caller between address opcode target called decoded first
    obtain ⟨rfl, call⟩ := executes_of_cycle called decoded
    obtain ⟨ret, pc, below⟩ := first.last call
    obtain ⟨executed, isRet⟩ := executes_eq_some_iff.mp ret
    refine ⟨⟨_, _, executed, isRet⟩, pc, fun part begins => ?_⟩
    -- the whole stretch, or a part of it before the return
    rcases List.prefix_concat_iff.mp begins with rfl | inside
    · rw [below, ← CallStack.length_toList, List.take_length]
    · obtain ⟨above, stacked⟩ := first.prefix_driven call inside
      rw [← stacked, List.append_assoc, ← CallStack.length_toList, List.take_left]
  · intro source m steps started
    have counted := m.depth_driven steps
    rw [depth_of_started started] at counted
    omega

/-- A machine with the call `22F0` across the end of the program counter, and a return at its
target. -/
def stopover : Machine Tape :=
  { fresh (Tape.ofList []) with
    memory := (Memory.fresh.write 0xFFFF 0x22).write 0x2F1 0xEE
    pc := 0xFFFF }

theorem stopover_fetch : stopover.fetch = 0x22F0 := by
  have memory : stopover.memory = (Memory.fresh.write 0xFFFF 0x22).write 0x2F1 0xEE := rfl
  have pc : stopover.pc = 0xFFFF := rfl
  have high : stopover.memory.read 0xFFFF = 0x22 := by
    rw [memory, Memory.read_write, Memory.read_write]
    rfl
  have low : stopover.memory.read (0xFFFF + 1) = 0xF0 := by
    rw [memory, Memory.read_write, Memory.read_write, Memory.read_fresh]
    rfl
  rw [fetch, pc, high, low]

theorem stopover_executes : stopover.executes = some (.call 0x2F0) := by
  have decoded : decode stopover.fetch = some (.call 0x2F0) := by
    rw [stopover_fetch]
    rfl
  have room : stopover.fetched.stack.depth = 0 := rfl
  exact executes_of_decode decoded fun fault refused => by
    simp [execute_eq_error_iff, room] at refused

theorem stopover_called :
    ∃ stack : CallStack, stack.depth = 1 ∧
      stopover.drive .cycle = { stopover with pc := 0x2F0, stack, drawn := false } := by
  obtain ⟨stack, pushed, rest⟩ := bind_eq_ok_iff.mp (execute_of_executes stopover_executes)
  refine ⟨stack, ?_, ?_⟩
  · rw [← CallStack.length_toList, CallStack.toList_push pushed]
    rfl
  · rw [drive_cycle, ← Except.ok.inj rest]
    rfl

theorem stopover_depth :
    ((stopover.drive .cycle).driven [.tick, .press (.int 5)]).stack.depth = 1 := by
  obtain ⟨stack, depth, called⟩ := stopover_called
  rw [called]
  exact depth

theorem stopover_returns :
    ((stopover.drive .cycle).driven [.tick, .press (.int 5)]).executes = some .ret := by
  obtain ⟨stack, depth, called⟩ := stopover_called
  rw [called]
  obtain ⟨next, waited⟩ : ∃ next, Machine.driven
      { stopover with pc := 0x2F0, stack, drawn := false } [.tick, .press (.int 5)] = next :=
        ⟨_, rfl⟩
  have memory : next.memory = (Memory.fresh.write 0xFFFF 0x22).write 0x2F1 0xEE := by
    rw [← waited]
    rfl
  have pc : next.pc = 0x2F0 := by
    rw [← waited]
    rfl
  have high : next.memory.read 0x2F0 = 0 := by
    rw [memory, Memory.read_write, Memory.read_write, Memory.read_fresh]
    rfl
  have low : next.memory.read (0x2F0 + 1) = 0xEE := by
    rw [memory, Memory.read_write]
    rfl
  have word : next.fetch = 0x00EE := by rw [fetch, pc, high, low]
  have decoded : decode next.fetch = some .ret := by
    rw [word]
    rfl
  have held : next.fetched.stack.depth = 1 := by
    rw [← depth, ← waited]
    rfl
  rw [waited]
  exact executes_of_decode decoded fun fault refused => by
    simp [execute_eq_error_iff, held] at refused

theorem stopover_firstReturn : stopover.FirstReturn [.tick, .press (.int 5)] := by
  constructor
  · intro earlier begins
    have member : Drive.cycle ∈ [.tick, .press (.int 5)] := begins.subset (by simp)
    simp at member
  · have popped := depth_cycle_of_ret stopover_returns
    rw [stopover_depth] at popped
    have empty : stopover.stack.depth = 0 := rfl
    rw [driven_append, driven_cons, driven_nil, drive_cycle, empty]
    have less : ∀ n, 1 = n + 1 → n = 0 := by omega
    exact less _ popped

theorem call_returns_stopover :
    stopover.cycle.1 = .ok (.executed 0xFFFF 0x22F0) ∧
      ((stopover.drive .cycle).driven ([.tick, .press (.int 5)] ++ [.cycle])).pc = 1 ∧
      (((fresh (Tape.ofList [])).driven [.cycle, .tick]).stack.depth : Int) =
        ((fresh (Tape.ofList [])).executed [.cycle, .tick]).countP Instruction.isCall -
          ((fresh (Tape.ofList [])).executed [.cycle, .tick]).count .ret := by
  have executed := (executes_eq_some_iff.mp stopover_executes).1
  have pc : stopover.pc = 0xFFFF := rfl
  rw [stopover_fetch, pc] at executed
  have called := call_returns.1 stopover [.tick, .press (.int 5)] _ _ 0x2F0 executed rfl
    stopover_firstReturn
  exact ⟨executed, called.2.1, call_returns.2 _ _ _ (.inl rfl)⟩

end Machine

end ChipEight
