import ChipEight.Proofs.Command
import ChipEight.Proofs.Instruction.Assembly
import ChipEight.Proofs.Machine.Load

/-!
# The trace of a machine

With the trace on, a machine writes a line behind every cycle that comes to a result. It does just
what it does with the trace off. The line tells all about the result, apart from the digit that a
shift does not use: it begins with the address, then either the text of the instruction follows or
the word that stands for none.

## Main definitions

* `CycleResult.Proper` — the results of well-formed machines
* `CycleResult.tokens` — the words of the line of a cycle
* `CycleResult.SameLook` — two results that no line tells apart
* `Machine.traced`, `Machine.tracedCycles` — cycles with the trace on or off
* `Machine.cycles`, `Machine.results` — cycles one after the other, and what they come to

## Main results

* `CycleResult.trace_eq_iff` — which results have the same line
* `Machine.perform_cycle` — the command for a cycle writes the line that the cycle writes
* `Machine.tracedCycles_faithful` — the trace has no effect, and tells what the machine did
-/

namespace ChipEight

/-! ## The line of a cycle -/

namespace CycleResult

variable {r s : CycleResult}

/-- The address and the word have sixteen bits, and the word was executed if it stands for an
instruction. -/
structure Proper (r : CycleResult) : Prop where
  address_range : 0 ≤ r.address ∧ r.address ≤ 0xFFFF
  opcode_range : 0 ≤ r.opcode ∧ r.opcode ≤ 0xFFFF
  isExecuted_eq : r.isExecuted = (decode r.opcode).isSome

/-- The words of the line of a cycle. -/
def tokens (r : CycleResult) : List Token :=
  .name "mem_addr:" :: .hexadecimal 4 r.address.toNat :: .name "" :: .name "" :: .name "" ::
    match decode r.opcode with
    | some instruction => .name "instruction:" :: instruction.tokens
    | none => [.name "unknown", .name "opcode:", .hexadecimal 4 r.opcode.toNat]

theorem tokens_ne_nil (r : CycleResult) : r.tokens ≠ [] :=
  List.cons_ne_nil _ _

theorem tokens_proper (proper : r.Proper) : ∀ token ∈ r.tokens, token.Proper := by
  have address : (Token.hexadecimal 4 r.address.toNat).Proper := by
    have := proper.address_range
    exact ⟨by decide, by omega⟩
  have opcode : (Token.hexadecimal 4 r.opcode.toNat).Proper := by
    have := proper.opcode_range
    exact ⟨by decide, by omega⟩
  have names : ∀ word ∈ ["mem_addr:", "", "instruction:", "unknown", "opcode:"],
      (Token.name word).Proper := by simp [Token.Proper]
  simp only [List.forall_mem_cons] at names
  unfold tokens
  cases decode r.opcode with
  | none => simp [address, opcode, names]
  | some instruction => simpa [address, names] using instruction.tokens_proper

/-- The line of a cycle consists of its words. -/
theorem trace_spells (proper : r.Proper) : Token.Spells r.tokens r.trace := by
  obtain ⟨address, sameAddress⟩ := Int.eq_ofNat_of_zero_le proper.address_range.1
  obtain ⟨opcode, sameOpcode⟩ := Int.eq_ofNat_of_zero_le proper.opcode_range.1
  have small := proper.address_range.2
  rw [sameAddress] at small
  unfold tokens trace traceLine Token.Spells
  rw [sameAddress, sameOpcode]
  cases decode opcode with
  | none =>
    simp [Token.text, Token.toString_text, Text.toList_hex, Token.filter_comma_hexDigitsPadded]
  | some instruction =>
    have within : (address : Int) % 65536 = address := by omega
    have spells := instruction.assembly_spells
    have some := instruction.tokens_ne_nil
    unfold Token.Spells at spells
    simp [Token.text, Token.toString_text, Text.toList_hex, Token.filter_comma_hexDigitsPadded,
      within, spells, List.intercalate_cons_of_ne_nil, some]

theorem readAll_trace (proper : r.Proper) : Token.readAll r.trace = r.tokens :=
  Token.readAll_of_spells r.tokens_ne_nil (tokens_proper proper) (trace_spells proper)

theorem opcode_of_decode (proper : r.Proper) {instruction : Instruction}
    (decoded : decode r.opcode = some instruction) : r.opcode = instruction.encode := by
  have word := decode_eq_some_iff.mp decoded
  have range := proper.opcode_range
  unfold Opcode.word at word
  omega

/-- No line tells two results apart: the word was executed both times or neither time, the address
is the same, and so is the word, apart from the third digit of a shift, which is not used. -/
def SameLook (r s : CycleResult) : Prop :=
  r.isExecuted = s.isExecuted ∧ r.address = s.address ∧
    (r.opcode = s.opcode ∨ ∃ x y z : Fin 16,
      r.opcode = (0x8006 + x * 256 + y * 16 : Nat) ∧ s.opcode = (0x8006 + x * 256 + z * 16 : Nat) ∨
        r.opcode = (0x800E + x * 256 + y * 16 : Nat) ∧ s.opcode = (0x800E + x * 256 + z * 16 : Nat))

theorem SameLook.of_tokens_eq (proper : r.Proper) (alsoProper : s.Proper)
    (same : r.tokens = s.tokens) : r.SameLook s := by
  have range := proper.address_range
  have alsoRange := alsoProper.address_range
  simp only [tokens, List.cons.injEq, Token.hexadecimal.injEq, true_and] at same
  obtain ⟨sameAddress, behind⟩ := same
  have address : r.address = s.address := by omega
  unfold SameLook
  rw [proper.isExecuted_eq, alsoProper.isExecuted_eq]
  -- the word behind the blanks tells an unknown word from an instruction
  cases left : decode r.opcode with
  | none =>
    cases right : decode s.opcode with
    | none =>
      have opcodeRange := proper.opcode_range
      have alsoOpcodeRange := alsoProper.opcode_range
      simp only [left, right, List.cons.injEq, Token.hexadecimal.injEq, true_and, and_true]
        at behind
      exact ⟨rfl, address, .inl (by omega)⟩
    | some j => simp [left, right] at behind
  | some i =>
    cases right : decode s.opcode with
    | none => simp [left, right] at behind
    | some j =>
      have opcode := opcode_of_decode proper left
      have alsoOpcode := opcode_of_decode alsoProper right
      simp only [left, right, List.cons.injEq, true_and] at behind
      refine ⟨rfl, address, ?_⟩
      rcases Instruction.tokens_eq_iff.mp behind with rfl | ⟨x, y, z, ⟨rfl, rfl⟩ | ⟨rfl, rfl⟩⟩
      · exact .inl (opcode.trans alsoOpcode.symm)
      · exact .inr ⟨x, y, z, .inl ⟨opcode, alsoOpcode⟩⟩
      · exact .inr ⟨x, y, z, .inr ⟨opcode, alsoOpcode⟩⟩

/-- The line tells no more than the address and the text of the instruction. -/
theorem trace_congr (address : r.address = s.address) {i j : Instruction}
    (left : decode r.opcode = some i) (right : decode s.opcode = some j)
    (text : i.assembly = j.assembly) : r.trace = s.trace := by
  simp only [trace, traceLine, left, right, address, text]

theorem SameLook.trace_eq (look : r.SameLook s) : r.trace = s.trace := by
  obtain ⟨-, address, opcode | ⟨x, y, z, ⟨left, right⟩ | ⟨left, right⟩⟩⟩ := look
  · rw [trace, trace, address, opcode]
  · have first : decode r.opcode = some (.shiftRight x y) := left ▸ decode_encode (.shiftRight x y)
    have second : decode s.opcode = some (.shiftRight x z) :=
      right ▸ decode_encode (.shiftRight x z)
    exact trace_congr address first second rfl
  · have first : decode r.opcode = some (.shiftLeft x y) := left ▸ decode_encode (.shiftLeft x y)
    have second : decode s.opcode = some (.shiftLeft x z) := right ▸ decode_encode (.shiftLeft x z)
    exact trace_congr address first second rfl

/-- Which results have the same line. -/
theorem trace_eq_iff (proper : r.Proper) (alsoProper : s.Proper) :
    r.trace = s.trace ↔ r.SameLook s := by
  refine ⟨fun same => .of_tokens_eq proper alsoProper ?_, SameLook.trace_eq⟩
  rw [← readAll_trace proper, ← readAll_trace alsoProper, same]

end CycleResult

/-! ## Cycles with the trace on or off -/

/-- What a cycle came to, the machine after it, and the lines that it wrote. -/
structure Traced (σ : Type) where
  outcome : Except Fault CycleResult
  machine : Machine σ
  lines : List String

namespace Machine

variable {σ τ : Type}

/-- The line for an instruction. It is put together when the word has been fetched, so the address
is taken from the program counter that is behind the word. -/
def announcement (fetched : Machine σ) (instruction : Instruction) : String :=
  s!"mem_addr: 0x{Text.hex 4 ((fetched.pc - 2) % 65536)}    instruction: {instruction.assembly}"

/-- The line for a word at the program counter that stands for no instruction. -/
def complaint (m : Machine σ) : String :=
  s!"mem_addr: 0x{Text.hex 4 m.pc}    unknown opcode: 0x{Text.hex 4 m.fetch}"

/-- The address that is taken from the program counter behind the word is that of the word. -/
theorem announcement_fetched {instruction : Instruction} (m : Machine σ)
    (decoded : decode m.fetch = some instruction) :
    m.fetched.announcement instruction = traceLine m.pc m.fetch := by
  have back : (m.fetched.pc - 2) % 65536 = m.pc % 65536 := by
    simp only [fetched, advance]
    omega
  rw [announcement, traceLine, back, decoded]

variable [ByteSource σ] [ByteSource τ]

/-- One cycle with the trace on or off. The line for an instruction is written when the instruction
has been executed, so a refused one writes none. -/
def traced (m : Machine σ) (tracing : Bool) : Traced σ :=
  match decode m.fetch with
  | none =>
    ⟨.ok (.unknown m.pc m.fetch), { m.fetched with pc := m.pc },
      if tracing then [m.complaint] else []⟩
  | some instruction =>
    let line := m.fetched.announcement instruction
    match m.fetched.execute instruction with
    | .ok next => ⟨.ok (.executed m.pc m.fetch), next, if tracing then [line] else []⟩
    | .error fault => ⟨.error fault, m.fetched, []⟩

/-- `n` cycles one after the other with the trace on or off, whatever they come to. -/
def tracedCycles (m : Machine σ) (tracing : Bool) : Nat → List (Traced σ)
  | 0 => []
  | n + 1 => m.traced tracing :: (m.traced tracing).machine.tracedCycles tracing n

/-- `n` cycles one after the other, whatever they come to. -/
def cycles (m : Machine σ) : Nat → List (Except Fault CycleResult × Machine σ)
  | 0 => []
  | n + 1 => m.cycle :: m.cycle.2.cycles n

/-- The results of those of `n` cycles that are not refused. -/
def results (m : Machine σ) (n : Nat) : List CycleResult :=
  (m.cycles n).filterMap fun cycle => cycle.1.toOption

/-! ## What a cycle writes -/

/-- With the trace on or off, a cycle does what it does. -/
theorem traced_effect (m : Machine σ) (tracing : Bool) :
    ((m.traced tracing).outcome, (m.traced tracing).machine) = m.cycle := by
  rcases m.cycle_cases with ⟨unknown, stays⟩ | ⟨instruction, next, decoded, done, moves⟩ |
    ⟨instruction, fault, decoded, why, ends⟩
  · rw [stays, traced, unknown]
    rfl
  · rw [moves, traced, decoded]
    simp only [done]
  · rw [ends, traced, decoded]
    simp only [why]

theorem machine_traced (m : Machine σ) (tracing : Bool) : (m.traced tracing).machine = m.cycle.2 :=
  congrArg Prod.snd (m.traced_effect tracing)

/-- With the trace off a cycle writes nothing. -/
theorem lines_untraced (m : Machine σ) : (m.traced false).lines = [] := by
  unfold traced
  split
  · rfl
  · split <;> rfl

/-- With the trace on it writes the line of its result, if it comes to one. -/
theorem lines_traced (m : Machine σ) :
    (m.traced true).lines = (m.cycle.1.toOption.map CycleResult.trace).toList := by
  rcases m.cycle_cases with ⟨unknown, stays⟩ | ⟨instruction, next, decoded, done, moves⟩ |
    ⟨instruction, fault, decoded, why, ends⟩
  · have line : m.complaint = traceLine m.pc m.fetch := by rw [complaint, traceLine, unknown]
    rw [stays, traced, unknown, line]
    rfl
  · rw [moves, traced, decoded]
    simp only [done, m.announcement_fetched decoded]
    rfl
  · rw [ends, traced, decoded]
    simp only [why]
    rfl

/-- The command for a cycle writes the line that the cycle writes with the trace on. -/
theorem perform_cycle (m : Machine σ) :
    m.perform .cycle =
      ⟨(m.traced true).machine, (m.traced true).outcome.map .result, (m.traced true).lines⟩ := by
  have outcome : (m.traced true).outcome = m.cycle.1 := congrArg Prod.fst (m.traced_effect true)
  rw [lines_traced, machine_traced, outcome, perform]
  rcases m.cycle with ⟨fault | result, next⟩
  · rfl
  · rfl

/-! ## What cycles write one after the other -/

theorem tracedCycles_effect (m : Machine σ) (tracing : Bool) (n : Nat) :
    (m.tracedCycles tracing n).map (fun cycle => (cycle.outcome, cycle.machine)) = m.cycles n := by
  induction n generalizing m with
  | zero => rfl
  | succ n ih => rw [tracedCycles, List.map_cons, traced_effect, ih, machine_traced, cycles]

theorem lines_untracedCycles (m : Machine σ) (n : Nat) :
    (m.tracedCycles false n).flatMap Traced.lines = [] := by
  induction n generalizing m with
  | zero => rfl
  | succ n ih => rw [tracedCycles, List.flatMap_cons, lines_untraced, ih, List.nil_append]

theorem lines_tracedCycles (m : Machine σ) (n : Nat) :
    (m.tracedCycles true n).map Traced.lines =
      (m.cycles n).map fun cycle => (cycle.1.toOption.map CycleResult.trace).toList := by
  induction n generalizing m with
  | zero => rfl
  | succ n ih =>
    simp only [tracedCycles, List.map_cons, ih, lines_traced, machine_traced, cycles]

/-! ## What the lines tell -/

theorem WellFormed.proper_of_cycle {m : Machine σ} {result : CycleResult} (wf : m.WellFormed)
    (done : m.cycle.1 = .ok result) : result.Proper := by
  have address := wf.pc_range
  have opcode : (0 : Int) ≤ m.fetch ∧ (m.fetch : Int) ≤ 0xFFFF := by
    have := wf.fetch_le
    omega
  rcases m.cycle_cases with ⟨unknown, stays⟩ | ⟨instruction, _, decoded, -, moves⟩ |
    ⟨_, _, -, -, ends⟩
  · rw [stays] at done
    cases done
    exact ⟨address, opcode, by rw [CycleResult.opcode, unknown]; rfl⟩
  · rw [moves] at done
    cases done
    exact ⟨address, opcode, by rw [CycleResult.opcode, decoded]; rfl⟩
  · rw [ends] at done
    cases done

theorem WellFormed.proper_of_mem_results {m : Machine σ} (wf : m.WellFormed) (n : Nat) :
    ∀ result ∈ m.results n, result.Proper := by
  induction n generalizing m with
  | zero => exact nofun
  | succ n ih =>
    -- the machine goes on from a refused cycle too, and is well-formed behind it
    have later := ih wf.cycle
    intro result member
    rw [results, cycles, List.filterMap_cons] at member
    cases first : m.cycle.1 with
    | error fault =>
      rw [first] at member
      exact later result member
    | ok now =>
      rw [first] at member
      rcases List.mem_cons.mp member with rfl | member
      · exact wf.proper_of_cycle first
      · exact later result member

/-- **The trace.** However many cycles a well-formed machine goes through, they come to the same and
leave the same machines with the trace on and with the trace off. With the trace off they write
nothing; with the trace on each of them writes just one line if it comes to a result and none if it
is refused. Any two lines that are written in this way, perhaps by two machines, are the same
exactly if the words were executed or unknown alike, and the addresses and the words are the same,
apart from the third digit of a shift. -/
theorem tracedCycles_faithful {m : Machine σ} {other : Machine τ} (wf : m.WellFormed)
    (otherWf : other.WellFormed) (n k : Nat) :
    (∀ tracing, (m.tracedCycles tracing n).map (fun cycle => (cycle.outcome, cycle.machine)) =
        m.cycles n) ∧
      (m.tracedCycles false n).flatMap Traced.lines = [] ∧
      (m.tracedCycles true n).map Traced.lines =
        (m.cycles n).map (fun cycle => (cycle.1.toOption.map CycleResult.trace).toList) ∧
      ∀ r ∈ m.results n, ∀ s ∈ other.results k, r.trace = s.trace ↔ r.SameLook s := by
  refine ⟨fun tracing => m.tracedCycles_effect tracing n, m.lines_untracedCycles n,
    m.lines_tracedCycles n, fun r mine s theirs => ?_⟩
  exact CycleResult.trace_eq_iff (wf.proper_of_mem_results n r mine)
    (otherWf.proper_of_mem_results k s theirs)

/-- A machine whose program is one word comes to the word's result. -/
theorem results_of_loaded {source : σ} {m : Machine σ} {high low : UInt8} {x y : Fin 16}
    (loaded : (fresh source).loadRom #[high, low] = .ok m)
    (word : high.toNat * 256 + low.toNat = (Instruction.shiftRight x y).encode) :
    m.results 1 = [.executed 0x200 (Instruction.shiftRight x y).encode] := by
  have fetched : m.fetch = (Instruction.shiftRight x y).encode := by
    rw [← word]
    exact fetch_program loaded (Nat.lt_succ_self 1)
  have decoded : decode m.fetch = some (.shiftRight x y) := by
    rw [fetched]
    exact decode_encode _
  have cycled := cycle_of_execute_ok decoded rfl
  obtain ⟨memory, -, rfl⟩ := loadRom_fresh loaded
  rw [results, cycles, List.filterMap_cons, cycled, fetched]
  rfl

theorem tracedCycles_faithful_shifts :
    ∃ m n : Machine Tape,
      (fresh (Tape.ofList [])).loadRom #[0x81, 0x26] = .ok m ∧
        (fresh (Tape.ofList [])).loadRom #[0x81, 0x36] = .ok n ∧ m.WellFormed ∧ n.WellFormed ∧
          m.results 1 = [.executed 0x200 0x8126] ∧ n.results 1 = [.executed 0x200 0x8136] ∧
            (CycleResult.executed 0x200 0x8126).trace =
              (CycleResult.executed 0x200 0x8136).trace := by
  obtain ⟨m, loaded⟩ : ∃ m, (fresh (Tape.ofList [])).loadRom #[0x81, 0x26] = .ok m :=
    exists_loadRom _ (by decide)
  obtain ⟨n, alsoLoaded⟩ : ∃ n, (fresh (Tape.ofList [])).loadRom #[0x81, 0x36] = .ok n :=
    exists_loadRom _ (by decide)
  have wf := (WellFormed.fresh _).loadRom loaded
  have alsoWf := (WellFormed.fresh _).loadRom alsoLoaded
  have left : m.results 1 = [.executed 0x200 0x8126] :=
    results_of_loaded (x := 1) (y := 2) loaded rfl
  have right : n.results 1 = [.executed 0x200 0x8136] :=
    results_of_loaded (x := 1) (y := 3) alsoLoaded rfl
  obtain ⟨-, -, -, told⟩ := tracedCycles_faithful wf alsoWf 1 1
  rw [left, right] at told
  have same := (told _ (List.mem_singleton_self _) _ (List.mem_singleton_self _)).mpr
    ⟨rfl, rfl, .inr ⟨1, 2, 3, .inl ⟨rfl, rfl⟩⟩⟩
  exact ⟨m, n, loaded, alsoLoaded, wf, alsoWf, left, right, same⟩

end Machine

end ChipEight
