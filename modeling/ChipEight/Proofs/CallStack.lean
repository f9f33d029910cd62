import ChipEight.Command
import ChipEight.Proofs.Calls
import ChipEight.Proofs.Text.Listing

/-!
# The call stack as a bounded list

The slots of a call stack keep stale addresses from earlier calls, but none of its operations looks
at them. So it serves its calls like a list of at most sixteen addresses, where an address is put
behind those that are there and the last one is taken.

## Main definitions

* `CallStack.Call`, `CallStack.serve` — a call of the stack, and what the stack answers
* `CallStack.serveList` — what a bounded list of addresses answers to the same calls

## Main results

* `CallStack.simulates_list` — the stack serves a call as the list of its addresses does
* `CallStack.text_eq_iff` — the text of a stack tells which addresses are in use
* `CallStack.serves_as_list` — all that can be seen of a stack, after any calls of a new one
* `Machine.perform_stack` — a machine serves the commands for its stack as the stack serves the
  calls
-/

namespace ChipEight

namespace CallStack

/-- A call of the stack. -/
inductive Call where
  /-- Puts an address on top. -/
  | push (address : Int)
  /-- Takes the address on top. -/
  | pop

/-- A stack serves a call. -/
def serve (stack : CallStack) : Call → Except Fault (Answer × CallStack)
  | .push address => do return (.none, ← stack.push address)
  | .pop => do
    let (address, stack) ← stack.pop
    return (.number address, stack)

/-- A list of at most sixteen addresses serves a call; the last address is the latest one. -/
def serveList (live : List Int) : Call → Except Fault (Answer × List Int)
  | .push address => if live.length < 16 then .ok (.none, live ++ [address]) else .error .stackFull
  | .pop =>
    match live.getLast? with
    | some address => .ok (.number address, live.dropLast)
    | none => .error .stackEmpty

/-- The stack serves a call as the list of the addresses in use does. -/
theorem simulates_list : Simulates (fun stack live => stack.toList = live) serve serveList := by
  rintro stack _ rfl call
  cases call with
  | push address =>
    cases pushed : stack.push address with
    | ok next =>
      have room : stack.toList.length < 16 := by
        have longer := congrArg List.length (toList_push pushed)
        rw [length_toList, List.length_append, List.length_singleton] at longer
        exact Nat.lt_of_succ_le (Nat.le_trans (Nat.le_of_eq longer.symm) next.depth_le)
      simp only [serve, pushed, serveList, if_pos room]
      exact .ok ⟨rfl, toList_push pushed⟩
    | error fault =>
      obtain ⟨full, rfl⟩ := push_eq_error_iff.mp pushed
      have noRoom : ¬ stack.toList.length < 16 := by
        rw [length_toList, full]
        exact Nat.lt_irrefl 16
      simp only [serve, pushed, serveList, if_neg noRoom]
      exact .error _
  | pop =>
    cases popped : stack.pop with
    | ok found =>
      obtain ⟨address, next⟩ := found
      have live := toList_pop popped
      simp only [serve, popped, serveList, live, List.getLast?_concat, List.dropLast_concat]
      exact .ok ⟨rfl, rfl⟩
    | error fault =>
      obtain ⟨empty, rfl⟩ := pop_eq_error_iff.mp popped
      have none : stack.toList = [] :=
        List.length_eq_zero_iff.mp ((length_toList stack).trans empty)
      simp only [serve, popped, serveList, none]
      exact .error _

/-- The text of a stack tells which addresses are in use. -/
theorem text_eq_iff {stack other : CallStack} :
    stack.text = other.text ↔ stack.toList = other.toList := by
  have back : ∀ stack : CallStack,
      (Text.items stack.text).map (fun item => Text.readHex (item.drop 2)) = stack.toList :=
    fun stack => Text.readHex_items 4 stack.toList
  constructor
  · intro same
    rw [← back stack, same, back other]
  · intro same
    rw [text, text, same]

/-- What a refused call of a stack is refused for. -/
theorem serve_eq_error_iff {stack : CallStack} {call : Call} {fault : Fault} :
    stack.serve call = .error fault ↔
      (∃ address, call = .push address) ∧ stack.depth = 16 ∧ fault = .stackFull ∨
        call = .pop ∧ stack.depth = 0 ∧ fault = .stackEmpty := by
  cases call with
  | push address =>
    simp only [serve, bind_eq_error_iff, push_eq_error_iff, pure_eq_ok]
    simp
  | pop =>
    simp only [serve, bind_eq_error_iff, pop_eq_error_iff, pure_eq_ok]
    simp

/-- **A bounded list.** Whatever calls a new stack is given, it answers them like a list of
addresses: an address is put behind those that are there unless there are sixteen, and the last one
is taken unless there is none. Afterwards the depth is the length of that list, the text of the
stack lists it and tells it from every other list, and a further call is refused just at the two
bounds and changes nothing then. Another stack with the same addresses in use may hold anything in
its other slots: it answers all later calls in the same way, and its depth and its text are the same
after them. -/
theorem serves_as_list (calls : List Call) :
    ∃ answers stack live, serveAll serve empty calls = ⟨answers, stack⟩ ∧
      serveAll serveList [] calls = ⟨answers, live⟩ ∧
      stack.toList = live ∧ stack.depth = live.length ∧ live.length ≤ 16 ∧
      stack.text =
        "[" ++ ", ".intercalate (live.map fun address => "0x" ++ Text.hex 4 address) ++ "]" ∧
      (∀ other : CallStack, other.text = stack.text ↔ other.toList = live) ∧
      (∀ call fault, stack.serve call = .error fault ↔
        (∃ address, call = .push address) ∧ live.length = 16 ∧ fault = .stackFull ∨
          call = .pop ∧ live = [] ∧ fault = .stackEmpty) ∧
      (∀ call fault, stack.serve call = .error fault →
        fault.kind = .stack ∧
          serveAll serve empty (calls ++ [call]) = ⟨answers ++ [.error fault], stack⟩) ∧
      ∀ other : CallStack, other.toList = live → ∀ later,
        (serveAll serve other later).answers = (serveAll serve stack later).answers ∧
          (serveAll serve other later).final.depth = (serveAll serve stack later).final.depth ∧
          (serveAll serve other later).final.text = (serveAll serve stack later).final.text := by
  obtain ⟨answers, stack, live, served, listed, rfl⟩ :=
    simulates_list.exists_serveAll toList_empty calls
  refine ⟨answers, stack, _, served, listed, rfl, (length_toList stack).symm, ?_, rfl,
    ?_, ?_, ?_, ?_⟩
  · rw [length_toList]
    exact stack.depth_le
  · exact fun other => text_eq_iff
  · intro call fault
    rw [serve_eq_error_iff, length_toList, ← List.length_eq_zero_iff, length_toList]
  · intro call fault refused
    refine ⟨?_, serveAll_concat_of_error served refused⟩
    rcases serve_eq_error_iff.mp refused with ⟨-, -, rfl⟩ | ⟨-, -, rfl⟩
    · rfl
    · rfl
  · intro other same later
    -- both stacks are simulated by one list, which knows nothing of the other slots
    obtain ⟨answers, final⟩ := simulates_list.always same later
    obtain ⟨answers', final'⟩ := simulates_list.always (rfl : stack.toList = _) later
    have live := final.trans final'.symm
    refine ⟨answers.trans answers'.symm, ?_, text_eq_iff.mpr live⟩
    rw [← length_toList, live, length_toList]

/-- Two addresses are put on a stack and taken again. -/
def visits : List Call :=
  [.push 5, .push (-7), .pop, .pop]

/-- The addresses are still in the slots of the stack, but nothing tells it from a new one, and it
is empty. -/
theorem serves_as_list_visits :
    (serveAll serve empty visits).final.slots ≠ empty.slots ∧
      (serveAll serve empty visits).final.text = empty.text ∧
      (∀ later,
        (serveAll serve empty later).answers =
          (serveAll serve (serveAll serve empty visits).final later).answers) ∧
      (serveAll serve empty (visits ++ [.pop])).answers =
        [.ok .none, .ok .none, .ok (.number (-7)), .ok (.number 5), .error .stackEmpty] := by
  obtain ⟨answers, stack, live, served, listed, -, -, -, -, told, refused, unchanged, same⟩ :=
    serves_as_list visits
  obtain ⟨rfl, rfl⟩ := Served.mk.inj listed
  have stale : (serveAll serve empty visits).final.slots ≠ empty.slots := by decide
  have noneLeft : stack.serve .pop = .error .stackEmpty :=
    (refused _ _).mpr (.inr ⟨rfl, rfl, rfl⟩)
  have after := (unchanged _ _ noneLeft).2
  rw [served] at stale ⊢
  rw [after]
  exact ⟨stale, ((told empty).mpr toList_empty).symm,
    fun later => (same empty toList_empty later).1, rfl⟩

end CallStack

/-- The command that a call of the stack stands for. -/
def CallStack.Call.command : CallStack.Call → Command
  | push address => .push address
  | pop => .pop

/-- A machine carries out a command for its stack as the stack serves the call, and nothing else of
it changes. -/
theorem Machine.perform_stack {σ : Type} [ByteSource σ] (m : Machine σ) (call : CallStack.Call) :
    m.perform call.command =
      .ofExcept m
        ((m.stack.serve call).map fun found => (found.1, { m with stack := found.2 })) := by
  cases call with
  | push address =>
    rw [CallStack.Call.command, perform, CallStack.serve]
    cases m.stack.push address with
    | ok stack => rfl
    | error fault => rfl
  | pop =>
    rw [CallStack.Call.command, perform, CallStack.serve]
    cases m.stack.pop with
    | ok found => rfl
    | error fault => rfl

end ChipEight
