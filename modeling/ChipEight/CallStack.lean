import ChipEight.Fault
import ChipEight.Text.Hex

/-!
# The call stack

A stack of at most sixteen return addresses in an array of slots. The slots from `depth` on hold
stale addresses, which no operation looks at.

## Main definitions

* `CallStack` — the slots and the number of those in use
* `CallStack.toList` — the addresses in use, bottom first
* `CallStack.push`, `CallStack.pop` — refused when the stack is full or empty
* `CallStack.text` — the addresses in use as text

## Main results

* `CallStack.toList_push`, `CallStack.toList_pop` — what they do to the list of addresses
* `CallStack.push_eq_error_iff`, `CallStack.pop_eq_error_iff` — when they are refused
-/

namespace ChipEight

/-- Sixteen slots, of which the first `depth` are in use. -/
structure CallStack where
  slots : Vector Int 16
  depth : Nat
  depth_le : depth ≤ 16

namespace CallStack

/-- The stack with no slot in use. -/
def empty : CallStack where
  slots := Vector.replicate 16 0
  depth := 0
  depth_le := by decide

/-- The addresses in use, bottom first. -/
def toList (stack : CallStack) : List Int :=
  stack.slots.toList.take stack.depth

/-- The stack with an address on top. -/
def push (stack : CallStack) (address : Int) : Except Fault CallStack :=
  if h : stack.depth < 16 then
    .ok { slots := stack.slots.set stack.depth address, depth := stack.depth + 1, depth_le := h }
  else .error .stackFull

/-- The address on top, and the stack without it. -/
def pop (stack : CallStack) : Except Fault (Int × CallStack) :=
  if h : 0 < stack.depth then
    have : stack.depth ≤ 16 := stack.depth_le
    .ok (stack.slots[stack.depth - 1],
      { slots := stack.slots, depth := stack.depth - 1, depth_le := by omega })
  else .error .stackEmpty

/-- The addresses in use as text, bottom first. -/
def text (stack : CallStack) : String :=
  "[" ++ ", ".intercalate (stack.toList.map fun address => "0x" ++ Text.hex 4 address) ++ "]"

/-! ## The stack as a list -/

@[simp] theorem toList_empty : empty.toList = [] := rfl

@[simp] theorem length_toList (stack : CallStack) : stack.toList.length = stack.depth := by
  simp [toList, Nat.min_eq_left stack.depth_le]

/-- A push puts the address behind those in use. -/
theorem toList_push {stack next : CallStack} {address : Int} (h : stack.push address = .ok next) :
    next.toList = stack.toList ++ [address] := by
  unfold push at h
  split at h
  · rename_i room
    cases h
    simp only [toList, Vector.toList_set]
    rw [List.take_succ_eq_append_getElem (by simpa using room), List.take_set_of_le (Nat.le_refl _)]
    simp
  · cases h

/-- A pop takes the last address of those in use. -/
theorem toList_pop {stack next : CallStack} {address : Int} (h : stack.pop = .ok (address, next)) :
    stack.toList = next.toList ++ [address] := by
  unfold pop at h
  split at h
  · rename_i some_in_use
    have le := stack.depth_le
    cases h
    obtain ⟨slots, depth, _⟩ := stack
    obtain ⟨n, rfl⟩ : ∃ n, depth = n + 1 := ⟨depth - 1, by simp at some_in_use; omega⟩
    simp only [toList, Nat.add_sub_cancel]
    rw [List.take_succ_eq_append_getElem (by simp at le ⊢; omega)]
    simp
  · cases h

theorem push_eq_error_iff {stack : CallStack} {address : Int} {fault : Fault} :
    stack.push address = .error fault ↔ stack.depth = 16 ∧ fault = .stackFull := by
  have le := stack.depth_le
  unfold push
  split
  · simp; omega
  · simp only [Except.error.injEq]
    constructor
    · rintro rfl; exact ⟨by omega, rfl⟩
    · rintro ⟨_, rfl⟩; rfl

theorem pop_eq_error_iff {stack : CallStack} {fault : Fault} :
    stack.pop = .error fault ↔ stack.depth = 0 ∧ fault = .stackEmpty := by
  unfold pop
  split
  · simp; omega
  · simp only [Except.error.injEq]
    constructor
    · rintro rfl; exact ⟨by omega, rfl⟩
    · rintro ⟨_, rfl⟩; rfl

end CallStack

end ChipEight
