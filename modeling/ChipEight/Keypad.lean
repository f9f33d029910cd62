import ChipEight.Fault

/-!
# The keypad

Sixteen keys, each up or down.

## Main definitions

* `Keypad` — which keys are down
* `Keypad.keyOf` — the key that a host value names
* `Keypad.press`, `Keypad.release` — put a key down, and up again
* `Keypad.untouched`, `Keypad.first` — whether no key is down, and the lowest key that is
-/

namespace ChipEight

/-- The state of each key: `true` when it is down. -/
structure Keypad where
  down : Vector Bool 16
  deriving DecidableEq

namespace Keypad

/-- The keypad with all keys up. -/
def released : Keypad := ⟨Vector.replicate 16 false⟩

/-- The key that a host value names: a whole number from zero to fifteen. -/
def keyOf (value : Value) : Except Fault (Fin 16) :=
  match value.int? with
  | some n => if h : 0 ≤ n ∧ n < 16 then .ok ⟨n.toNat, by omega⟩ else .error (.notAKey value)
  | none => .error (.notAKey value)

/-- Whether a key is down. -/
def isDown (keypad : Keypad) (key : Fin 16) : Bool :=
  keypad.down[key]

/-- The keypad with a key down. -/
def press (keypad : Keypad) (key : Fin 16) : Keypad :=
  ⟨keypad.down.set key true⟩

/-- The keypad with a key up that was down. -/
def release (keypad : Keypad) (key : Fin 16) : Except Fault Keypad :=
  if keypad.isDown key then .ok ⟨keypad.down.set key false⟩ else .error (.notPressed key)

/-- The keys that are down, in ascending order. -/
def pressed (keypad : Keypad) : List (Fin 16) :=
  (List.finRange 16).filter keypad.isDown

/-- Whether all keys are up. -/
def untouched (keypad : Keypad) : Bool :=
  keypad.down.all (!·)

/-- The lowest key that is down. -/
def first (keypad : Keypad) : Option (Fin 16) :=
  (List.finRange 16).find? keypad.isDown

@[simp] theorem isDown_released (key : Fin 16) : released.isDown key = false := by
  simp [isDown, released]

theorem isDown_set (keypad : Keypad) (key other : Fin 16) (down : Bool) :
    isDown ⟨keypad.down.set key down⟩ other =
      if key = other then down else keypad.isDown other := by
  simp only [isDown, Fin.getElem_fin, Vector.getElem_set, Fin.val_inj]

theorem isDown_press (keypad : Keypad) (key other : Fin 16) :
    (keypad.press key).isDown other = (decide (key = other) || keypad.isDown other) := by
  rw [press, isDown_set]
  split <;> simp [*]

/-- A key is found unless all keys are up. -/
theorem first_eq_none_iff {keypad : Keypad} :
    keypad.first = none ↔ ∀ key, keypad.isDown key = false := by
  simp [first, List.find?_eq_none]

/-- The key that is found is down, and no lower one is. -/
theorem first_eq_some_iff {keypad : Keypad} {key : Fin 16} :
    keypad.first = some key ↔
      keypad.isDown key = true ∧ ∀ lower < key, keypad.isDown lower = false := by
  simp only [first, List.find?_eq_some_iff_getElem, List.getElem_finRange, List.length_finRange]
  constructor
  · rintro ⟨down, i, inside, rfl, up⟩
    refine ⟨down, fun lower below => ?_⟩
    simpa using up lower.val below
  · rintro ⟨down, up⟩
    refine ⟨down, key.val, key.isLt, rfl, fun j before => ?_⟩
    simpa using up ⟨j, by omega⟩ before

/-- The keys of a list are down after they have been put down, and the others are as before. -/
theorem isDown_foldl_press (keypad : Keypad) (keys : List (Fin 16)) (key : Fin 16) :
    (keys.foldl press keypad).isDown key = true ↔ key ∈ keys ∨ keypad.isDown key = true := by
  induction keys generalizing keypad with
  | nil => simp
  | cons pressed rest ih =>
    rw [List.foldl_cons, ih, isDown_press, Bool.or_eq_true, decide_eq_true_iff, List.mem_cons]
    grind

end Keypad

end ChipEight
