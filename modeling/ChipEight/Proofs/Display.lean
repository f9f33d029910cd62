import ChipEight.Display
import ChipEight.Proofs.Refusal

/-!
# Pixels and positions

A pixel inside a display is on or off, and a display is known by its pixels. In a display with
pixels any coordinates wrap around to a position inside it, and each position belongs to one pixel.

## Main definitions

* `Display.isLit` — whether the pixel at a place is on

## Main results

* `Display.position_lt` — the position of a place is inside the display
* `Display.position_eq_iff` — which places have the same position
* `Display.ext_isLit` — displays with the same pixels are the same
-/

namespace ChipEight.Display

variable {width height : Int}

/-- Whether the pixel at a place is on; there is none outside the display. -/
def isLit (display : Display width height) (x y : Int) : Bool :=
  match display.pixelAt x y with
  | .ok lit => lit
  | .error _ => false

theorem pixelAt_eq_ok (display : Display width height) {x y : Int} (across : 0 ≤ x ∧ x < width)
    (down : 0 ≤ y ∧ y < height) : display.pixelAt x y = .ok (display.isLit x y) := by
  have inside : 0 ≤ x ∧ x < width ∧ 0 ≤ y ∧ y < height := ⟨across.1, across.2, down⟩
  simp only [isLit, pixelAt, if_pos inside]

theorem isLit_iff {display : Display width height} {x y : Int} :
    display.isLit x y = true ↔ display.pixelAt x y = .ok true := by
  unfold isLit
  cases display.pixelAt x y <;> simp

/-- Nothing is lit outside the display. -/
theorem isLit_of_not_inside {display : Display width height} {x y : Int}
    (outside : ¬ ((0 ≤ x ∧ x < width) ∧ 0 ≤ y ∧ y < height)) : display.isLit x y = false := by
  have none : ¬ (0 ≤ x ∧ x < width ∧ 0 ≤ y ∧ y < height) := fun inside =>
    outside ⟨⟨inside.1, inside.2.1⟩, inside.2.2⟩
  simp only [isLit, pixelAt, if_neg none]

@[simp] theorem isLit_blank (x y : Int) : (blank width height).isLit x y = false := by
  unfold isLit pixelAt
  split
  · next found =>
    split at found
    · cases found
      simp [blank, Vector.getElem?_replicate]
      split <;> rfl
    · cases found
  · rfl

/-- The position of a place is inside the display. -/
theorem position_lt (wide : 0 < width) (high : 0 < height) (x y : Int) :
    position width height x y < height.toNat * width.toNat := by
  have column := Int.emod_lt_of_pos x wide
  have row := Int.emod_lt_of_pos y high
  have rowStart := Int.mul_le_mul_of_nonneg_right (Int.le_sub_one_of_lt row) (Int.le_of_lt wide)
  rw [Int.sub_mul, Int.one_mul] at rowStart
  have total : y % height * width + x % width < height * width := by omega
  have size : ((height.toNat * width.toNat : Nat) : Int) = height * width := by
    rw [Int.natCast_mul, Int.toNat_of_nonneg (Int.le_of_lt high),
      Int.toNat_of_nonneg (Int.le_of_lt wide)]
  have nonneg : 0 ≤ y % height * width + x % width :=
    Int.add_nonneg (Int.mul_nonneg (Int.emod_nonneg y (Int.ne_of_gt high)) (Int.le_of_lt wide))
      (Int.emod_nonneg x (Int.ne_of_gt wide))
  unfold position
  omega

/-- A place inside the display does not wrap around. -/
theorem position_of_inside {x y : Int} (across : 0 ≤ x ∧ x < width) (down : 0 ≤ y ∧ y < height) :
    position width height x y = (y * width + x).toNat := by
  rw [position, Int.emod_eq_of_lt across.1 across.2, Int.emod_eq_of_lt down.1 down.2]

/-- Two places have the same position if they agree up to the sides of the display. -/
theorem position_eq_iff (wide : 0 < width) (high : 0 < height) {x y px py : Int} :
    position width height x y = position width height px py ↔
      x % width = px % width ∧ y % height = py % height := by
  have row (a b : Int) : (b % height * width + a % width) / width = b % height := by
    rw [Int.add_comm, Int.add_mul_ediv_right _ _ (Int.ne_of_gt wide),
      Int.ediv_eq_zero_of_lt (Int.emod_nonneg a (Int.ne_of_gt wide)) (Int.emod_lt_of_pos a wide),
      Int.zero_add]
  have column (a b : Int) : (b % height * width + a % width) % width = a % width := by
    rw [Int.mul_add_emod_self_right, Int.emod_emod]
  have nonneg (a b : Int) : 0 ≤ b % height * width + a % width :=
    Int.add_nonneg (Int.mul_nonneg (Int.emod_nonneg b (Int.ne_of_gt high)) (Int.le_of_lt wide))
      (Int.emod_nonneg a (Int.ne_of_gt wide))
  constructor
  · intro same
    have left := nonneg x y
    have right := nonneg px py
    have whole : y % height * width + x % width = py % height * width + px % width := by
      unfold position at same
      omega
    have columns := congrArg (· % width) whole
    have rows := congrArg (· / width) whole
    simp only [column, row] at columns rows
    exact ⟨columns, rows⟩
  · rintro ⟨across, down⟩
    rw [position, position, across, down]

theorem isLit_eq_getElem (display : Display width height) {x y : Int} (across : 0 ≤ x ∧ x < width)
    (down : 0 ≤ y ∧ y < height) :
    display.isLit x y =
      getElem display.pixels (position width height x y)
        (position_lt (by omega) (by omega) x y) := by
  have inside : 0 ≤ x ∧ x < width ∧ 0 ≤ y ∧ y < height := ⟨across.1, across.2, down⟩
  simp only [isLit, pixelAt, if_pos inside, ← position_of_inside across down]
  rw [Vector.getElem?_eq_getElem (position_lt (by omega) (by omega) x y), Option.getD_some]

/-- Displays that agree on the pixels inside are the same. -/
theorem ext_isLit {display other : Display width height}
    (same : ∀ x y, 0 ≤ x ∧ x < width → 0 ≤ y ∧ y < height → display.isLit x y = other.isLit x y) :
    display = other := by
  obtain ⟨pixels⟩ := display
  obtain ⟨others⟩ := other
  congr 1
  apply Vector.ext
  intro i inside
  have column : i % width.toNat < width.toNat :=
    Nat.mod_lt i (Nat.pos_of_ne_zero fun none => by simp [none] at inside)
  have row : i / width.toNat < height.toNat := Nat.div_lt_of_lt_mul (Nat.mul_comm .. ▸ inside)
  have whole := Nat.div_add_mod' i width.toNat
  generalize i % width.toNat = x, i / width.toNat = y at column row whole
  have across : (0 : Int) ≤ x ∧ (x : Int) < width := by omega
  have down : (0 : Int) ≤ y ∧ (y : Int) < height := by omega
  have position : position width height x y = i := by
    rw [position_of_inside across down, show width = width.toNat by omega, ← Int.natCast_mul,
      ← Int.natCast_add, Int.toNat_natCast]
    exact whole
  have agree := same x y across down
  simpa only [isLit_eq_getElem _ across down, position] using agree

end ChipEight.Display
