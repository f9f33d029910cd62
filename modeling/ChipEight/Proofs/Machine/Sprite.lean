import ChipEight.Proofs.Machine.Cycle

/-!
# Drawing a sprite

A sprite has eight pixels to the byte, and at most fifteen bytes. However it wraps around the edges,
it fits on the display without reaching a pixel twice. So the strokes of a draw instruction, which
are taken one after the other, come to the same as turning over all pixels under the sprite at once,
and a stroke finds its pixel as it was before the instruction.

## Main definitions

* `Machine.Covers` — whether the sprite of a draw instruction has a bit on over a pixel

## Main results

* `Stroke.countP_ofSprite_le_one` — a sprite no larger than the display turns no pixel over twice
* `Machine.execute_draw` — the display, the flag and everything else after a draw instruction
-/

namespace ChipEight

/-- Places less than a whole turn apart stay apart when they wrap around. -/
theorem eq_of_emod_eq {size start : Int} {a b : Nat} (first : a < size) (second : b < size)
    (same : (start + a) % size = (start + b) % size) : a = b := by
  have offsets := Int.emod_add_cancel_left.mp same
  rw [Int.emod_eq_of_lt (Int.natCast_nonneg a) first,
    Int.emod_eq_of_lt (Int.natCast_nonneg b) second] at offsets
  exact Int.ofNat_inj.mp offsets

/-- If no two members of a list pass a test, it counts at most one. -/
theorem countP_le_one {α : Type} {test : α → Bool} {list : List α}
    (apart : list.Pairwise fun a b => ¬ (test a = true ∧ test b = true)) :
    list.countP test ≤ 1 := by
  induction apart with
  | nil => exact Nat.zero_le 1
  | @cons first rest others _ ih =>
    rw [List.countP_cons]
    split
    · next passes =>
      have none : rest.countP test = 0 :=
        List.countP_eq_zero.mpr fun b mem also => others b mem ⟨passes, also⟩
      omega
    · exact ih

namespace Stroke

variable {width height x y px py : Int} {rows : List Nat}

theorem mem_ofSprite_iff {stroke : Stroke} :
    stroke ∈ ofSprite x y rows ↔
      ∃ row, ∃ inside : row < rows.length, ∃ column : Nat, column < 8 ∧
        stroke = ⟨x + column, y + row, rows[row].testBit (7 - column)⟩ := by
  simp only [ofSprite, List.mem_flatMap, List.mem_map, List.mem_range, Prod.exists,
    List.mk_mem_zipIdx_iff_getElem?, List.getElem?_eq_some_iff]
  constructor
  · rintro ⟨byte, row, ⟨inside, rfl⟩, column, bound, rfl⟩
    exact ⟨row, inside, column, bound, rfl⟩
  · rintro ⟨row, inside, column, bound, rfl⟩
    exact ⟨_, row, ⟨inside, rfl⟩, column, bound, rfl⟩

/-- A sprite that is no larger than the display turns no pixel over twice. -/
theorem countP_ofSprite_le_one (wide : 8 ≤ width) (high : rows.length ≤ height) :
    (ofSprite x y rows).countP (·.toggles width height px py) ≤ 1 := by
  have apart {a b : Stroke} (both : a.toggles width height px py = true ∧
      b.toggles width height px py = true) :
      a.x % width = b.x % width ∧ a.y % height = b.y % height :=
    ⟨(toggles_iff.mp both.1).2.1.trans (toggles_iff.mp both.2).2.1.symm,
      (toggles_iff.mp both.1).2.2.trans (toggles_iff.mp both.2).2.2.symm⟩
  apply countP_le_one
  rw [ofSprite, List.pairwise_flatMap]
  constructor
  · rintro ⟨byte, row⟩ -
    rw [List.pairwise_map]
    refine List.pairwise_lt_range.imp_of_mem ?_
    intro a b first second before both
    rw [List.mem_range] at first second
    exact Nat.ne_of_lt before (eq_of_emod_eq (by omega) (by omega) (apart both).1)
  · rw [List.pairwise_iff_getElem]
    intro i j first second before
    rw [List.length_zipIdx] at first second
    simp only [List.getElem_zipIdx, Nat.zero_add, List.mem_map]
    rintro _ ⟨_, _, rfl⟩ _ ⟨_, _, rfl⟩ both
    exact Nat.ne_of_lt before (eq_of_emod_eq (by omega) (by omega) (apart both).2)

end Stroke

/-! ## The draw instruction -/

namespace Machine

variable {σ : Type}

/-- Whether the sprite of a draw instruction has a bit on over the pixel at a place. -/
def Covers (m : Machine σ) (x y rows : Fin 16) (px py : Int) : Prop :=
  ∃ row < rows.val, ∃ column < 8,
    ((m.register x + column : Nat) : Int) % screenWidth = px ∧
      ((m.register y + row : Nat) : Int) % screenHeight = py ∧
        (m.memory.cells[(m.index + row) % 4096]).testBit (7 - column) = true

instance (m : Machine σ) (x y rows : Fin 16) (px py : Int) : Decidable (m.Covers x y rows px py) :=
  inferInstanceAs (Decidable (∃ row < rows.val, ∃ column < 8, _ ∧ _ ∧ _))

variable {m : Machine σ} {x y rows : Fin 16} {px py : Int}

theorem inside_of_covers (covers : m.Covers x y rows px py) :
    (0 ≤ px ∧ px < screenWidth) ∧ 0 ≤ py ∧ py < screenHeight := by
  obtain ⟨row, -, column, -, rfl, rfl, -⟩ := covers
  exact Display.emod_inside (by decide) (by decide) _ _

theorem length_block (n : Nat) : (m.block n).length = n := by
  rw [block, List.length_map, List.length_range]

theorem getElem_block {n k : Nat} (inside : k < (m.block n).length) :
    (m.block n)[k] = m.memory.cells[(m.index + k) % 4096] := by
  simp only [block, List.getElem_map, List.getElem_range]
  rfl

/-- A sprite covers the pixels that one of its strokes turns over. -/
theorem covers_iff (across : 0 ≤ px ∧ px < screenWidth) (down : 0 ≤ py ∧ py < screenHeight) :
    m.Covers x y rows px py ↔
      ∃ stroke ∈ Stroke.ofSprite (m.register x) (m.register y) (m.block rows),
        stroke.toggles screenWidth screenHeight px py = true := by
  constructor
  · rintro ⟨row, below, column, left, rfl, rfl, bit⟩
    refine ⟨_, Stroke.mem_ofSprite_iff.mpr ⟨row, ?_, column, left, rfl⟩, ?_⟩
    · rw [length_block]
      exact below
    · rw [Stroke.toggles_iff, getElem_block]
      exact ⟨bit, (Int.emod_emod ..).symm, (Int.emod_emod ..).symm⟩
  · rintro ⟨_, mem, turns⟩
    obtain ⟨row, below, column, left, rfl⟩ := Stroke.mem_ofSprite_iff.mp mem
    rw [Stroke.toggles_iff, getElem_block, Int.emod_eq_of_lt across.1 across.2,
      Int.emod_eq_of_lt down.1 down.2] at turns
    rw [length_block] at below
    exact ⟨row, below, column, left, turns.2.1, turns.2.2, turns.1⟩

/-- No pixel is turned over twice, so those under the sprite are turned over once. -/
theorem countP_toggles (across : 0 ≤ px ∧ px < screenWidth) (down : 0 ≤ py ∧ py < screenHeight) :
    (Stroke.ofSprite (m.register x) (m.register y) (m.block rows)).countP
        (·.toggles screenWidth screenHeight px py) =
      (decide (m.Covers x y rows px py)).toNat := by
  have fits : ((m.block rows).length : Int) ≤ screenHeight := by
    have bound := rows.isLt
    rw [length_block, screenHeight]
    omega
  have once : (Stroke.ofSprite (m.register x) (m.register y) (m.block rows)).countP
      (·.toggles screenWidth screenHeight px py) ≤ 1 :=
    Stroke.countP_ofSprite_le_one (by decide) fits
  by_cases covers : m.Covers x y rows px py
  · have turned := List.countP_pos_iff.mpr ((covers_iff across down).mp covers)
    rw [decide_eq_true covers, Bool.toNat_true]
    exact Nat.le_antisymm once turned
  · rw [decide_eq_false covers, Bool.toNat_false, List.countP_eq_zero]
    intro stroke mem turns
    exact covers ((covers_iff across down).mpr ⟨stroke, mem, turns⟩)

variable [ByteSource σ]

/-- **Drawing.** A draw instruction is not refused. It turns over the pixels that the sprite covers
and no others, and the flag tells whether one of them was lit. Where the sprite goes is read from
the registers as they were before, also when `VF` is one of them. Nothing else is different, except
that something is drawn. -/
theorem execute_draw (m : Machine σ) (x y rows : Fin 16) :
    ∃ display collided,
      m.execute (.draw x y rows) =
          .ok ({ m with display, drawn := true }.setRegister flagRegister (flag collided)) ∧
        (∀ px py,
          display.isLit px py = (m.display.isLit px py ^^ decide (m.Covers x y rows px py))) ∧
        (collided = true ↔ ∃ px py, m.Covers x y rows px py ∧ m.display.isLit px py = true) := by
  have wide : 0 < screenWidth := by decide
  have high : 0 < screenHeight := by decide
  refine ⟨_, _, drawSprite_eq m x y rows, fun px py => ?_, ?_⟩
  · by_cases inside : (0 ≤ px ∧ px < screenWidth) ∧ 0 ≤ py ∧ py < screenHeight
    · rw [Display.isLit_after wide high _ inside.1 inside.2, countP_toggles inside.1 inside.2]
      congr 1
      cases decide (m.Covers x y rows px py) <;> rfl
    · rw [decide_eq_false fun covers => inside (inside_of_covers covers), Bool.xor_false,
        Display.isLit_of_not_inside inside, Display.isLit_of_not_inside inside]
  · rw [decide_eq_true_iff, Display.count_hits_pos_iff wide high]
    constructor
    · rintro ⟨px, py, across, down, turned⟩
      -- the pixel is not turned over twice, so it was lit
      rw [countP_toggles across down] at turned
      refine ⟨px, py, ?_⟩
      rw [← decide_eq_true_iff (p := m.Covers x y rows px py)]
      revert turned
      cases decide (m.Covers x y rows px py) <;> cases m.display.isLit px py <;> decide
    · rintro ⟨px, py, covers, lit⟩
      obtain ⟨across, down⟩ := inside_of_covers covers
      refine ⟨px, py, across, down, ?_⟩
      rw [countP_toggles across down, decide_eq_true covers, lit]
      decide

end Machine

end ChipEight
