import ChipEight.Proofs.Display

/-!
# Strokes one after the other

A display of any size with pixels takes a list of strokes as an account of its pixels. A stroke with
its bit on turns one pixel over, the one that its coordinates wrap around to, and collides if that
pixel was lit. So what becomes of a pixel depends only on how many strokes turn it over, and the
order of the strokes matters neither for the pixels nor for the number of collisions. A display
without pixels refuses every stroke.

## Main definitions

* `Stroke.toggles` — whether a stroke turns the pixel at a place over
* `Display.strike`, `Display.after` — what a stroke does, and the display after a list of strokes
* `Display.answers` — what each of the strokes answers

## Main results

* `Display.isLit_strike` — what one stroke does to the pixels
* `Display.isLit_after`, `Display.collisions_at` — what a list of strokes does to a pixel, and how
  often it collides there
* `Display.count_hits_pos_iff` — when a list of strokes collides at all
* `Display.xorAll_of_perm` — the order of the strokes does not matter
* `Display.strokes_algebra` — all this, and the displays without pixels
-/

namespace ChipEight

variable {width height : Int}

/-- Whether a stroke turns the pixel at a place over: its bit is on, and its coordinates are those
of the place up to the sides of the display. -/
def Stroke.toggles (width height px py : Int) (stroke : Stroke) : Bool :=
  stroke.bit && decide (stroke.x % width = px % width ∧ stroke.y % height = py % height)

theorem Stroke.toggles_iff {px py : Int} {stroke : Stroke} :
    stroke.toggles width height px py = true ↔
      stroke.bit = true ∧ stroke.x % width = px % width ∧ stroke.y % height = py % height := by
  rw [toggles, Bool.and_eq_true, decide_eq_true_iff]

namespace Display

/-- What a stroke answers, and the display after it. A stroke that is refused leaves the display
alone. -/
def strike (display : Display width height) (stroke : Stroke) :
    Except Fault Bool × Display width height :=
  match display.xorPixel stroke.x stroke.y stroke.bit with
  | .ok (hit, next) => (.ok hit, next)
  | .error fault => (.error fault, display)

/-- The display after strokes one after the other, the refused ones included. -/
def after (display : Display width height) (strokes : List Stroke) : Display width height :=
  strokes.foldl (fun display stroke => (display.strike stroke).2) display

/-- What strokes one after the other answer. -/
def answers (display : Display width height) : List Stroke → List (Except Fault Bool)
  | [] => []
  | stroke :: rest => (display.strike stroke).1 :: (display.strike stroke).2.answers rest

/-! ## One stroke -/

/-- Whether a stroke collides: its bit is on, and the pixel that it wraps around to is lit. -/
def collides (display : Display width height) (stroke : Stroke) : Bool :=
  stroke.bit && display.isLit (stroke.x % width) (stroke.y % height)

/-- Which of the strokes one after the other collide. -/
def hits (display : Display width height) : List Stroke → List Bool
  | [] => []
  | stroke :: rest => display.collides stroke :: (display.strike stroke).2.hits rest

variable {display : Display width height}

section Pixels

variable (wide : 0 < width) (high : 0 < height)

include wide high

theorem emod_inside (x y : Int) :
    (0 ≤ x % width ∧ x % width < width) ∧ 0 ≤ y % height ∧ y % height < height :=
  ⟨⟨Int.emod_nonneg x (Int.ne_of_gt wide), Int.emod_lt_of_pos x wide⟩,
    Int.emod_nonneg y (Int.ne_of_gt high), Int.emod_lt_of_pos y high⟩

theorem isLit_emod (x y : Int) :
    display.isLit (x % width) (y % height) =
      getElem display.pixels (position width height x y) (position_lt wide high x y) := by
  obtain ⟨across, down⟩ := emod_inside wide high x y
  have same : position width height (x % width) (y % height) = position width height x y :=
    (position_eq_iff wide high).mpr ⟨Int.emod_emod .., Int.emod_emod ..⟩
  simp only [isLit_eq_getElem display across down, same]

/-- A display with pixels takes a stroke. -/
theorem xorPixel_eq_set (stroke : Stroke) :
    display.xorPixel stroke.x stroke.y stroke.bit =
      .ok (display.collides stroke,
        ⟨display.pixels.set (position width height stroke.x stroke.y)
          (display.isLit (stroke.x % width) (stroke.y % height) ^^ stroke.bit)
          (position_lt wide high ..)⟩) := by
  have inside := position_lt wide high stroke.x stroke.y
  rw [collides, isLit_emod wide high, Bool.and_comm, xorPixel, if_neg (by omega), dif_pos inside]

theorem xorPixel_eq (stroke : Stroke) :
    display.xorPixel stroke.x stroke.y stroke.bit =
      .ok (display.collides stroke, (display.strike stroke).2) := by
  rw [strike, xorPixel_eq_set wide high]

/-- A stroke turns over the pixel that it wraps around to, if its bit is on, and no other one. -/
theorem isLit_strike (stroke : Stroke) {px py : Int} (across : 0 ≤ px ∧ px < width)
    (down : 0 ≤ py ∧ py < height) :
    (display.strike stroke).2.isLit px py =
      (display.isLit px py ^^ stroke.toggles width height px py) := by
  rw [strike, xorPixel_eq_set wide high, isLit_eq_getElem _ across down,
    isLit_eq_getElem _ across down, isLit_emod wide high, Stroke.toggles]
  simp only [Vector.getElem_set, position_eq_iff wide high]
  split
  · next here =>
    have same := (position_eq_iff wide high).mpr here
    simp only [same, here, and_self, decide_true, Bool.and_true]
  · next elsewhere => simp only [elsewhere, decide_false, Bool.and_false, Bool.xor_false]

/-- A stroke collides after another one if the other one has left its pixel lit. -/
theorem collides_strike (first second : Stroke) :
    (display.strike first).2.collides second =
      (second.bit && (display.isLit (second.x % width) (second.y % height) ^^
        first.toggles width height second.x second.y)) := by
  obtain ⟨across, down⟩ := emod_inside wide high second.x second.y
  simp only [collides, isLit_strike wide high _ across down, Stroke.toggles, Int.emod_emod]

/-- Two strokes may change places: the pixels and the number of collisions stay the same. -/
theorem strike_comm (display : Display width height) (first second : Stroke) :
    ((display.strike first).2.strike second).2 = ((display.strike second).2.strike first).2 ∧
      (display.collides first).toNat + ((display.strike first).2.collides second).toNat =
        (display.collides second).toNat + ((display.strike second).2.collides first).toNat := by
  constructor
  · apply ext_isLit
    intro px py across down
    simp only [isLit_strike wide high _ across down, Bool.xor_right_comm]
  · rw [collides_strike wide high, collides_strike wide high]
    simp only [collides, Stroke.toggles]
    by_cases same : first.x % width = second.x % width ∧ first.y % height = second.y % height
    · -- the later one of the two finds what the earlier one has left
      simp only [same, and_self, decide_true, Bool.and_true]
      generalize display.isLit (second.x % width) (second.y % height) = lit
      revert lit
      cases first.bit <;> cases second.bit <;> simp
    · have apart : ¬ (second.x % width = first.x % width ∧ second.y % height = first.y % height) :=
        fun here => same ⟨here.1.symm, here.2.symm⟩
      simp only [same, apart, decide_false, Bool.and_false, Bool.xor_false]
      exact Nat.add_comm ..

omit wide high in
/-- A stroke that turns a pixel over collides if that pixel is lit. -/
theorem collides_of_toggles {stroke : Stroke} {px py : Int} (across : 0 ≤ px ∧ px < width)
    (down : 0 ≤ py ∧ py < height) (turns : stroke.toggles width height px py = true) :
    display.collides stroke = display.isLit px py := by
  obtain ⟨bit, column, row⟩ := Stroke.toggles_iff.mp turns
  rw [collides, bit, Bool.true_and, column, row, Int.emod_eq_of_lt across.1 across.2,
    Int.emod_eq_of_lt down.1 down.2]

/-! ## Many strokes -/

theorem answers_eq (strokes : List Stroke) :
    display.answers strokes = (display.hits strokes).map .ok := by
  induction strokes generalizing display with
  | nil => rfl
  | cons stroke rest ih =>
    have answer : (display.strike stroke).1 = .ok (display.collides stroke) := by
      rw [strike, xorPixel_eq wide high]
    rw [answers, hits, List.map_cons, ih, answer]

omit wide high in
theorem count_hits_cons (stroke : Stroke) (rest : List Stroke) :
    (display.hits (stroke :: rest)).count true =
      (display.collides stroke).toNat + ((display.strike stroke).2.hits rest).count true := by
  rw [hits, List.count_cons, Nat.add_comm]
  cases display.collides stroke <;> rfl

/-- A list of strokes gives the number of collisions and the display after it. -/
theorem xorAll_eq (strokes : List Stroke) :
    display.xorAll strokes = .ok ((display.hits strokes).count true, display.after strokes) := by
  induction strokes generalizing display with
  | nil => rfl
  | cons stroke rest ih =>
    simp only [xorAll, xorPixel_eq wide high, ok_bind, ih, count_hits_cons]
    rfl

/-- A pixel is turned over as often as strokes turn it over. -/
theorem isLit_after (strokes : List Stroke) {px py : Int} (across : 0 ≤ px ∧ px < width)
    (down : 0 ≤ py ∧ py < height) :
    (display.after strokes).isLit px py =
      (display.isLit px py ^^ decide (strokes.countP (·.toggles width height px py) % 2 = 1)) := by
  induction strokes generalizing display with
  | nil => simp [after]
  | cons stroke rest ih =>
    have first : (display.strike stroke).2.isLit px py = _ :=
      isLit_strike wide high stroke across down
    have later := @ih (display.strike stroke).2
    rw [show display.after (stroke :: rest) = (display.strike stroke).2.after rest from rfl, later,
      first, List.countP_cons, Bool.xor_assoc]
    congr 1
    cases stroke.toggles width height px py with
    | false => simp
    | true =>
      rw [Bool.true_xor, ← decide_not]
      exact decide_eq_decide.mpr (by simp only [if_true]; omega)

/-- A pixel that is turned over time and again is lit before every other time, so every other stroke
that turns it over collides. -/
theorem collisions_at (strokes : List Stroke) {px py : Int} (across : 0 ≤ px ∧ px < width)
    (down : 0 ≤ py ∧ py < height) :
    (strokes.zip (display.hits strokes)).countP
        (fun call => call.1.toggles width height px py && call.2) =
      (strokes.countP (·.toggles width height px py) + (display.isLit px py).toNat) / 2 := by
  induction strokes generalizing display with
  | nil =>
    have bit := Bool.toNat_lt (display.isLit px py)
    simp only [hits, List.zip_nil_left, List.countP_nil]
    omega
  | cons stroke rest ih =>
    have first : (display.strike stroke).2.isLit px py = _ :=
      isLit_strike wide high stroke across down
    have later := @ih (display.strike stroke).2
    rw [hits, List.zip_cons_cons, List.countP_cons, List.countP_cons, later, first]
    cases turns : stroke.toggles width height px py with
    | false => simp
    | true =>
      rw [collides_of_toggles across down turns]
      cases display.isLit px py with
      | false => simp
      | true => simp; omega

omit wide high in
/-- Only strokes with their bit on collide. -/
theorem bit_of_hit {strokes : List Stroke} {stroke : Stroke}
    (hit : (stroke, true) ∈ strokes.zip (display.hits strokes)) : stroke.bit = true := by
  induction strokes generalizing display with
  | nil => cases hit
  | cons first rest ih =>
    rw [hits, List.zip_cons_cons, List.mem_cons] at hit
    rcases hit with here | later
    · have collides : display.collides first = true := (congrArg Prod.snd here).symm
      obtain rfl : stroke = first := congrArg Prod.fst here
      exact (Bool.and_eq_true_iff.mp collides).1
    · exact ih later

omit wide high in
theorem length_hits (strokes : List Stroke) : (display.hits strokes).length = strokes.length := by
  induction strokes generalizing display with
  | nil => rfl
  | cons stroke rest ih => rw [hits, List.length_cons, List.length_cons, ih]

/-- Some stroke collides if a pixel is turned over that was lit, or is turned over twice. -/
theorem count_hits_pos_iff (strokes : List Stroke) :
    0 < (display.hits strokes).count true ↔
      ∃ px py, (0 ≤ px ∧ px < width) ∧ (0 ≤ py ∧ py < height) ∧
        2 ≤ strokes.countP (·.toggles width height px py) + (display.isLit px py).toNat := by
  have twice (n : Nat) : 2 ≤ n ↔ 0 < n / 2 := by omega
  rw [List.count_pos_iff]
  constructor
  · intro hit
    -- the stroke that collides turns over the pixel that it wraps around to
    obtain ⟨i, inside, found⟩ := List.mem_iff_getElem.mp hit
    have called : i < (strokes.zip (display.hits strokes)).length := by
      rw [List.length_zip, length_hits] at *
      omega
    have call := List.getElem_mem called
    rw [List.getElem_zip, found] at call
    generalize getElem strokes i _ = stroke at call
    obtain ⟨across, down⟩ := emod_inside wide high stroke.x stroke.y
    refine ⟨_, _, across, down, ?_⟩
    rw [twice, ← collisions_at wide high strokes across down, List.countP_pos_iff]
    refine ⟨_, call, Bool.and_eq_true_iff.mpr ⟨Stroke.toggles_iff.mpr ?_, rfl⟩⟩
    exact ⟨bit_of_hit call, (Int.emod_emod ..).symm, (Int.emod_emod ..).symm⟩
  · rintro ⟨px, py, across, down, turned⟩
    rw [twice, ← collisions_at wide high strokes across down, List.countP_pos_iff] at turned
    obtain ⟨call, mem, here⟩ := turned
    have hit : call.2 = true := (Bool.and_eq_true_iff.mp here).2
    exact hit ▸ (List.of_mem_zip mem).2

/-- The order of the strokes does not matter. -/
theorem xorAll_of_perm {strokes other : List Stroke} (perm : other.Perm strokes) :
    display.xorAll other = display.xorAll strokes := by
  induction perm generalizing display with
  | nil => rfl
  | cons stroke _ ih => simp only [xorAll, xorPixel_eq wide high, ok_bind, ih]
  | swap first second rest =>
    obtain ⟨pixels, collisions⟩ := strike_comm wide high display second first
    have last : display.after (second :: first :: rest) = display.after (first :: second :: rest) :=
      congrArg (·.after rest) pixels
    rw [xorAll_eq wide high, xorAll_eq wide high, last]
    simp only [count_hits_cons, ← Nat.add_assoc, pixels, collisions]
  | trans _ _ ih ih' => rw [ih, ih']

end Pixels

/-! ## Displays without pixels -/

/-- A display that refuses every stroke for one reason does so time and again, and nothing
changes. -/
theorem answers_of_refused (display : Display width height) {fault : Fault}
    (refused : ∀ x y bit, display.xorPixel x y bit = .error fault) (strokes : List Stroke) :
    display.answers strokes = strokes.map (fun _ => .error fault) ∧
      display.after strokes = display := by
  have strike (stroke : Stroke) : display.strike stroke = (.error fault, display) := by
    rw [Display.strike, refused]
  induction strokes with
  | nil => exact ⟨rfl, rfl⟩
  | cons stroke rest ih =>
    rw [answers, after, List.foldl_cons, strike, List.map_cons]
    exact ⟨congrArg _ ih.1, ih.2⟩

theorem xorPixel_of_zero (zero : width = 0 ∨ height = 0) (x y : Int) (bit : Bool) :
    display.xorPixel x y bit = .error .noPixels := by
  rw [xorPixel, if_pos (Or.symm zero)]

theorem xorPixel_of_neg (across : width ≠ 0) (down : height ≠ 0) (neg : width < 0 ∨ height < 0)
    (x y : Int) (bit : Bool) : display.xorPixel x y bit = .error .noCell := by
  have empty : height.toNat * width.toNat = 0 := by
    rcases neg with neg | neg
    · rw [Int.toNat_of_nonpos (Int.le_of_lt neg), Nat.mul_zero]
    · rw [Int.toNat_of_nonpos (Int.le_of_lt neg), Nat.zero_mul]
  rw [xorPixel, if_neg (by omega), dif_neg (by omega)]

end Display

end ChipEight
