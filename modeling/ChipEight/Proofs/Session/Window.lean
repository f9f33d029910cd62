import ChipEight.Proofs.Display
import ChipEight.Proofs.Session.Surface
import ChipEight.Session.Window

/-!
# What a window shows

After a window is rendered, every dot of it has the foreground colour if the pixel that it belongs
to is on, and the background colour if not, whatever the window showed before.

## Main definitions

* `Window.Depicts` — the pixels of a grid that a window shows as lit
* `Window.Shows` — a window shows a display, dot for dot
* `Picture.Shows` — a picture shows a display, pixel for pixel

## Main results

* `Window.exists_lightAll` — what the painting of pixels does to the dots
* `Window.exists_render` — a rendered window shows the display
* `Window.Shows.picture` — so does the picture that is seen in it
-/

namespace ChipEight

variable {columns rows scale : Nat} {width height : Int}

/-- A picture shows the pixels of a display. -/
def Picture.Shows (picture : Picture columns rows) (display : Display width height) : Prop :=
  ∀ (x : Fin columns) (y : Fin rows), display.pixelAt x.val y.val = .ok picture[y][x]

/-- A picture shows just one display of its size. -/
theorem Picture.Shows.display_eq {picture : Picture width.toNat height.toNat}
    {display other : Display width height} (shown : picture.Shows display)
    (also : picture.Shows other) : display = other := by
  apply Display.ext_isLit
  intro x y across down
  obtain ⟨x, rfl⟩ := Int.eq_ofNat_of_zero_le across.1
  obtain ⟨y, rfl⟩ := Int.eq_ofNat_of_zero_le down.1
  have left := shown ⟨x, by omega⟩ ⟨y, by omega⟩
  have right := also ⟨x, by omega⟩ ⟨y, by omega⟩
  rw [Display.pixelAt_eq_ok _ across down] at left right
  exact Except.ok.inj (left.trans right.symm)

namespace Window

/-- Every dot of a window has the colour of the pixel that it belongs to. -/
def Shows (window : Window columns rows scale) (display : Display width height) : Prop :=
  ∀ x y, x < columns * scale → y < rows * scale →
    window.surface.dot? x y =
      some (if display.isLit (x / scale : Nat) (y / scale : Nat) then foreground else background)

/-- The dots in the squares of just the given pixels have the foreground colour. All other dots have
the background colour. -/
def Depicts (window : Window columns rows scale) (lit : Nat → Nat → Prop) : Prop :=
  ∀ x y, x < columns * scale → y < rows * scale →
    (window.surface.dot? x y = some foreground ↔ lit (x / scale) (y / scale)) ∧
      (window.surface.dot? x y = some background ↔ ¬ lit (x / scale) (y / scale))

theorem foreground_ne_background : foreground ≠ background := by decide

theorem depicts_iff {window : Window columns rows scale} {lit : Nat → Nat → Prop}
    [∀ x y, Decidable (lit x y)] :
    window.Depicts lit ↔
      ∀ x y, x < columns * scale → y < rows * scale →
        window.surface.dot? x y =
          some (if lit (x / scale) (y / scale) then foreground else background) := by
  constructor
  · intro depicted x y across down
    obtain ⟨on, off⟩ := depicted x y across down
    split
    · next lit => exact on.mpr lit
    · next unlit => exact off.mpr unlit
  · intro dots x y across down
    rw [dots x y across down]
    split
    · next lit => simp [lit, foreground_ne_background]
    · next unlit => simp [unlit, foreground_ne_background.symm]

/-- A window shows a display if it shows just those pixels as lit that are on. -/
theorem shows_iff_depicts {window : Window columns rows scale} {display : Display width height} :
    window.Shows display ↔ window.Depicts fun x y => display.isLit x y = true := by
  rw [depicts_iff]
  rfl

/-- A dot is in the square of a pixel if dividing by the scale gives the pixel. -/
theorem div_eq_iff (visible : 0 < scale) {dot pixel : Nat} :
    dot / scale = pixel ↔ pixel * scale ≤ dot ∧ dot < pixel * scale + scale := by
  rw [Nat.div_eq_iff visible]
  omega

/-- Lighting a pixel paints the dots of its square. -/
theorem dot?_light (visible : 0 < scale) (window : Window columns rows scale)
    (x y column row : Nat) :
    (window.light x y).surface.dot? column row =
      if column / scale = x ∧ row / scale = y then
        (window.surface.dot? column row).map fun _ => foreground
      else window.surface.dot? column row := by
  simp only [light, Surface.dot?_paint, div_eq_iff visible]

/-- The dots after a pixel of a display is lit if it is on. -/
theorem dot?_lightIf (visible : 0 < scale) (window : Window columns rows scale)
    (display : Display width height) (x y column row : Nat) :
    (if display.isLit x y then window.light x y else window).surface.dot? column row =
      if (column / scale = x ∧ row / scale = y) ∧
          display.isLit (column / scale : Nat) (row / scale : Nat) then
        (window.surface.dot? column row).map fun _ => foreground
      else window.surface.dot? column row := by
  by_cases here : column / scale = x ∧ row / scale = y
  · obtain ⟨rfl, rfl⟩ := here
    by_cases lit : display.isLit (column / scale : Nat) (row / scale : Nat)
    · rw [if_pos lit, if_pos ⟨⟨rfl, rfl⟩, lit⟩, dot?_light visible, if_pos ⟨rfl, rfl⟩]
    · rw [if_neg lit, if_neg fun both => lit both.2]
  · have elsewhere : ¬ ((column / scale = x ∧ row / scale = y) ∧
        display.isLit (column / scale : Nat) (row / scale : Nat)) := fun both => here both.1
    rw [if_neg elsewhere]
    by_cases lit : display.isLit x y
    · rw [if_pos lit, dot?_light visible, if_neg here]
    · rw [if_neg lit]

/-- Painting the pixels of a display at places inside it paints the squares of those that are on. -/
theorem exists_lightAll (visible : 0 < scale) (display : Display width height)
    (places : List (Nat × Nat))
    (inside : ∀ place ∈ places, (place.1 : Int) < width ∧ (place.2 : Int) < height)
    (window : Window columns rows scale) :
    ∃ painted, lightAll display window places = (.ok (), painted) ∧
      ∀ column row, painted.surface.dot? column row =
        if (column / scale, row / scale) ∈ places ∧
            display.isLit (column / scale : Nat) (row / scale : Nat) then
          (window.surface.dot? column row).map fun _ => foreground
        else window.surface.dot? column row := by
  induction places generalizing window with
  | nil => exact ⟨window, rfl, fun column row => by simp⟩
  | cons place rest ih =>
    obtain ⟨x, y⟩ := place
    have here := inside (x, y) (List.mem_cons_self ..)
    have found : display.pixelAt x y = .ok (display.isLit x y) :=
      display.pixelAt_eq_ok ⟨Int.natCast_nonneg x, here.1⟩ ⟨Int.natCast_nonneg y, here.2⟩
    obtain ⟨painted, goesOn, dots⟩ := ih (fun later member => inside later (.tail _ member))
      (if display.isLit x y then window.light x y else window)
    refine ⟨painted, ?_, fun column row => ?_⟩
    · rw [lightAll, found]
      exact goesOn
    · rw [dots, dot?_lightIf visible]
      by_cases lit : display.isLit (column / scale : Nat) (row / scale : Nat)
      · by_cases here : column / scale = x ∧ row / scale = y
        · obtain ⟨rfl, rfl⟩ := here
          simp only [lit, and_true, and_self, if_true, List.mem_cons, true_or, Option.map_map]
          exact ite_self _
        · have elsewhere : (column / scale, row / scale) ≠ (x, y) :=
            fun same => here (Prod.mk.inj same)
          simp only [lit, here, elsewhere, List.mem_cons, false_or, false_and, if_false]
      · simp only [lit, Bool.false_eq_true, and_false, if_false]

theorem mem_cells {x y : Nat} : (x, y) ∈ cells columns rows ↔ x < columns ∧ y < rows := by
  simp only [cells, List.mem_flatMap, List.mem_map, List.mem_range, Prod.mk.injEq]
  constructor
  · rintro ⟨row, down, column, across, rfl, rfl⟩
    exact ⟨across, down⟩
  · rintro ⟨across, down⟩
    exact ⟨y, down, x, across, rfl, rfl⟩

/-- Painting on a blank window lights just those of the places whose pixels are on. -/
theorem exists_lightAll_blank (columns rows : Nat) (visible : 0 < scale)
    (display : Display width height) (places : List (Nat × Nat))
    (inside : ∀ place ∈ places, (place.1 : Int) < width ∧ (place.2 : Int) < height) :
    ∃ painted, lightAll display (blank columns rows scale) places = (.ok (), painted) ∧
      painted.Depicts fun x y => (x, y) ∈ places ∧ display.isLit x y = true := by
  obtain ⟨painted, done, dots⟩ :=
    exists_lightAll visible display places inside (blank columns rows scale)
  refine ⟨painted, done, depicts_iff.mpr fun column row across down => ?_⟩
  rw [dots, blank, Surface.dot?_fill background across down]
  split <;> rfl

/-- The pixel that a dot belongs to is one of those that are painted. -/
theorem div_mem_cells {column row : Nat} (across : column < columns * scale)
    (down : row < rows * scale) :
    (column / scale, row / scale) ∈ cells columns rows :=
  mem_cells.mpr ⟨Nat.div_lt_of_lt_mul (Nat.mul_comm .. ▸ across),
    Nat.div_lt_of_lt_mul (Nat.mul_comm .. ▸ down)⟩

/-- A rendered window shows the display, whatever it showed before. -/
theorem exists_render (visible : 0 < scale) (wide : columns ≤ width) (high : rows ≤ height)
    (window : Window columns rows scale) (display : Display width height) :
    ∃ painted, window.render display = (.ok (), painted) ∧ painted.Shows display := by
  have inside : ∀ place ∈ cells columns rows,
      (place.1 : Int) < width ∧ (place.2 : Int) < height := by
    rintro ⟨x, y⟩ member
    obtain ⟨across, down⟩ := mem_cells.mp member
    simp only
    omega
  obtain ⟨painted, done, depicted⟩ :=
    exists_lightAll_blank columns rows visible display (cells columns rows) inside
  refine ⟨painted, done, shows_iff_depicts.mpr fun column row across down => ?_⟩
  have dot := depicted column row across down
  simpa only [div_mem_cells across down, true_and] using dot

theorem blank_shows (columns rows scale : Nat) (width height : Int) :
    (blank columns rows scale).Shows (Display.blank width height) := by
  intro column row across down
  rw [blank, Surface.dot?_fill background across down, Display.isLit_blank]
  rfl

/-- The picture that is seen in a window shows what the window shows. -/
theorem Shows.picture (visible : 0 < scale) (wide : columns ≤ width) (high : rows ≤ height)
    {window : Window columns rows scale} {display : Display width height}
    (shown : window.Shows display) : window.picture.Shows display := by
  intro x y
  have across : x.val * scale < columns * scale := Nat.mul_lt_mul_of_pos_right x.isLt visible
  have down : y.val * scale < rows * scale := Nat.mul_lt_mul_of_pos_right y.isLt visible
  have dot := shown (x.val * scale) (y.val * scale) across down
  rw [Nat.mul_div_cancel x.val visible, Nat.mul_div_cancel y.val visible] at dot
  rw [display.pixelAt_eq_ok (by omega) (by omega)]
  simp only [Window.picture, Fin.getElem_fin, Vector.getElem_ofFn, dot]
  cases display.isLit x.val y.val with
  | true => rfl
  | false => rfl

end Window

end ChipEight
