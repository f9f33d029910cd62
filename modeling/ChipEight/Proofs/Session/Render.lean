import ChipEight.Proofs.Session.Window

/-!
# Rendering a display of another size

A window scans its grid in row-major order, and asks the display for every pixel of the grid. If the
display is larger than the grid, the window shows the corner of it. If it is smaller, the scan stops
at the first place of the grid that lies outside the display, and the pixels up to this place have
been painted.

## Main definitions

* `Window.Precedes` — row-major order
* `Window.FirstOutside` — the place where the scan of a small display stops

## Main results

* `Window.mem_before_iff` — the places that have been scanned when the scan arrives at a place
* `Window.FirstOutside.eq` — where the scan of a small display stops
* `Window.render_depicts` — what a window shows after a display of any size is rendered
-/

namespace ChipEight.Window

variable {columns rows scale : Nat} {width height : Int}

/-- A place comes before another one in row-major order. -/
def Precedes (place other : Nat × Nat) : Prop :=
  place.2 < other.2 ∨ place.2 = other.2 ∧ place.1 < other.1

/-- A place of a grid lies outside a display of the given size, and no place of the grid before it
does. -/
structure FirstOutside (columns rows : Nat) (width height : Int) (place : Nat × Nat) : Prop where
  inGrid : place.1 < columns ∧ place.2 < rows
  outside : ¬ ((place.1 : Int) < width ∧ (place.2 : Int) < height)
  inside : ∀ earlier, earlier.1 < columns ∧ earlier.2 < rows → Precedes earlier place →
    (earlier.1 : Int) < width ∧ (earlier.2 : Int) < height

/-- The first place outside a display is the one right of its first row. If the grid does not reach
so far, or if there is no such row, it is the one below its first column. -/
theorem FirstOutside.eq {place : Nat × Nat} (first : FirstOutside columns rows width height place) :
    place = if width < columns ∧ 0 < height then (width.toNat, 0) else (0, height.toNat) := by
  obtain ⟨x, y⟩ := place
  obtain ⟨⟨across, down⟩, outside, inside⟩ := first
  -- the place that is named lies outside as well, so that it cannot come earlier
  have notEarlier : ∀ other : Nat × Nat, other.1 < columns ∧ other.2 < rows →
      ¬ ((other.1 : Int) < width ∧ (other.2 : Int) < height) → ¬ Precedes other (x, y) :=
    fun other inGrid beyond earlier => beyond (inside other inGrid earlier)
  simp only [Precedes] at across down outside notEarlier
  split
  · next narrow =>
    have := notEarlier (width.toNat, 0) (by simp only; omega) (by simp only; omega)
    simp only [Prod.mk.injEq]
    omega
  · next wide =>
    have := notEarlier (0, height.toNat) (by simp only; omega) (by simp only; omega)
    simp only [Prod.mk.injEq]
    omega

theorem pairwise_cells (columns rows : Nat) : (cells columns rows).Pairwise Precedes := by
  rw [cells, List.pairwise_flatMap]
  refine ⟨fun y _ => ?_, List.pairwise_lt_range.imp fun {above below} lower => ?_⟩
  · rw [List.pairwise_map]
    exact List.pairwise_lt_range.imp fun left => .inr ⟨rfl, left⟩
  · intro place member other otherMember
    obtain ⟨_, -, rfl⟩ := List.mem_map.mp member
    obtain ⟨_, -, rfl⟩ := List.mem_map.mp otherMember
    exact .inl lower

/-- When the scan of a grid arrives at a place, it has gone through just those places that come
before it. -/
theorem mem_before_iff {before rest : List (Nat × Nat)} {place : Nat × Nat}
    (split : cells columns rows = before ++ place :: rest) (other : Nat × Nat) :
    other ∈ before ↔ (other.1 < columns ∧ other.2 < rows) ∧ Precedes other place := by
  have ordered := pairwise_cells columns rows
  rw [split, List.pairwise_append, List.pairwise_cons] at ordered
  obtain ⟨-, ⟨behind, -⟩, across⟩ := ordered
  rw [← mem_cells, split, List.mem_append, List.mem_cons]
  constructor
  · intro member
    exact ⟨.inl member, across other member place (List.mem_cons_self ..)⟩
  · rintro ⟨member | rfl | later, earlier⟩
    · exact member
    · unfold Precedes at earlier
      omega
    · have := behind other later
      unfold Precedes at this earlier
      omega

/-- A scan stops at a place outside the display, with what has been painted before. -/
theorem lightAll_stops {display : Display width height} {window painted : Window columns rows scale}
    {before : List (Nat × Nat)} (done : lightAll display window before = (.ok (), painted))
    {x y : Nat} (outside : ¬ ((x : Int) < width ∧ (y : Int) < height)) (rest : List (Nat × Nat)) :
    lightAll display window (before ++ (x, y) :: rest) =
      (.error (.outside x y width height), painted) := by
  induction before generalizing window with
  | nil =>
    obtain rfl : window = painted := (Prod.mk.inj done).2
    have refused : display.pixelAt x y = .error (.outside x y width height) :=
      if_neg fun found => outside ⟨found.2.1, found.2.2.2⟩
    rw [List.nil_append, lightAll, refused]
  | cons place earlier ih =>
    rw [lightAll] at done
    rw [List.cons_append, lightAll]
    cases pixel : display.pixelAt place.1 place.2 with
    | error fault =>
      rw [pixel] at done
      cases done
    | ok lit =>
      rw [pixel] at done
      exact ih done

/-- Where a scan of a grid stops that the display does not cover. -/
theorem exists_firstOutside (wide : 0 < columns) (high : 0 < rows)
    (small : width < columns ∨ height < rows) :
    ∃ place before rest, cells columns rows = before ++ place :: rest ∧
      FirstOutside columns rows width height place := by
  cases found : (cells columns rows).find?
      fun place => ¬ ((place.1 : Int) < width ∧ (place.2 : Int) < height) with
  | none =>
    have corner : (columns - 1, rows - 1) ∈ cells columns rows := mem_cells.mpr (by omega)
    have covered : ((columns - 1 : Nat) : Int) < width ∧ ((rows - 1 : Nat) : Int) < height := by
      simpa using List.find?_eq_none.mp found _ corner
    omega
  | some place =>
    obtain ⟨outside, before, rest, split, inside⟩ := List.find?_eq_some_iff_append.mp found
    have inGrid : place ∈ cells columns rows := by simp [split]
    refine ⟨place, before, rest, split, mem_cells.mp inGrid, of_decide_eq_true outside,
      fun other within precedes => ?_⟩
    have scanned : other ∈ before := (mem_before_iff split other).mpr ⟨within, precedes⟩
    simpa using inside other scanned

/-- **Rendering.** Let a display be rendered on a window, whatever the window showed before. If the
display covers the grid of the window, just the pixels of the grid that are on are shown as lit. If
it does not, the rendering is refused at the first place of the grid, in row-major order, that lies
outside the display, and just the pixels before this place that are on are shown as lit. All other
dots have the background colour. -/
theorem render_depicts (wide : 0 < columns) (high : 0 < rows) (visible : 0 < scale)
    (window : Window columns rows scale) (display : Display width height) :
    (columns ≤ width ∧ rows ≤ height →
        ∃ painted, window.render display = (.ok (), painted) ∧
          painted.Depicts fun x y => display.pixelAt x y = .ok true) ∧
      (width < columns ∨ height < rows →
        ∃ place painted, FirstOutside columns rows width height place ∧
          window.render display = (.error (.outside place.1 place.2 width height), painted) ∧
          (Fault.outside place.1 place.2 width height).kind = .precondition ∧
          painted.Depicts fun x y => Precedes (x, y) place ∧ display.pixelAt x y = .ok true) := by
  simp only [← Display.isLit_iff]
  constructor
  · rintro ⟨across, down⟩
    obtain ⟨painted, done, shown⟩ := exists_render visible across down window display
    exact ⟨painted, done, shows_iff_depicts.mp shown⟩
  · intro small
    obtain ⟨place, before, rest, split, first⟩ := exists_firstOutside wide high small
    have inside : ∀ earlier ∈ before, (earlier.1 : Int) < width ∧ (earlier.2 : Int) < height := by
      intro earlier member
      obtain ⟨inGrid, precedes⟩ := (mem_before_iff split earlier).mp member
      exact first.inside earlier inGrid precedes
    obtain ⟨painted, done, depicted⟩ :=
      exists_lightAll_blank columns rows visible display before inside
    refine ⟨place, painted, first, ?_, rfl, fun column row across down => ?_⟩
    · rw [render, split]
      exact lightAll_stops done first.outside rest
    · have dot := depicted column row across down
      simpa only [mem_before_iff split, mem_cells.mp (div_mem_cells across down),
        true_and] using dot

/-- A display of two pixels, of which the right one is on. -/
def pair : Display 2 1 :=
  ⟨⟨#[false, true], rfl⟩⟩

theorem render_depicts_pair :
    (∃ painted : Window 2 1 3, (⟨.fill foreground⟩ : Window 2 1 3).render pair = (.ok (), painted) ∧
        painted.surface.dot? 2 2 = some background ∧ painted.surface.dot? 3 2 = some foreground) ∧
      ∃ painted : Window 3 2 4,
        (⟨.fill foreground⟩ : Window 3 2 4).render pair = (.error (.outside 2 0 2 1), painted) ∧
          painted.surface.dot? 7 3 = some foreground ∧
            painted.surface.dot? 8 3 = some background := by
  have left : pair.pixelAt 0 0 = .ok false := rfl
  have right : pair.pixelAt 1 0 = .ok true := rfl
  constructor
  · obtain ⟨covered, -⟩ := render_depicts (by decide) (by decide) (by decide)
      (⟨.fill foreground⟩ : Window 2 1 3) pair
    obtain ⟨painted, done, depicted⟩ := covered (by decide)
    refine ⟨painted, done, (depicted 2 2 (by decide) (by decide)).2.mpr fun lit => ?_,
      (depicted 3 2 (by decide) (by decide)).1.mpr right⟩
    cases left.symm.trans lit
  · obtain ⟨-, stopped⟩ := render_depicts (by decide) (by decide) (by decide)
      (⟨.fill foreground⟩ : Window 3 2 4) pair
    obtain ⟨place, painted, first, refused, -, depicted⟩ := stopped (by decide)
    obtain rfl : place = (2, 0) := first.eq
    refine ⟨painted, refused,
      (depicted 7 3 (by decide) (by decide)).1.mpr ⟨.inr ⟨rfl, by decide⟩, right⟩,
      (depicted 8 3 (by decide) (by decide)).2.mpr fun lit => ?_⟩
    cases lit.1 with
    | inl above => exact absurd above (by decide)
    | inr beside => exact absurd beside.2 (by decide)

end ChipEight.Window
