import ChipEight.Session.Surface

/-!
# Painting on a surface

Painting a rectangle gives its colour to the dots of the surface that lie in the rectangle, and to
no other dot.

## Main results

* `Surface.dot?_fill` — the dots of a filled surface
* `Surface.dot?_paint` — the dots after a rectangle is painted
-/

namespace ChipEight.Surface

variable {width height : Nat}

/-- All dots of a filled surface have its colour. -/
theorem dot?_fill (colour : Colour) {column row : Nat} (across : column < width)
    (down : row < height) :
    (fill colour : Surface width height).dot? column row = some colour := by
  have rowFound : (Vector.replicate height (Vector.replicate width colour))[row]? =
      some (Vector.replicate width colour) := by
    rw [Vector.getElem?_eq_getElem down, Vector.getElem_replicate]
  have dotFound : (Vector.replicate width colour)[column]? = some colour := by
    rw [Vector.getElem?_eq_getElem across, Vector.getElem_replicate]
  rw [dot?, fill, rowFound, Option.bind_some, dotFound]

/-- A row after a span of it is painted. -/
theorem getElem?_paintSpan (colour : Colour) (x : Nat) (dots : Vector Colour width)
    (n column : Nat) :
    (paintSpan colour x dots n)[column]? =
      if x ≤ column ∧ column < x + n then dots[column]?.map fun _ => colour else dots[column]? := by
  induction n with
  | zero =>
    rw [if_neg (by omega)]
    rfl
  | succ n ih =>
    rw [paintSpan, Vector.getElem?_setIfInBounds, ih]
    by_cases last : x + n = column
    · subst last
      have reached : x ≤ x + n ∧ x + n < x + (n + 1) := by omega
      rw [if_pos rfl, if_pos reached]
      by_cases inside : x + n < width
      · rw [if_pos inside, Vector.getElem?_eq_getElem inside, Option.map_some]
      · rw [if_neg inside, Vector.getElem?_eq_none (by omega), Option.map_none]
    · rw [if_neg last]
      by_cases before : x ≤ column ∧ column < x + n
      · rw [if_pos before, if_pos (by omega)]
      · rw [if_neg before, if_neg (by omega)]

/-- The rows after a span is painted in some of them. -/
theorem getElem?_paintRows (colour : Colour) (x y w : Nat)
    (rows : Vector (Vector Colour width) height) (n row : Nat) :
    (paintRows colour x y w rows n)[row]? =
      if y ≤ row ∧ row < y + n then rows[row]?.map fun dots => paintSpan colour x dots w
      else rows[row]? := by
  induction n generalizing row with
  | zero =>
    rw [if_neg (by omega)]
    rfl
  | succ n ih =>
    have painted : (paintRows colour x y w rows (n + 1))[row]? =
        if y + n = row then rows[row]?.map fun dots => paintSpan colour x dots w
        else (paintRows colour x y w rows n)[row]? := by
      have untouched : (paintRows colour x y w rows n)[y + n]? = rows[y + n]? := by
        rw [ih, if_neg (by omega)]
      simp only [paintRows]
      by_cases inside : y + n < height
      · rw [Vector.getElem?_eq_getElem inside, Vector.getElem?_eq_getElem inside] at untouched
        rw [dif_pos inside, Vector.getElem?_set, Option.some.inj untouched]
        by_cases last : y + n = row
        · subst last
          rw [if_pos rfl, if_pos rfl, Vector.getElem?_eq_getElem inside, Option.map_some]
        · rw [if_neg last, if_neg last]
      · rw [dif_neg inside]
        by_cases last : y + n = row
        · subst last
          rw [if_pos rfl, untouched, Vector.getElem?_eq_none (by omega), Option.map_none]
        · rw [if_neg last]
    rw [painted, ih]
    by_cases last : y + n = row
    · rw [if_pos last, if_pos (by omega)]
    · rw [if_neg last]
      by_cases before : y ≤ row ∧ row < y + n
      · rw [if_pos before, if_pos (by omega)]
      · rw [if_neg before, if_neg (by omega)]

/-- The dots of a surface after a rectangle on it is painted. -/
theorem dot?_paint (surface : Surface width height) (colour : Colour) (x y w h column row : Nat) :
    (surface.paint colour x y w h).dot? column row =
      if (x ≤ column ∧ column < x + w) ∧ y ≤ row ∧ row < y + h then
        (surface.dot? column row).map fun _ => colour
      else surface.dot? column row := by
  rw [dot?, paint, getElem?_paintRows]
  by_cases down : y ≤ row ∧ row < y + h
  · rw [if_pos down, dot?]
    cases surface.rows[row]? with
    | none => simp
    | some dots => simp [getElem?_paintSpan, down]
  · rw [if_neg down, if_neg (fun both => down both.2), dot?]

end ChipEight.Surface
