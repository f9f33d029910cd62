/-!
# Surfaces

A rectangle of coloured dots that rectangles are painted on.

## Main definitions

* `Colour` — a colour with its opacity
* `Surface` — the dots of a surface of a given width and height
* `Surface.fill` — paints the whole surface
* `Surface.paint` — paints a rectangle, as far as it lies on the surface
-/

namespace ChipEight

/-- A colour with its opacity, each part from 0 to 255. -/
structure Colour where
  red : Nat
  green : Nat
  blue : Nat
  opacity : Nat
  deriving DecidableEq, Repr

/-- The dots of a surface, row after row. -/
structure Surface (width height : Nat) where
  rows : Vector (Vector Colour width) height

namespace Surface

variable {width height : Nat}

/-- The surface with all dots of one colour. -/
def fill (colour : Colour) : Surface width height :=
  ⟨Vector.replicate height (Vector.replicate width colour)⟩

/-- The dot in column `x` of row `y`. -/
def dot? (surface : Surface width height) (x y : Nat) : Option Colour :=
  surface.rows[y]?.bind (·[x]?)

/-- The row with `n` dots from column `x` on in one colour. -/
def paintSpan (colour : Colour) (x : Nat) (row : Vector Colour width) : Nat → Vector Colour width
  | 0 => row
  | n + 1 => (paintSpan colour x row n).setIfInBounds (x + n) colour

/-- The rows with the span of `w` dots from column `x` on painted in `n` rows from row `y` on. -/
def paintRows (colour : Colour) (x y w : Nat) (rows : Vector (Vector Colour width) height) :
    Nat → Vector (Vector Colour width) height
  | 0 => rows
  | n + 1 =>
    let rows := paintRows colour x y w rows n
    if h : y + n < height then rows.set (y + n) (paintSpan colour x rows[y + n] w) else rows

/-- The surface with the rectangle of `w` by `h` dots at `(x, y)` in one colour. -/
def paint (surface : Surface width height) (colour : Colour) (x y w h : Nat) :
    Surface width height :=
  ⟨paintRows colour x y w surface.rows h⟩

end Surface

end ChipEight
