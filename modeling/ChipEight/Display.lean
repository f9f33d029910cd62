import ChipEight.Fault

/-!
# The display

A grid of pixels that are on or off, in row-major order. A pixel is changed by combining it with a
bit by exclusive or, at coordinates that wrap around at all edges; a bit that turns a pixel off
collides. A display may have any size: without pixels every such change is refused.

## Main definitions

* `Display` — the pixels of a display of a given width and height
* `Display.pixelAt` — a pixel inside the display
* `Display.xorPixel` — combines one pixel with a bit
* `Display.xorAll` — combines pixels with a list of strokes and counts the collisions
* `Stroke.ofSprite` — the strokes of a sprite, eight pixels to the byte
-/

namespace ChipEight

/-- The pixels of a display, row after row. A negative side counts as no pixels. -/
structure Display (width height : Int) where
  pixels : Vector Bool (height.toNat * width.toNat)

/-- A bit for the pixel at a place. -/
structure Stroke where
  x : Int
  y : Int
  bit : Bool
  deriving DecidableEq, Repr

namespace Display

variable {width height : Int}

/-- The display with all pixels off. -/
def blank (width height : Int) : Display width height :=
  ⟨Vector.replicate _ false⟩

/-- The pixel at a place inside the display. -/
def pixelAt (display : Display width height) (x y : Int) : Except Fault Bool :=
  if 0 ≤ x ∧ x < width ∧ 0 ≤ y ∧ y < height then
    .ok (display.pixels[(y * width + x).toNat]?.getD false)
  else .error (.outside x y width height)

/-- The position in row-major order of the pixel at a place, after wrapping around. -/
def position (width height x y : Int) : Nat :=
  (y % height * width + x % width).toNat

/-- Combines the pixel at a place with a bit; the answer tells whether it was turned off. -/
def xorPixel (display : Display width height) (x y : Int) (bit : Bool) :
    Except Fault (Bool × Display width height) :=
  if height = 0 ∨ width = 0 then .error .noPixels
  else if h : position width height x y < height.toNat * width.toNat then
    let old := display.pixels[position width height x y]
    .ok (old && bit, ⟨display.pixels.set (position width height x y) (old ^^ bit)⟩)
  else .error .noCell

/-- Applies strokes one after the other; the answer is the number of collisions. -/
def xorAll (display : Display width height) :
    List Stroke → Except Fault (Nat × Display width height)
  | [] => .ok (0, display)
  | stroke :: rest => do
    let (hit, display) ← display.xorPixel stroke.x stroke.y stroke.bit
    let (hits, display) ← display.xorAll rest
    return (hit.toNat + hits, display)

end Display

/-- The strokes of a sprite with its upper left corner at `(x, y)`, given by its rows; the highest
bit of a row is its leftmost pixel. -/
def Stroke.ofSprite (x y : Int) (rows : List Nat) : List Stroke :=
  rows.zipIdx.flatMap fun (byte, row) =>
    (List.range 8).map fun (column : Nat) => ⟨x + column, y + row, byte.testBit (7 - column)⟩

end ChipEight
