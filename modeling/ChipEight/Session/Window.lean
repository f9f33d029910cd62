import ChipEight.Display
import ChipEight.Session.Surface

/-!
# The window

A window shows a grid of pixels, each as a square of `scale` by `scale` dots: lit pixels in the
foreground colour, all else in the background colour.

## Main definitions

* `Window` — a window for a grid of pixels
* `Window.render` — paints the pixels of a display
* `Window.picture` — the grid of pixels that the window shows
-/

namespace ChipEight

/-- A window for `columns` by `rows` pixels of `scale` by `scale` dots. -/
structure Window (columns rows scale : Nat) where
  surface : Surface (columns * scale) (rows * scale)

/-- A grid of pixels, row after row. -/
abbrev Picture (columns rows : Nat) := Vector (Vector Bool columns) rows

namespace Window

/-- The colour of pixels that are off. -/
def background : Colour := ⟨80, 69, 155, 255⟩

/-- The colour of pixels that are on. -/
def foreground : Colour := ⟨136, 126, 203, 255⟩

/-- The scale of a window when none is asked for. -/
def defaultScale : Nat := 15

variable {columns rows scale : Nat}

/-- A window that shows no lit pixel. -/
def blank (columns rows scale : Nat) : Window columns rows scale :=
  ⟨Surface.fill background⟩

/-- The window with the square of a pixel in the foreground colour. -/
def light (window : Window columns rows scale) (x y : Nat) : Window columns rows scale :=
  ⟨window.surface.paint foreground (x * scale) (y * scale) scale scale⟩

/-- The places of a grid in row-major order. -/
def cells (columns rows : Nat) : List (Nat × Nat) :=
  (List.range rows).flatMap fun y => (List.range columns).map fun x => (x, y)

/-- Lights the pixels of a display at the given places; a place outside the display stops the
painting, and what has been painted stays. -/
def lightAll {w h : Int} (display : Display w h) (window : Window columns rows scale) :
    List (Nat × Nat) → Except Fault Unit × Window columns rows scale
  | [] => (.ok (), window)
  | (x, y) :: rest =>
    match display.pixelAt x y with
    | .error fault => (.error fault, window)
    | .ok lit => lightAll display (if lit then window.light x y else window) rest

/-- Paints the pixels of a display on a cleared window. -/
def render {w h : Int} (window : Window columns rows scale) (display : Display w h) :
    Except Fault Unit × Window columns rows scale :=
  lightAll display { window with surface := .fill background } (cells columns rows)

/-- The grid of pixels that the window shows, seen at the upper left dots of their squares. -/
def picture (window : Window columns rows scale) : Picture columns rows :=
  Vector.ofFn fun y => Vector.ofFn fun x =>
    window.surface.dot? (x * scale) (y * scale) == some foreground

end Window

end ChipEight
