/-!
# The font

The sprites of the sixteen hexadecimal digits, five bytes each, which every machine holds at the
start of its memory.

## Main definitions

* `font` — the bytes of all sprites
* `glyphSize`, `fontStart` — the size of a sprite and the address of the first one
-/

namespace ChipEight

/-- The number of bytes of the sprite of a digit. -/
def glyphSize : Nat := 5

/-- The address of the sprite of the digit zero. -/
def fontStart : Nat := 0

/-- The sprites of the digits `0` to `F`, a row of eight pixels to the byte. -/
def font : Array Nat := #[
  0xF0, 0x90, 0x90, 0x90, 0xF0,
  0x20, 0x60, 0x20, 0x20, 0x70,
  0xF0, 0x10, 0xF0, 0x80, 0xF0,
  0xF0, 0x10, 0xF0, 0x10, 0xF0,
  0x90, 0x90, 0xF0, 0x10, 0x10,
  0xF0, 0x80, 0xF0, 0x10, 0xF0,
  0xF0, 0x80, 0xF0, 0x90, 0xF0,
  0xF0, 0x10, 0x20, 0x40, 0x40,
  0xF0, 0x90, 0xF0, 0x90, 0xF0,
  0xF0, 0x90, 0xF0, 0x10, 0xF0,
  0xF0, 0x90, 0xF0, 0x90, 0x90,
  0xE0, 0x90, 0xE0, 0x90, 0xE0,
  0xF0, 0x80, 0x80, 0x80, 0xF0,
  0xE0, 0x90, 0x90, 0x90, 0xE0,
  0xF0, 0x80, 0xF0, 0x80, 0xF0,
  0xF0, 0x80, 0xF0, 0x80, 0x80
]

end ChipEight
