import ChipEight.Value

/-!
# Faults

The reasons for which an operation of the machine is refused. A refused operation changes nothing.

## Main definitions

* `Fault` — one constructor for each cause
* `Fault.kind` — the family of a cause
* `Fault.message` — its wording
-/

namespace ChipEight

/-- The number of return addresses that the call stack holds. -/
def stackSize : Nat := 16

/-- The number of keys of the keypad. -/
def keyCount : Nat := 16

/-- The size in bytes of the largest program. -/
def maxRomSize : Nat := 0xE00

/-- Why an operation is refused. -/
inductive Fault where
  /-- A call while the call stack is full. -/
  | stackFull
  /-- A return while the call stack is empty. -/
  | stackEmpty
  /-- A second program for the same machine. -/
  | alreadyLoaded
  /-- A program of this many bytes, which is too large. -/
  | tooLarge (size : Nat)
  /-- A value that names no key. -/
  | notAKey (key : Value)
  /-- The release of a key that is not down. -/
  | notPressed (key : Fin 16)
  /-- A look at a pixel outside a display. -/
  | outside (x y width height : Int)
  /-- A change of a pixel of a display without width or without height. -/
  | noPixels
  /-- A change of a pixel of a display of negative size. -/
  | noCell

/-- The families of faults. -/
inductive Fault.Kind where
  /-- The call stack over- or underflows. -/
  | stack
  /-- The caller does not meet the terms of an operation. -/
  | precondition
  /-- A remainder by zero. -/
  | arithmetic
  /-- A place that does not exist. -/
  | index
  deriving DecidableEq, Repr

namespace Fault

/-- The family of a fault. -/
def kind : Fault → Kind
  | .stackFull | .stackEmpty => .stack
  | .alreadyLoaded | .tooLarge _ | .notAKey _ | .notPressed _ | .outside .. => .precondition
  | .noPixels => .arithmetic
  | .noCell => .index

/-- The wording of a fault. -/
def message : Fault → String
  | .stackFull => s!"The CHIP-8 stack can contain at most {stackSize} addresses. Limit exceeded"
  | .stackEmpty => "Cannot return from a subroutine, the CHIP-8 stack is empty"
  | .alreadyLoaded => "A ROM has already been loaded in this session"
  | .tooLarge size =>
    s!"The ROM is {size} bytes long, at most {maxRomSize} bytes fit in memory"
  | .notAKey key => s!"Key {key.literal} is not one of the {keyCount} CHIP-8 keys (0x0-0xF)"
  | .notPressed key => s!"Key 0x{Text.hex 1 key.val} cannot be released, it was not pressed"
  | .outside x y width height =>
    s!"Pixel ({x}, {y}) is outside of the {width}x{height} display"
  | .noPixels => "integer modulo by zero"
  | .noCell => "list index out of range"

end Fault

end ChipEight
