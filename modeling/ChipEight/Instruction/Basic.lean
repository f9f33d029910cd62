/-!
# Instructions

The fields of a 16-bit opcode and the thirty-four instructions of the base set. In the patterns
below `x` and `y` are register digits, `n` is a digit, `kk` a byte and `nnn` an address.

## Main definitions

* `Opcode.x`, `Opcode.y`, `Opcode.digit`, `Opcode.byte`, `Opcode.address` — the fields of an opcode,
  of which only the lowest 16 bits matter
* `Instruction` — an instruction with its operands
* `Instruction.encode` — the word that stands for an instruction
-/

namespace ChipEight

/-- The last hexadecimal digit of a number. -/
def lastDigit (n : Nat) : Fin 16 :=
  Fin.ofNat 16 n

namespace Opcode

/-- The lowest 16 bits of an opcode. -/
def word (opcode : Int) : Nat :=
  (opcode % 65536).toNat

/-- The second digit of the four of an opcode. -/
def x (opcode : Int) : Fin 16 :=
  lastDigit (word opcode / 256)

/-- The third digit of an opcode. -/
def y (opcode : Int) : Fin 16 :=
  lastDigit (word opcode / 16)

/-- The last digit of an opcode. -/
def digit (opcode : Int) : Fin 16 :=
  lastDigit (word opcode)

/-- The last two digits of an opcode. -/
def byte (opcode : Int) : Fin 256 :=
  Fin.ofNat 256 (word opcode)

/-- The last three digits of an opcode. -/
def address (opcode : Int) : Fin 4096 :=
  Fin.ofNat 4096 (word opcode)

end Opcode

/-- An instruction of the base set. -/
inductive Instruction where
  /-- `00E0`: turns all pixels off. -/
  | clearScreen
  /-- `00EE`: returns from a subroutine. -/
  | ret
  /-- `1nnn`: goes on at an address. -/
  | jump (target : Fin 4096)
  /-- `2nnn`: calls the subroutine at an address. -/
  | call (target : Fin 4096)
  /-- `3xkk`: skips the next instruction if `Vx` is a number. -/
  | skipIfByte (x : Fin 16) (k : Fin 256)
  /-- `4xkk`: skips the next instruction if `Vx` is not a number. -/
  | skipUnlessByte (x : Fin 16) (k : Fin 256)
  /-- `5xy0`: skips the next instruction if `Vx` and `Vy` agree. -/
  | skipIfSame (x y : Fin 16)
  /-- `6xkk`: sets `Vx` to a number. -/
  | loadByte (x : Fin 16) (k : Fin 256)
  /-- `7xkk`: adds a number to `Vx`; there is no carry. -/
  | addByte (x : Fin 16) (k : Fin 256)
  /-- `8xy0`: sets `Vx` to `Vy`. -/
  | copy (x y : Fin 16)
  /-- `8xy1`: sets `Vx` to the bits that are in `Vx` or in `Vy`. -/
  | or (x y : Fin 16)
  /-- `8xy2`: sets `Vx` to the bits that are in both `Vx` and `Vy`. -/
  | and (x y : Fin 16)
  /-- `8xy3`: sets `Vx` to the bits that are in just one of `Vx` and `Vy`. -/
  | xor (x y : Fin 16)
  /-- `8xy4`: adds `Vy` to `Vx`; the carry goes to `VF`. -/
  | add (x y : Fin 16)
  /-- `8xy5`: subtracts `Vy` from `Vx`; `VF` tells that nothing was borrowed. -/
  | sub (x y : Fin 16)
  /-- `8xy6`: halves `Vx`; the bit shifted out goes to `VF`. The digit `y` is not used. -/
  | shiftRight (x y : Fin 16)
  /-- `8xy7`: sets `Vx` to `Vy` less `Vx`; `VF` tells that nothing was borrowed. -/
  | subFrom (x y : Fin 16)
  /-- `8xyE`: doubles `Vx`; the bit shifted out goes to `VF`. The digit `y` is not used. -/
  | shiftLeft (x y : Fin 16)
  /-- `9xy0`: skips the next instruction if `Vx` and `Vy` differ. -/
  | skipUnlessSame (x y : Fin 16)
  /-- `Annn`: sets the index to an address. -/
  | loadIndex (target : Fin 4096)
  /-- `Bnnn`: goes on at an address plus `V0`. -/
  | jumpOffset (target : Fin 4096)
  /-- `Cxkk`: sets `Vx` to the bits of a random byte that are in a mask. -/
  | random (x : Fin 16) (mask : Fin 256)
  /-- `Dxyn`: draws the sprite of `n` rows at the index to `(Vx, Vy)`; `VF` tells a collision. -/
  | draw (x y : Fin 16) (rows : Fin 16)
  /-- `Ex9E`: skips the next instruction if the key of `Vx` is down. -/
  | skipIfDown (x : Fin 16)
  /-- `ExA1`: skips the next instruction if the key of `Vx` is up. -/
  | skipIfUp (x : Fin 16)
  /-- `Fx07`: sets `Vx` to the delay timer. -/
  | readDelay (x : Fin 16)
  /-- `Fx0A`: waits for a key and sets `Vx` to it. -/
  | awaitKey (x : Fin 16)
  /-- `Fx15`: sets the delay timer to `Vx`. -/
  | setDelay (x : Fin 16)
  /-- `Fx18`: sets the sound timer to `Vx`. -/
  | setSound (x : Fin 16)
  /-- `Fx1E`: adds `Vx` to the index. -/
  | addIndex (x : Fin 16)
  /-- `Fx29`: sets the index to the sprite of the digit `Vx`. -/
  | loadGlyph (x : Fin 16)
  /-- `Fx33`: stores the three decimal digits of `Vx` at the index. -/
  | storeDecimal (x : Fin 16)
  /-- `Fx55`: stores `V0` to `Vx` at the index. -/
  | storeRegisters (x : Fin 16)
  /-- `Fx65`: loads `V0` to `Vx` from the index. -/
  | loadRegisters (x : Fin 16)
  deriving DecidableEq, Repr

/-- The word that stands for an instruction. -/
def Instruction.encode : Instruction → Nat
  | clearScreen => 0x00E0
  | ret => 0x00EE
  | jump a => 0x1000 + a
  | call a => 0x2000 + a
  | skipIfByte x k => 0x3000 + x * 256 + k
  | skipUnlessByte x k => 0x4000 + x * 256 + k
  | skipIfSame x y => 0x5000 + x * 256 + y * 16
  | loadByte x k => 0x6000 + x * 256 + k
  | addByte x k => 0x7000 + x * 256 + k
  | copy x y => 0x8000 + x * 256 + y * 16
  | or x y => 0x8001 + x * 256 + y * 16
  | and x y => 0x8002 + x * 256 + y * 16
  | xor x y => 0x8003 + x * 256 + y * 16
  | add x y => 0x8004 + x * 256 + y * 16
  | sub x y => 0x8005 + x * 256 + y * 16
  | shiftRight x y => 0x8006 + x * 256 + y * 16
  | subFrom x y => 0x8007 + x * 256 + y * 16
  | shiftLeft x y => 0x800E + x * 256 + y * 16
  | skipUnlessSame x y => 0x9000 + x * 256 + y * 16
  | loadIndex a => 0xA000 + a
  | jumpOffset a => 0xB000 + a
  | random x k => 0xC000 + x * 256 + k
  | draw x y n => 0xD000 + x * 256 + y * 16 + n
  | skipIfDown x => 0xE09E + x * 256
  | skipIfUp x => 0xE0A1 + x * 256
  | readDelay x => 0xF007 + x * 256
  | awaitKey x => 0xF00A + x * 256
  | setDelay x => 0xF015 + x * 256
  | setSound x => 0xF018 + x * 256
  | addIndex x => 0xF01E + x * 256
  | loadGlyph x => 0xF029 + x * 256
  | storeDecimal x => 0xF033 + x * 256
  | storeRegisters x => 0xF055 + x * 256
  | loadRegisters x => 0xF065 + x * 256

end ChipEight
