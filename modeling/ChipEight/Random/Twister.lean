import ChipEight.Random.Source

/-!
# The Mersenne twister

The generator of 32-bit words with a state of 624 words and period `2 ^ 19937 - 1`, seeded from an
integer of any size, and the bytes drawn from it.

## Main definitions

* `Twister` — a block of words and the place of the next one
* `Twister.ofSeed` — the generator for a seed; the sign of the seed does not matter
* `Twister.word` — the next word
* `Twister.byte` — the next byte
-/

namespace ChipEight

/-- A block of state words, of which those before `next` have been handed out. -/
structure Twister where
  block : Vector UInt32 624
  next : Nat

namespace Twister

/-- A word with its top two bits folded into its lowest two. -/
def fold (word : UInt32) : UInt32 :=
  word ^^^ (word >>> 30)

/-- Gives the word after word `i` of a block its first value. -/
def spreadWord (block : Vector UInt32 624) (i : Fin 623) : Vector UInt32 624 :=
  block.set (i.val + 1) (fold block[i.val] * 1812433253 + UInt32.ofNat (i.val + 1))

/-- The state words that a 32-bit seed gives. -/
def spread (seed : UInt32) : Vector UInt32 624 :=
  (List.finRange 623).foldl spreadWord (Vector.replicate 624 seed)

/-- The base `2 ^ 32` digits of a number, lowest first. -/
def words (n : Nat) : List UInt32 :=
  if h : n < 0x100000000 then [UInt32.ofNat n]
  else UInt32.ofNat n :: words (n / 0x100000000)
termination_by n
decreasing_by omega

/-- One step of the mixing of a key into a block: changes word `i` by its predecessor. After the
last word the first one takes its value and is skipped. -/
def mix (factor : UInt32) (addend : UInt32 → UInt32) (state : Vector UInt32 624 × Fin 624) :
    Vector UInt32 624 × Fin 624 :=
  let (block, i) := state
  let block := block.set i ((block[i] ^^^ (fold block[i - 1] * factor)) + addend i.val.toUInt32)
  if i.val = 623 then (block.set 0 block[623], 1) else (block, i + 1)

/-- The generator for the key `key`, which is not empty. -/
def ofKey (key : List UInt32) : Twister :=
  let rounds := max 624 key.length
  let start : Vector UInt32 624 × Fin 624 := (spread 19650218, 1)
  let mixed := (List.range rounds).foldl
    (fun state n =>
      let j := n % key.length
      mix 1664525 (fun _ => key.getD j 0 + UInt32.ofNat j) state)
    start
  let (block, _) := (List.range 623).foldl (fun state _ => mix 1566083941 (fun i => -i) state) mixed
  ⟨block.set 0 0x80000000, 624⟩

/-- The generator for a seed. -/
def ofSeed (seed : Int) : Twister :=
  ofKey (words seed.natAbs)

/-- Replaces word `i` of a block by the word that is 624 places later in the sequence. -/
def twistWord (block : Vector UInt32 624) (i : Fin 624) : Vector UInt32 624 :=
  let joined := (block[i] &&& 0x80000000) ||| (block[i + 1] &&& 0x7FFFFFFF)
  let odd : UInt32 := if joined &&& 1 = 0 then 0 else 0x9908B0DF
  block.set i (block[i + 397] ^^^ (joined >>> 1) ^^^ odd)

/-- The next block of state words. -/
def twist (block : Vector UInt32 624) : Vector UInt32 624 :=
  (List.finRange 624).foldl twistWord block

/-- The word handed out for a state word. -/
def temper (word : UInt32) : UInt32 :=
  let word := word ^^^ (word >>> 11)
  let word := word ^^^ ((word <<< 7) &&& 0x9D2C5680)
  let word := word ^^^ ((word <<< 15) &&& 0xEFC60000)
  word ^^^ (word >>> 18)

/-- The next word, and the generator after it. -/
def word (twister : Twister) : UInt32 × Twister :=
  if h : twister.next < 624 then
    (temper twister.block[twister.next], { twister with next := twister.next + 1 })
  else
    let block := twist twister.block
    (temper block[0], ⟨block, 1⟩)

/-- The most words that are looked at for one byte. The top bits of the words obey a linear
recurrence of degree 19937 and maximal period, so no run of ones among them is longer than that. -/
def maxDraws : Nat := 19938

/-- The top nine bits of the first of `draws` words for which they are below 256. -/
def byteWithin (twister : Twister) : Nat → Nat × Twister
  | 0 => (0, twister)
  | draws + 1 =>
    let (word, twister) := twister.word
    let bits := (word >>> 23).toNat
    if bits < 256 then (bits, twister) else twister.byteWithin draws

/-- The next byte: words whose top bit is set are passed over, and the byte is what follows the top
bit of the next other word. -/
def byte (twister : Twister) : Nat × Twister :=
  twister.byteWithin maxDraws

/-- A twister gives its bytes. -/
instance : ByteSource Twister where
  draw twister :=
    let (byte, twister) := twister.byte
    (byte, twister)

/-- The next `n` bytes. -/
def bytes (twister : Twister) : Nat → List Nat
  | 0 => []
  | n + 1 =>
    let (byte, twister) := twister.byte
    byte :: twister.bytes n

end Twister

end ChipEight
