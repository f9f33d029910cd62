/-!
# Sources of random bytes

A machine takes random numbers from a source, one at a time. The numbers may be any integers: the
machine uses their lowest eight bits.

## Main definitions

* `ByteSource` — the class of states of a source
* `ByteSource.rest` — the source after a number of draws
* `Tape` — a list of numbers that starts again at its end
-/

namespace ChipEight

/-- A source of numbers with states in `σ`. -/
class ByteSource (σ : Type) where
  /-- The next number, and the source after it. -/
  draw : σ → Int × σ

/-- The source after `n` draws. -/
def ByteSource.rest {σ : Type} [ByteSource σ] (source : σ) : Nat → σ
  | 0 => source
  | n + 1 => rest (draw source).2 n

/-- The number that draw `n` gives, the first one being draw zero. -/
def ByteSource.value {σ : Type} [ByteSource σ] (source : σ) (n : Nat) : Int :=
  (draw (rest source n)).1

/-- A list of numbers read over and over, with the place of the next one. -/
structure Tape where
  values : List Int
  next : Nat
  deriving DecidableEq, Repr

/-- The tape with the given numbers, at its start. -/
def Tape.ofList (values : List Int) : Tape := ⟨values, 0⟩

/-- A tape gives its numbers in order and then starts again. -/
instance : ByteSource Tape where
  draw tape :=
    (tape.values.getD tape.next 0, { tape with next := (tape.next + 1) % tape.values.length })

end ChipEight
