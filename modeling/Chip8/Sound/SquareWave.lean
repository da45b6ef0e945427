import Chip8.Pacing.Quantity
import Chip8.Room
import Chip8.SignedWord

/-! Square waves as signed sixteen-bit samples. -/
namespace Chip8

structure SquareWave where
  frequency : Int
  sampleRate : Int
  /-- Peak of the wave; the trough is its negative. -/
  amplitude : Int
  length : Nat
deriving DecidableEq, Repr

namespace SquareWave

/-- The first length that words of 64 bits cannot count. A wave of this length is empty. -/
def wordLimit : Int := 0x8000000000000000

/-- The first length whose samples, counted with a word each, fill all addresses. -/
def addressLimit : Int := 0x1000000000000000

/-- Negative lengths are empty, but they too must have a form of 64 bits. -/
def checkLength (room : Room) (length : Int) : Except Error Unit := do
  if !fitsWord64 length then throw .waveTooLong
  if addressLimit ≤ length then throw .waveNotAddressable
  if !room.wave length.toNat then throw .outOfMemory

/-- A wave of the given volume and length in seconds. The number of samples and the amplitude
are cut toward zero. -/
def ofVolume {τ : Type} [Quantity τ] (room : Room) (frequency sampleRate : Int)
    (volume seconds : τ) : Except Error SquareWave := do
  let length ← Quantity.truncate (Quantity.mul (Quantity.ofInt sampleRate) seconds)
  if length ≠ wordLimit then
    checkLength room length
    if !(fitsWord64 frequency && fitsWord64 sampleRate) then throw .waveOutOfRange
  let amplitude ← Quantity.truncate (Quantity.mul (Quantity.ofInt 32767) volume)
  if !(fitsWord64 amplitude && fitsWord64 (-amplitude)) then throw .waveOutOfRange
  return ⟨frequency, sampleRate, amplitude, if length = wordLimit then 0 else length.toNat⟩

/-- Half waves completed before a sample, counted in 64 bits. -/
def halfWaves (w : SquareWave) (i : Nat) : Int :=
  ((i * 2 * w.frequency).bmod 0x10000000000000000).fdiv w.sampleRate

/-- Half waves alternate, starting high. -/
def isHigh (w : SquareWave) (i : Nat) : Bool := w.halfWaves i % 2 = 0

def sample (w : SquareWave) (i : Nat) : Int16 :=
  Int16.ofInt (if w.isHigh i then w.amplitude else -w.amplitude)

def samples (w : SquareWave) : Array Int16 := .ofFn fun i : Fin w.length => w.sample i

end SquareWave
end Chip8
