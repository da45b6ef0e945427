import Chip8.Sound.SquareWave
import Chip8.Standard

/-! Playing tones through a mixer. -/
namespace Chip8

/-- Rate, sample size in bits (negative for signed samples) and channels of a mixer. -/
structure MixerFormat where
  rate : Int
  size : Int
  channels : Int
deriving DecidableEq, Repr

namespace MixerFormat

def requested : MixerFormat := ⟨44100, -16, 1⟩

end MixerFormat

structure Mixer where
  /-- The format in use, if the mixer is running. -/
  running? : Option MixerFormat := none
  /-- The format after a successful start. -/
  afterStart : MixerFormat := .requested
  /-- Why the mixer cannot be started, if so. -/
  failure? : Option String := none
deriving DecidableEq, Repr

def Mixer.start (m : Mixer) : Except String MixerFormat :=
  match m.failure? with
  | some text => .error text
  | none => .ok m.afterStart

/-- A sound that is ready to be played, the same on every channel. -/
structure Sound where
  wave : SquareWave
  channels : Int
deriving DecidableEq, Repr

/-- Sample count, and the number of channels when there are several. -/
def Sound.shape (s : Sound) : List Int :=
  if s.channels > 1 then [s.wave.length, s.channels] else [s.wave.length]

/-- Without a mixer a beeper stays silent. -/
structure Beeper where
  sound? : Option Sound

namespace Beeper

/-- The sound for tones, of the length that sounds have. -/
def sound {τ : Type} [Quantity τ] (room : Room) (frequency : Int) (volume : τ) (f : MixerFormat) :
    Except Error Sound := do
  let wave ← SquareWave.ofVolume room frequency f.rate volume Standard.soundLength
  return ⟨wave, f.channels⟩

/-- Milliseconds to play for a tone request, if it can be heard. -/
def duration? (b : Beeper) (milliseconds : Int) : Option Int :=
  if b.sound?.isSome ∧ milliseconds > 0 then some milliseconds else none

end Beeper
end Chip8
