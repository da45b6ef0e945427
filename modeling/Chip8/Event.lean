import Chip8.Fault
import Chip8.Log.Level
import Chip8.Screen.Grid

/-! What a machine reports while it runs, and who listens. -/
namespace Chip8

inductive Event where
  | log (level : Level) (text : String)
  | frame (picture : Grid)
  | tone (milliseconds : Int)
  | unknown (word : UnknownWord)
deriving DecidableEq

/-- Which kinds of report have a listener, and the least level that is logged. -/
structure Observer where
  level : Level
  frames : Bool := false
  tones : Bool := false
  unknowns : Bool := false
deriving DecidableEq, Repr, Inhabited

def Observer.sees (o : Observer) : Event → Bool
  | .log level _ => o.level.rank ≤ level.rank
  | .frame _ => o.frames
  | .tone _ => o.tones
  | .unknown _ => o.unknowns

end Chip8
