import Chip8.Decimal.Shortest
import Chip8.Text.Yaml.Scalar

/-! Values of single settings. -/
namespace Chip8.Settings

inductive Scalar where
  | null
  | flag (b : Bool)
  | whole (n : Int)
  | real (x : Float)
  | text (s : String)

namespace Scalar

def display : Scalar → String
  | null => "None"
  | flag b => if b then "True" else "False"
  | whole n => toString n
  | real x => Decimal.shortest .plain x
  | text s => s

/-- A value in a listing, beginning at a column. -/
def yaml (column : Nat) : Scalar → String
  | null => "null"
  | flag b => if b then "true" else "false"
  | whole n => toString n
  | real x => Decimal.shortest .yaml x
  | text s => Text.Yaml.scalar column s

/-- Everything but nothing, zero and the empty text counts as true. -/
def isTruthy : Scalar → Bool
  | null => false
  | flag b => b
  | whole n => n ≠ 0
  | real x => x != 0
  | text s => !s.isEmpty

/-- Flags count as one and zero. -/
def whole? : Scalar → Option Int
  | flag b => some (if b then 1 else 0)
  | whole n => some n
  | _ => none

def real? : Scalar → Option Float
  | real x => some x
  | v => v.whole?.map Float.ofInt

def text? : Scalar → Option String
  | text s => some s
  | _ => none

end Scalar
end Chip8.Settings
