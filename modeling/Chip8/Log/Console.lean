import Chip8.Decimal.Fixed
import Chip8.Standard
import Chip8.Log.Level
import Chip8.Text.Align

/-! Text of log messages on a console. -/
namespace Chip8

structure Console where
  name : String := Standard.programName
  threshold : Level := .info
  colored : Bool := false
  timestamps : Bool := true
deriving DecidableEq, Repr

namespace Console

def escape (code : String) : String := "\x1b[" ++ code ++ "m"

def reset : String := escape "0"

def levelColor : Level → String
  | .debug => escape "36"
  | .info => escape "32"
  | .warning => escape "33"
  | .error => escape "31"
  | .critical => escape "35"

/-- What switches the color on for a label; labels that name no level have none. -/
def labelColor (label : String) : String :=
  match Level.ofName? label with
  | some level => levelColor level
  | none => if Level.capitals label = "RESET" then reset else ""

/-- A label that names no level counts as information. -/
def admits (c : Console) (label : String) : Bool :=
  c.threshold.rank ≤ ((Level.ofName? label).getD .info).rank

def header (c : Console) (elapsed : Float) (label : String) : String :=
  let time := "[" ++ Text.alignRight 8 (Decimal.fixed 2 elapsed) ++ "s]"
  let level := "[" ++ Text.alignRight 8 label ++ "]"
  let level := if c.colored then labelColor label ++ level ++ reset else level
  (if c.timestamps then time else "") ++ level ++ "[" ++ c.name ++ "] "

/-- The lines a message prints, if its label is admitted. -/
def print (c : Console) (elapsed : Float) (label message : String) : List String :=
  if c.admits label then (c.header elapsed label ++ message).splitOn "\n" else []

end Console
end Chip8
