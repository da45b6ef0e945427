import Chip8.Settings.Basic

/-! Settings given as words of the form key=value. -/
namespace Chip8.Settings

/-- An unsigned number with a fraction. -/
def readReal? (s : String) : Option Float :=
  match s.splitOn "." with
  | [whole, fraction] => do
      let n ← (whole ++ fraction).toNat?
      return Float.ofScientific n true fraction.length
  | _ => none

def readScalar (s : String) : Scalar :=
  if s = "null" then .null
  else if s = "true" then .flag true
  else if s = "false" then .flag false
  else
    match s.toInt?, readReal? s with
    | some n, _ => .whole n
    | none, some x => .real x
    | none, none => .text s

def readWord? (word : String) : Option (String × Scalar) :=
  match word.splitOn "=" with
  | key :: first :: rest => some (key, readScalar ("=".intercalate (first :: rest)))
  | _ => none

def readWords (words : List String) : Except String (List (String × Scalar)) :=
  words.mapM fun word =>
    match readWord? word with
    | some setting => .ok setting
    | none => .error word

end Chip8.Settings
