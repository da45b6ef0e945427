import Chip8.Text.Hex
import Chip8.Text.Printable

/-! Text in quotes, with escapes for everything that would not print. -/
namespace Chip8.Text

def lowerHex (width n : Nat) : String := String.ofList ((hex width n).toList.map Char.toLower)

def escapeChar (quote c : Char) : String :=
  if c = quote then String.ofList ['\\', quote]
  else if c = '\\' then "\\\\"
  else if c = '\n' then "\\n"
  else if c = '\r' then "\\r"
  else if c = '\t' then "\\t"
  else if isPrintable c then c.toString
  else if c.toNat < 0x100 then "\\x" ++ lowerHex 2 c.toNat
  else if c.toNat < 0x10000 then "\\u" ++ lowerHex 4 c.toNat
  else "\\U" ++ lowerHex 8 c.toNat

/-- Single quotes, or double quotes around text that holds single quotes only. -/
def quoted (s : String) : String :=
  let quote := if s.toList.contains '\'' && !s.toList.contains '"' then '"' else '\''
  let body := s.toList.map (escapeChar quote)
  quote.toString ++ String.join body ++ quote.toString

end Chip8.Text
