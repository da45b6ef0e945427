/-! Upper-case hexadecimal text of integers, filled with zeros to a least width that counts the sign. -/
namespace Chip8.Text

/-- Digits of a magnitude, most significant first. -/
def hexDigits (n : Nat) : List Char :=
  (Nat.toDigits 16 n).map Char.toUpper

def hex (width : Nat) (v : Int) : String :=
  let sign := if v < 0 then ['-'] else []
  let body := hexDigits v.natAbs
  String.ofList (sign ++ List.replicate (width - sign.length - body.length) '0' ++ body)

end Chip8.Text
