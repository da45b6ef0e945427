import Chip8.Decimal.Binary64

/-! Numbers with a fixed count of decimal places, correctly rounded from their exact value. -/
namespace Chip8.Decimal

/-- Nearest integer; of two equally near ones the even one. -/
def roundHalfEven (q : Rat) : Int :=
  let rest := q - q.floor
  if rest < 1 / 2 then q.floor
  else if 1 / 2 < rest then q.floor + 1
  else if q.floor % 2 = 0 then q.floor
  else q.floor + 1

def padded (width n : Nat) : String :=
  let digits := Nat.toDigits 10 n
  String.ofList (List.replicate (width - digits.length) '0' ++ digits)

def fixedMagnitude (places : Nat) (q : Rat) : String :=
  let one := Nat.pow 10 places
  let units := (roundHalfEven (q * one)).toNat
  toString (units / one) ++ "." ++ padded places (units % one)

/-- Zero keeps its sign, as does a number that rounds to zero. -/
def fixed (places : Nat) (f : Float) : String :=
  match Binary64.ofFloat f with
  | .finite negative q => (if negative then "-" else "") ++ fixedMagnitude places q
  | .infinite negative => if negative then "-inf" else "inf"
  | .nan => "nan"

end Chip8.Decimal
