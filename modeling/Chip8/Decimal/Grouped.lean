/-! Integers in groups of three digits. -/
namespace Chip8.Decimal

/-- Digits from the least significant one, with a comma after every third that another follows. -/
def groupThrees : List Char → List Char
  | a :: b :: c :: d :: rest => a :: b :: c :: ',' :: groupThrees (d :: rest)
  | few => few

def grouped (v : Int) : String :=
  let body := String.ofList (groupThrees (Nat.toDigits 10 v.natAbs).reverse).reverse
  if v < 0 then "-" ++ body else body

end Chip8.Decimal
