import Chip8.Decimal.Grouped

/-! What a progress display of executed instructions shows. -/
namespace Chip8

structure Progress where
  description : String
  total : Int
  unit : String := "instr"
deriving DecidableEq, Repr

def Progress.ofTotal (total : Int) (description? : Option String) : Progress :=
  let count := Decimal.grouped total
  { description := description?.getD s!"Running ({count} instructions)", total }

end Chip8
