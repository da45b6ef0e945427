import Chip8.Instruction.Basic

/-! Arithmetic on two registers. An operation with a flag stores the flag first, computed from
the operands as they were, and then reads the registers again for its result. -/
namespace Chip8.AluOp

/-- The flag an operation stores, if it stores one. -/
def flag? (op : AluOp) (a b : UInt8) : Option Bool :=
  match op with
  | copy | or | and | xor => none
  | add => some (a.toNat + b.toNat > 255)
  | subtract => some (a > b)
  | shiftRight => some (a &&& 1 = 1)
  | subtractFrom => some (b > a)
  | shiftLeft => some (a &&& 0x80 ≠ 0)

def result (op : AluOp) (a b : UInt8) : UInt8 :=
  match op with
  | copy => b
  | or => a ||| b
  | and => a &&& b
  | xor => a ^^^ b
  | add => a + b
  | subtract => a - b
  | shiftRight => a / 2
  | subtractFrom => b - a
  | shiftLeft => a * 2

/-- Only the reversed subtraction writes its second operand. -/
def destination (op : AluOp) (x y : Reg) : Reg :=
  match op with
  | subtractFrom => y
  | _ => x

def apply (op : AluOp) (v : Registers) (x y : Reg) : Registers :=
  let flagged :=
    match op.flag? (v.get x) (v.get y) with
    | some f => v.setFlag f
    | none => v
  flagged.set (op.destination x y) (op.result (flagged.get x) (flagged.get y))

end Chip8.AluOp
