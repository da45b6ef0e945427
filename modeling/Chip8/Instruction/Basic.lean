import Chip8.Instruction.Fields
import Chip8.Registers

/-! The instruction set as data, and the instruction that a word stands for. -/
namespace Chip8

inductive AluOp where
  | copy
  | or
  | and
  | xor
  | add
  | subtract
  | shiftRight
  | subtractFrom
  | shiftLeft
deriving DecidableEq, Repr

/-- The operation that the last digit of an arithmetic word selects. -/
def AluOp.ofDigit? : Fin 16 → Option AluOp
  | 0x0 => some .copy
  | 0x1 => some .or
  | 0x2 => some .and
  | 0x3 => some .xor
  | 0x4 => some .add
  | 0x5 => some .subtract
  | 0x6 => some .shiftRight
  | 0x7 => some .subtractFrom
  | 0xE => some .shiftLeft
  | _ => none

/-- Timers, keys, tones and block transfers, each on one register. -/
inductive MiscOp where
  | readDelay
  | awaitKey
  | setDelay
  | requestTone
  | addToIndex
  | pointToGlyph
  | storeDecimal
  | storeRegisters
  | loadRegisters
deriving DecidableEq, Repr

namespace MiscOp

def codes : List (UInt8 × MiscOp) :=
  [(0x07, .readDelay), (0x0A, .awaitKey), (0x15, .setDelay), (0x18, .requestTone),
   (0x1E, .addToIndex), (0x29, .pointToGlyph), (0x33, .storeDecimal),
   (0x55, .storeRegisters), (0x65, .loadRegisters)]

def ofCode? (nn : UInt8) : Option MiscOp := codes.lookup nn

/-- Place of a code in the table, counted from one; zero for a code that is not in it. -/
def position (nn : UInt8) : Nat :=
  match codes.findIdx? (·.1 == nn) with
  | some i => i + 1
  | none => 0

/-- Whether an integer is one of the codes. -/
def isCode (nn : Int) : Bool := codes.any fun (code, _) => (code.toNat : Int) = nn

/-- The place of any integer's code: from zero down, indices count back from the end of the table of
all bytes once, and outside it there are no codes. -/
def positionAt (nn : Int) : Nat :=
  if -256 ≤ nn ∧ nn < 256 then position (UInt8.ofNat (nn % 256).toNat) else 0

end MiscOp

inductive Instruction where
  | clear
  | ret
  | jump (target : Fin 4096)
  | call (target : Fin 4096)
  | skipEqByte (x : Reg) (b : UInt8)
  | skipNeByte (x : Reg) (b : UInt8)
  | skipEq (x y : Reg)
  | skipNe (x y : Reg)
  | setByte (x : Reg) (b : UInt8)
  | addByte (x : Reg) (b : UInt8)
  | alu (op : AluOp) (x y : Reg)
  | setIndex (target : Fin 4096)
  | jumpOffset (target : Fin 4096)
  | random (x : Reg) (mask : UInt8)
  | draw (x y : Reg) (height : Fin 16)
  | skipHeld (x : Reg)
  | skipReleased (x : Reg)
  | misc (op : MiscOp) (x : Reg)
  | unknownMisc (code : UInt8)
  | ignored
deriving DecidableEq, Repr

namespace Instruction

def ofFields (f : Fields) : Instruction :=
  match f.family with
  | 0x0 => if f.nn = 0xE0 then .clear else if f.nn = 0xEE then .ret else .ignored
  | 0x1 => .jump f.nnn
  | 0x2 => .call f.nnn
  | 0x3 => .skipEqByte f.x f.nn
  | 0x4 => .skipNeByte f.x f.nn
  | 0x5 => .skipEq f.x f.y
  | 0x6 => .setByte f.x f.nn
  | 0x7 => .addByte f.x f.nn
  | 0x8 =>
      match AluOp.ofDigit? f.n with
      | some op => .alu op f.x f.y
      | none => .ignored
  | 0x9 => .skipNe f.x f.y
  | 0xA => .setIndex f.nnn
  | 0xB => .jumpOffset f.nnn
  | 0xC => .random f.x f.nn
  | 0xD => .draw f.x f.y f.n
  | 0xE => if f.nn = 0x9E then .skipHeld f.x else if f.nn = 0xA1 then .skipReleased f.x else .ignored
  | _ =>
      match MiscOp.ofCode? f.nn with
      | some op => .misc op f.x
      | none => .unknownMisc f.nn

def ofInt (word : Int) : Instruction := ofFields (.ofInt word)

end Instruction
end Chip8
