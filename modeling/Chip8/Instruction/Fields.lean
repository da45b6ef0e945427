import Chip8.Text.Hex

/-! The operand fields of an instruction word. Words are integers of any size; only their
low sixteen bits, in two's complement, take part. -/
namespace Chip8

/-- Four digits from the most significant, the last two as a byte and the last three as an address. -/
structure Fields where
  family : Fin 16
  x : Fin 16
  y : Fin 16
  n : Fin 16
  nn : UInt8
  nnn : Fin 4096
deriving DecidableEq, Repr

namespace Fields

/-- The hexadecimal digit of a word that counts multiples of a unit. -/
def digit (word unit : Int) : Fin 16 :=
  ⟨(word / unit % 16).toNat, by omega⟩

def ofInt (word : Int) : Fields where
  family := digit word 0x1000
  x := digit word 0x100
  y := digit word 0x10
  n := digit word 1
  nn := UInt8.ofNat (word % 256).toNat
  nnn := ⟨(word % 4096).toNat, by omega⟩

end Fields

/-- A word and its operand fields, for logs. -/
def describeWord (word : Int) : String :=
  let f := Fields.ofInt word
  let raw := Text.hex 4 word
  let x := Text.hex 1 f.x
  let y := Text.hex 1 f.y
  let n := Text.hex 1 f.n
  let nn := Text.hex 2 f.nn.toNat
  let nnn := Text.hex 3 f.nnn
  s!"{raw} (X: {x}, Y: {y}, N: {n}, NN: {nn}, NNN: {nnn})"

/-- The same with the address of the word. -/
def describeWordAt (address word : Int) : String :=
  "0x" ++ Text.hex 3 address ++ ": " ++ describeWord word

end Chip8
