import Chip8.State
import Chip8.Text.Hex

/-! The visible registers of a state as text. -/
namespace Chip8

namespace State

def registerText (s : State) (r : Reg) : String :=
  "V" ++ Text.hex 1 r ++ ": " ++ Text.hex 2 (s.registers.get r).toNat

/-- Counters and timers, then the registers four to a line. -/
def dump (s : State) : List String :=
  let pc := Text.hex 3 s.pc.toNat
  let index := Text.hex 3 s.index.toNat
  let delay := s.delay.toNat
  let depth := s.stack.depth
  let row (first : Nat) :=
    "  ".intercalate ([0, 1, 2, 3].map fun i => s.registerText (.ofNat (first + i)))
  s!"PC: 0x{pc}  I: 0x{index}  Delay: {delay}  SP: {depth}" :: [0, 4, 8, 12].map row

end State

/-- Messages about a halt: the reason, then the registers where they are known. -/
def haltMessages (reason : String) (s? : Option State) : List String :=
  ("Execution halted: " ++ reason) ::
    match s? with
    | some s => s.dump.map ("  " ++ ·)
    | none => []

end Chip8
