import Chip8.Fault
import Chip8.Instruction.Basic

/-! Checks made before a program is loaded or an instruction runs. The stack checks always
apply; a strict machine also refuses blocks that reach past the end of memory. -/
namespace Chip8

/-- Both bytes of a word must lie in memory. -/
def checkFetch (address : Int) : Except Fault Unit :=
  if address + 1 ≥ memorySize then .error ⟨.fetchPastEnd, { address := some address }⟩ else .ok ()

namespace Instruction

/-- Number of bytes from `index` on that an instruction reads or writes. -/
def blockLength : Instruction → Nat
  | .draw _ _ height => height
  | .misc .storeDecimal _ => 3
  | .misc .storeRegisters x | .misc .loadRegisters x => x + 1
  | _ => 0

/-- A return needs an address to go to and a call a free slot. -/
def stackRefusal? (i : Instruction) (s : State) : Option Cause :=
  match i with
  | .ret => if s.stack.depth = 0 then some .emptyStack else none
  | .call _ => if s.stack.depth ≥ stackSize then some .fullStack else none
  | _ => none

/-- Every byte that is read or written must lie in memory. -/
def blockRefusal? (i : Instruction) (s : State) : Option Cause :=
  if i.blockLength > 0 ∧ s.index.toNat + i.blockLength > memorySize then
    some (.blockPastEnd s.index i.blockLength)
  else none

def refusal? (i : Instruction) (s : State) (strict : Bool) : Option Cause :=
  (i.stackRefusal? s).or (if strict then i.blockRefusal? s else none)

/-- Whether the instruction decoded from `word` may run on a state. -/
def check (word address : Int) (s : State) (strict : Bool) : Except Fault Unit :=
  match (ofInt word).refusal? s strict with
  | some cause => .error ⟨cause, ⟨some address, some word⟩⟩
  | none => .ok ()

/-- The report for a word that will be skipped. -/
def unknown? (word address : Int) : Option UnknownWord :=
  match ofInt word with
  | .unknownMisc code => some ⟨code, address, word⟩
  | _ => none

end Instruction

def State.load (s : State) (program : List UInt8) : Except Fault State :=
  if program.length > maxProgramSize then
    .error ⟨.programTooLong program.length, { address := some programStart }⟩
  else
    .ok { s with memory := s.memory.writeBlock programStart program }

end Chip8
