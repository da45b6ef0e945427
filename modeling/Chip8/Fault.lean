import Chip8.Text.Hex
import Chip8.State

/-! Why a program or an instruction is refused, and where. -/
namespace Chip8

/-- Longest program that fits above `programStart`. -/
def maxProgramSize : Nat := memorySize - programStart

/-- The address of an instruction and its word, as far as they are known. -/
structure Site where
  address : Option Int := none
  opcode : Option Int := none
deriving DecidableEq, Repr

namespace Site

def parts (s : Site) : List String :=
  let address := s.address.toList.map fun a => "at 0x" ++ Text.hex 3 a
  let opcode := s.opcode.toList.map fun w => "opcode " ++ Text.hex 4 w
  address ++ opcode

/-- A message with the known parts of the site in parentheses. -/
def annotate (s : Site) (message : String) : String :=
  if s.parts.isEmpty then message
  else message ++ " (" ++ ", ".intercalate s.parts ++ ")"

end Site

inductive Cause where
  | programTooLong (size : Nat)
  | fetchPastEnd
  | emptyStack
  | fullStack
  | blockPastEnd (index : UInt16) (length : Nat)
deriving DecidableEq, Repr

def Cause.message : Cause → String
  | programTooLong size =>
      let start := Text.hex 3 programStart
      s!"Program is {size} bytes, at most {maxProgramSize} fit above 0x{start}"
  | fetchPastEnd => "Instruction fetch past end of memory"
  | emptyStack => "Return with empty stack"
  | fullStack => s!"Call with {stackSize} return addresses already on the stack"
  | blockPastEnd index length =>
      let start := Text.hex 4 index.toNat
      s!"I=0x{start} spans {length} bytes past end of memory"

/-- The kinds of fault that a caller can tell apart. -/
inductive FaultKind where
  | outOfBounds
  | stackOverflow
  | stackUnderflow
deriving DecidableEq, Repr

def Cause.kind : Cause → FaultKind
  | programTooLong _ | fetchPastEnd | blockPastEnd .. => .outOfBounds
  | fullStack => .stackOverflow
  | emptyStack => .stackUnderflow

structure Fault where
  cause : Cause
  site : Site
deriving DecidableEq, Repr

def Fault.text (f : Fault) : String := f.site.annotate f.cause.message

/-- A word that is skipped because its last byte selects no operation. -/
structure UnknownWord where
  code : UInt8
  address : Int
  opcode : Int
deriving DecidableEq, Repr

namespace UnknownWord

def message (u : UnknownWord) : String :=
  let code := Text.hex 2 u.code.toNat
  s!"Unknown FX{code} instruction ignored"

def text (u : UnknownWord) : String :=
  Site.annotate ⟨some u.address, some u.opcode⟩ u.message

end UnknownWord
end Chip8
