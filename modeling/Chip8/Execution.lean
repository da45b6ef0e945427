import Chip8.Alu
import Chip8.Screen.Sprite
import Chip8.SignedWord
import Chip8.State

/-! What each instruction does to a state. Nothing here can fail: accesses past the end of
memory or of the stack follow the rules of those types. -/
namespace Chip8.State

def skipIf (s : State) (condition : Bool) : State :=
  if condition then { s with pc := s.pc + 2 } else s

def setRegister (s : State) (x : Reg) (b : UInt8) : State :=
  { s with registers := s.registers.set x b }

/-- Marked cells are left alone: they are dark already when the next sprite is drawn. -/
def clearScreen (s : State) : State :=
  { s with display := .dark, redraw := s.redraw || s.display.any }

def ret (s : State) : State :=
  { s with stack := s.stack.pop, pc := s.stack.top }

def jump (s : State) (target : Nat) : State :=
  { s with pc := UInt16.ofNat target }

def call (s : State) (target : Nat) : State :=
  { s with stack := s.stack.push s.pc }.jump target

def setRandom (s : State) (x : Reg) (mask : UInt8) : State :=
  { s.setRegister x (s.random.byte &&& mask) with random := s.random.next }

/-- Switches off the cells that the last sprite erased. -/
def commitPending (s : State) : State :=
  { s with
    display := s.display.diff s.pending
    pending := .dark
    redraw := s.redraw || (s.pending.inter s.display).any }

/-- The sprite at `index` with its corner at the values of two registers. -/
def sprite (s : State) (x y : Reg) (height : Fin 16) : Sprite :=
  ⟨s.registers.get x, s.registers.get y, height, s.index.toNat⟩

/-- Flips the lit cells of an area. Cells that go dark are only marked, and the flag tells
whether there are any. -/
def stamp (s : State) (area bits : Grid) : State :=
  let flipped := s.display.symmDiff bits
  { s with
    display := s.display.union (area.inter flipped)
    pending := area.diff flipped
    redraw := s.redraw || (bits.diff s.display).any
    registers := s.registers.setFlag (s.display.inter bits).any }

def draw (s : State) (x y : Reg) (height : Fin 16) : State :=
  let sprite := s.sprite x y height
  s.commitPending.stamp sprite.area (sprite.bits s.memory)

/-- Without a held key the instruction is run again. -/
def awaitKey (s : State) (x : Reg) : State :=
  match s.keypad.lowest? with
  | some key => s.setRegister x (UInt8.ofNat key)
  | none => { s with pc := s.pc - 2 }

/-- Milliseconds in a number of timer ticks. -/
def toneLength (ticks : UInt8) : Nat := ticks.toNat * 1000 / timerRate

/-- Hundreds, tens and ones. -/
def decimalDigits (b : UInt8) : List UInt8 := [b / 100, b / 10 % 10, b % 10]

def storeBlock (s : State) (bytes : List UInt8) : State :=
  { s with memory := s.memory.writeBlock s.index.toNat bytes }

/-- The sixteen bytes from `index` on, of which those past the end of memory repeat its last. -/
def window (s : State) : Registers := .ofFn fun r => s.memory.read (s.index.toNat + r)

/-- Rewrites the whole window; its bytes beyond the last register get back what was read there. -/
def storeRegisters (s : State) (last : Reg) : State :=
  s.storeBlock <| .ofFn fun r : Reg => if r ≤ last then s.registers.get r else s.window.get r

def loadRegisters (s : State) (last : Reg) : State :=
  { s with registers := .ofFn fun r => if r ≤ last then s.window.get r else s.registers.get r }

def executeMisc (s : State) (op : MiscOp) (x : Reg) : State :=
  let v := s.registers.get x
  match op with
  | .readDelay => s.setRegister x s.delay
  | .awaitKey => s.awaitKey x
  | .setDelay => { s with delay := v }
  | .requestTone => { s with tone := some (toneLength v) }
  | .addToIndex => { s with index := s.index + v.toUInt16 }
  | .pointToGlyph => { s with index := UInt16.ofNat (fontStart + v.toNat * glyphSize) }
  | .storeDecimal => s.storeBlock (decimalDigits v)
  | .storeRegisters => s.storeRegisters x
  | .loadRegisters => s.loadRegisters x

def execute (s : State) (i : Instruction) : State :=
  let v := s.registers
  match i with
  | .clear => s.clearScreen
  | .ret => s.ret
  | .jump target => s.jump target
  | .call target => s.call target
  | .skipEqByte x b => s.skipIf (v.get x == b)
  | .skipNeByte x b => s.skipIf (v.get x != b)
  | .skipEq x y => s.skipIf (v.get x == v.get y)
  | .skipNe x y => s.skipIf (v.get x != v.get y)
  | .setByte x b => s.setRegister x b
  | .addByte x b => s.setRegister x (v.get x + b)
  | .alu op x y => { s with registers := op.apply v x y }
  | .setIndex target => { s with index := UInt16.ofNat target }
  | .jumpOffset target => s.jump (target + (v.get Reg.first).toNat)
  | .random x mask => s.setRandom x mask
  | .draw x y height => s.draw x y height
  | .skipHeld x => s.skipIf (s.keypad.holdsCode (v.get x))
  | .skipReleased x => s.skipIf (!s.keypad.holdsCode (v.get x))
  | .misc op x => s.executeMisc op x
  | .unknownMisc _ => s
  | .ignored => s

/-- Executes a word of 32 bits, of which the low sixteen take part. -/
def executeWord? (s : State) (word : Int) : Option State :=
  if fitsWord32 word then some (s.execute (.ofInt word)) else none

def word (s : State) : UInt16 := s.memory.readWord s.pc.toNat (s.pc + 1).toNat

def passWord (s : State) : State := { s with pc := s.pc + 2 }

def cycle (s : State) : State := s.passWord.execute (.ofInt s.word.toNat)

/-- One tick of the 60 Hz timers, which also acknowledges a redraw. -/
def tick (s : State) : State :=
  { s with delay := if s.delay > 0 then s.delay - 1 else s.delay, redraw := false }

def clearTone (s : State) : State := { s with tone := none }

def setKey (s : State) (key : Key) (down : Bool) : State :=
  { s with keypad := s.keypad.set key down }

end Chip8.State
