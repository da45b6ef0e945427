import Chip8.CallStack
import Chip8.Keypad
import Chip8.Memory
import Chip8.Random
import Chip8.Registers
import Chip8.Screen.Grid

/-! Everything a program can see or change. -/
namespace Chip8

/-- Where programs are loaded and where execution begins. -/
def programStart : Nat := 0x200

/-- Timer ticks per second. -/
def timerRate : Nat := 60

def glyphSize : Nat := 5

def fontStart : Nat := 0

/-- Glyphs of the sixteen hexadecimal digits. -/
def font : List UInt8 :=
  [0xF0, 0x90, 0x90, 0x90, 0xF0,
   0x20, 0x60, 0x20, 0x20, 0x70,
   0xF0, 0x10, 0xF0, 0x80, 0xF0,
   0xF0, 0x10, 0xF0, 0x10, 0xF0,
   0x90, 0x90, 0xF0, 0x10, 0x10,
   0xF0, 0x80, 0xF0, 0x10, 0xF0,
   0xF0, 0x80, 0xF0, 0x90, 0xF0,
   0xF0, 0x10, 0x20, 0x40, 0x40,
   0xF0, 0x90, 0xF0, 0x90, 0xF0,
   0xF0, 0x90, 0xF0, 0x10, 0xF0,
   0xF0, 0x90, 0xF0, 0x90, 0x90,
   0xE0, 0x90, 0xE0, 0x90, 0xE0,
   0xF0, 0x80, 0x80, 0x80, 0xF0,
   0xE0, 0x90, 0x90, 0x90, 0xE0,
   0xF0, 0x80, 0xF0, 0x80, 0xF0,
   0xF0, 0x80, 0xF0, 0x80, 0x80]

/-- Erased cells stay lit in `display` and are marked in `pending` until the next sprite is
drawn. A tone request in milliseconds is parked in `tone` until it is handed out. -/
structure State where
  random : Random
  memory : Memory
  pc : UInt16
  index : UInt16
  registers : Registers
  stack : CallStack
  delay : UInt8
  tone : Option Int
  keypad : Keypad
  display : Grid
  pending : Grid
  redraw : Bool
deriving DecidableEq

namespace State

def powerOn (seed : Seed) : State where
  random := .ofSeed seed
  memory := Memory.zero.writeBlock fontStart font
  pc := UInt16.ofNat programStart
  index := 0
  registers := .zero
  stack := .empty
  delay := 0
  tone := none
  keypad := .released
  display := .dark
  pending := .dark
  redraw := true

instance : Inhabited State := ⟨powerOn default⟩

end State
end Chip8
