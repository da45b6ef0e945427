import Chip8.Error

/-! Colors, and the named pairs of them that a screen can be shown in. -/
namespace Chip8

structure Color where
  red : UInt8
  green : UInt8
  blue : UInt8
deriving DecidableEq, Repr, Inhabited

namespace Color

def black : Color := ⟨0, 0, 0⟩

def component? (v : Int) : Except Error UInt8 :=
  if 0 ≤ v ∧ v < 256 then .ok (UInt8.ofNat v.toNat) else .error .colorOutOfRange

def ofInts (red green blue : Int) : Except Error Color := do
  return ⟨← component? red, ← component? green, ← component? blue⟩

end Color

structure Palette where
  lit : Color
  dark : Color
deriving DecidableEq, Repr, Inhabited

namespace Palette

def schemes : List (String × Palette) :=
  [("classic", ⟨⟨0, 100, 0⟩, .black⟩),
   ("green", ⟨⟨0, 255, 0⟩, .black⟩),
   ("amber", ⟨⟨255, 176, 0⟩, .black⟩),
   ("white", ⟨⟨255, 255, 255⟩, .black⟩),
   ("blue", ⟨⟨0, 255, 255⟩, ⟨0, 0, 64⟩⟩),
   ("retro", ⟨⟨255, 255, 0⟩, ⟨64, 0, 64⟩⟩)]

def ofName (name : String) : Except Error Palette :=
  match schemes.lookup name with
  | some p => .ok p
  | none => .error (.unknownScheme name (schemes.map (·.1)))

def color (p : Palette) (lit : Bool) : Color := if lit then p.lit else p.dark

end Palette
end Chip8
