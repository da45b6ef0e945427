/-! The hexadecimal keypad. -/
namespace Chip8

abbrev Key := Fin 16

structure Keypad where
  held : Vector Bool 16
deriving DecidableEq

namespace Keypad

def released : Keypad := ⟨.replicate 16 false⟩

instance : Inhabited Keypad := ⟨released⟩

def isHeld (k : Keypad) (key : Key) : Bool := k.held[key]

def set (k : Keypad) (key : Key) (down : Bool) : Keypad := ⟨k.held.set key down⟩

/-- Whether the key with a given code is held; codes above the last key never are. -/
def holdsCode (k : Keypad) (code : UInt8) : Bool :=
  if h : code.toNat < 16 then k.isHeld ⟨code.toNat, h⟩ else false

def heldKeys (k : Keypad) : List Key := (List.finRange 16).filter k.isHeld

def lowest? (k : Keypad) : Option Key := (List.finRange 16).find? k.isHeld

theorem isHeld_set (k : Keypad) (key other : Key) (down : Bool) :
    (k.set key down).isHeld other = if key = other then down else k.isHeld other := by
  simp [isHeld, set, Vector.getElem_set, Fin.ext_iff]

@[simp] theorem isHeld_released (key : Key) : released.isHeld key = false := by
  simp [isHeld, released]

theorem ext_isHeld {k l : Keypad} (same : ∀ key, k.isHeld key = l.isHeld key) : k = l := by
  obtain ⟨k⟩ := k
  obtain ⟨l⟩ := l
  exact congrArg Keypad.mk (Vector.ext fun i hi => same ⟨i, hi⟩)

/-- A key that is put where it is. -/
theorem set_eq_self {k : Keypad} {key : Key} {down : Bool} (already : k.isHeld key = down) :
    k.set key down = k := by
  refine ext_isHeld fun other => ?_
  rw [isHeld_set]
  split
  · next same => rw [← same, already]
  · rfl

theorem lowest?_eq_none_iff {k : Keypad} : k.lowest? = none ↔ ∀ key, k.isHeld key = false := by
  simp [lowest?]

end Keypad
end Chip8
