import Chip8.Memory
import Chip8.Screen.Grid

/-! Where a sprite lies on the screen and which of its cells are lit. Sprites are eight cells
wide and wrap around all edges. -/
namespace Chip8

structure Sprite where
  x : UInt8
  y : UInt8
  height : Fin 16
  /-- Address of the top row of cells. -/
  address : Nat
deriving DecidableEq

namespace Sprite

def width : Nat := 8

/-- Distance to the right of the sprite's first column, around the screen. -/
def columnOffset (s : Sprite) (x : Column) : Nat := (x + 64 - s.x.toNat % 64) % 64

/-- Distance below the sprite's first row, around the screen. -/
def rowOffset (s : Sprite) (y : Row) : Nat := (y + 32 - s.y.toNat % 32) % 32

def covers (s : Sprite) (x : Column) (y : Row) : Bool :=
  s.columnOffset x < width && s.rowOffset y < s.height

/-- Bytes hold a row of cells with the leftmost in the highest bit. -/
def lit (s : Sprite) (m : Memory) (x : Column) (y : Row) : Bool :=
  s.covers x y && (m.read (s.address + s.rowOffset y)).toNat.testBit (width - 1 - s.columnOffset x)

def area (s : Sprite) : Grid := .ofFn s.covers

def bits (s : Sprite) (m : Memory) : Grid := .ofFn (s.lit m)

theorem columnOffset_eq_iff {s : Sprite} {x : Column} {column : Nat} (within : column < 64) :
    s.columnOffset x = column ↔ x.val = (s.x.toNat + column) % 64 := by
  have right : x.val < 64 := x.isLt
  unfold columnOffset
  omega

theorem rowOffset_eq_iff {s : Sprite} {y : Row} {row : Nat} (within : row < 32) :
    s.rowOffset y = row ↔ y.val = (s.y.toNat + row) % 32 := by
  have bottom : y.val < 32 := y.isLt
  unfold rowOffset
  omega

/-- A sprite covers what lies right of and below its corner, around the edges. -/
theorem covers_iff {s : Sprite} {x : Column} {y : Row} :
    s.covers x y = true ↔ ∃ column < width, ∃ row < s.height.val,
      x.val = (s.x.toNat + column) % 64 ∧ y.val = (s.y.toNat + row) % 32 := by
  have narrow {column : Nat} (inside : column < width) : column < 64 :=
    Nat.lt_trans inside (by decide)
  have low {row : Nat} (inside : row < s.height.val) : row < 32 := by omega
  rw [covers, Bool.and_eq_true, decide_eq_true_iff, decide_eq_true_iff]
  constructor
  · rintro ⟨across, down⟩
    exact ⟨_, across, _, down, (columnOffset_eq_iff (narrow across)).1 rfl,
      (rowOffset_eq_iff (low down)).1 rfl⟩
  · rintro ⟨column, across, row, down, right, below⟩
    rw [(columnOffset_eq_iff (narrow across)).2 right, (rowOffset_eq_iff (low down)).2 below]
    exact ⟨across, down⟩

/-- Lit cells lie inside the area. -/
theorem area_of_bits {s : Sprite} {m : Memory} {x : Column} {y : Row}
    (lit : (s.bits m).get x y = true) : s.area.get x y = true := by
  simp only [bits, area, Grid.get_ofFn, Sprite.lit, Bool.and_eq_true] at lit ⊢
  exact lit.1

end Sprite
end Chip8
