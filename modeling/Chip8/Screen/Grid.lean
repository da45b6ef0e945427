/-! A grid of 64 by 32 cells that are lit or dark. -/
namespace Chip8

abbrev Column := Fin 64
abbrev Row := Fin 32

structure Grid where
  rows : Vector (Vector Bool 64) 32
deriving DecidableEq

namespace Grid

def get (g : Grid) (x : Column) (y : Row) : Bool := g.rows[y][x]

def ofFn (f : Column → Row → Bool) : Grid := ⟨.ofFn fun y => .ofFn fun x => f x y⟩

def dark : Grid := ⟨.replicate 32 (.replicate 64 false)⟩

instance : Inhabited Grid := ⟨dark⟩

def any (g : Grid) : Bool := g.rows.any (·.any id)

def union (g h : Grid) : Grid := ofFn fun x y => g.get x y || h.get x y

def inter (g h : Grid) : Grid := ofFn fun x y => g.get x y && h.get x y

def diff (g h : Grid) : Grid := ofFn fun x y => g.get x y && !h.get x y

def symmDiff (g h : Grid) : Grid := ofFn fun x y => g.get x y ^^ h.get x y

@[simp] theorem get_ofFn (f : Column → Row → Bool) (x : Column) (y : Row) :
    (ofFn f).get x y = f x y := by
  simp [get, ofFn]

@[simp] theorem get_dark (x : Column) (y : Row) : dark.get x y = false := by
  simp [get, dark]

@[simp] theorem get_union (g h : Grid) (x : Column) (y : Row) :
    (g.union h).get x y = (g.get x y || h.get x y) := get_ofFn ..

@[simp] theorem get_inter (g h : Grid) (x : Column) (y : Row) :
    (g.inter h).get x y = (g.get x y && h.get x y) := get_ofFn ..

@[simp] theorem get_diff (g h : Grid) (x : Column) (y : Row) :
    (g.diff h).get x y = (g.get x y && !h.get x y) := get_ofFn ..

@[simp] theorem get_symmDiff (g h : Grid) (x : Column) (y : Row) :
    (g.symmDiff h).get x y = (g.get x y ^^ h.get x y) := get_ofFn ..

theorem ext_get {g h : Grid} (same : ∀ x y, g.get x y = h.get x y) : g = h := by
  obtain ⟨g⟩ := g
  obtain ⟨h⟩ := h
  exact congrArg Grid.mk (Vector.ext fun y hy => Vector.ext fun x hx => same ⟨x, hx⟩ ⟨y, hy⟩)

theorem any_iff {g : Grid} : g.any = true ↔ ∃ x y, g.get x y = true := by
  simp only [any, Vector.any_eq_true, get, id]
  constructor
  · rintro ⟨y, hy, x, hx, lit⟩
    exact ⟨⟨x, hx⟩, ⟨y, hy⟩, lit⟩
  · rintro ⟨x, y, lit⟩
    exact ⟨y, y.isLt, x, x.isLt, lit⟩

end Grid
end Chip8
