import Chip8.Picture.Color
import Chip8.Room
import Chip8.Screen.Grid
import Chip8.SignedWord

/-! Pictures of the screen: each cell becomes a square block of pixels. -/
namespace Chip8

/-- Rows of pixels from top to bottom, each from left to right. -/
structure Picture where
  rows : Array (Array Color)
deriving DecidableEq, Inhabited

namespace Picture

/-- Each element repeated `n` times in place. -/
def stretch {α : Type} (n : Nat) (xs : List α) : Array α :=
  xs.foldl (fun out x => out ++ Array.replicate n x) #[]

theorem toList_stretch {α : Type} (n : Nat) (xs : List α) :
    (stretch n xs).toList = xs.flatMap (List.replicate n) := by
  suffices h : ∀ out : Array α,
      (xs.foldl (fun out x => out ++ Array.replicate n x) out).toList =
        out.toList ++ xs.flatMap (List.replicate n) by
    simpa [stretch] using h #[]
  induction xs with
  | nil => simp
  | cons x rest ih =>
    intro out
    simp only [List.foldl_cons, ih, Array.toList_append, Array.toList_replicate, List.flatMap_cons,
      List.append_assoc]

@[simp] theorem size_stretch {α : Type} (n : Nat) (xs : List α) :
    (stretch n xs).size = xs.length * n := by
  rw [← Array.length_toList, toList_stretch]
  induction xs with
  | nil => simp
  | cons x rest ih =>
    simp only [List.flatMap_cons, List.length_append, List.length_replicate, List.length_cons, ih,
      Nat.succ_mul, Nat.add_comm]

def row (g : Grid) (p : Palette) (scale : Nat) (y : Row) : Array Color :=
  stretch scale ((List.finRange 64).map fun x => p.color (g.get x y))

def ofGrid (g : Grid) (p : Palette) (scale : Nat) : Picture :=
  ⟨stretch scale ((List.finRange 32).map (row g p scale))⟩

def height (p : Picture) : Nat := p.rows.size

def width (p : Picture) : Nat := (p.rows.getD 0 #[]).size

/-- Pictures have at least one pixel per cell. -/
def checkScale (scale : Int) : Except Error Nat :=
  if scale < 1 then .error (.scaleNotPositive scale) else .ok scale.toNat

def render (g : Grid) (p : Palette) (scale : Int) : Except Error Picture := do
  return ofGrid g p (← checkScale scale)

def checkRoom (room : Room) (scale : Nat) : Except Error Unit :=
  if !fitsWord64 scale then .error .wordOutOfRange
  else if !room.picture scale then .error .outOfMemory
  else .ok ()

/-- The same on a host that may lack the memory. -/
def renderInMemory (room : Room) (g : Grid) (p : Palette) (scale : Int) : Except Error Picture := do
  checkRoom room (← checkScale scale)
  render g p scale

end Picture

/-- Something to be shown: a screen, or a dark array that may have the wrong shape. -/
inductive Subject where
  | screen (g : Grid)
  | blank (shape : List Nat)

/-- The shape that can be shown: columns, then rows. -/
def Subject.grid : Subject → Except Error Grid
  | screen g => .ok g
  | blank shape => if shape = [64, 32] then .ok .dark else .error (.displayShape shape)

/-- Red, green and blue of a color that may be out of range. -/
structure Components where
  red : Int
  green : Int
  blue : Int

def Components.color (c : Components) : Except Error Color :=
  Color.ofInts c.red c.green c.blue

namespace Subject

/-- What is drawn, in which colors and how large. Both colors must be in range even if only one is
used. -/
def plan (s : Subject) (scale : Int) (lit dark : Components) :
    Except Error (Grid × Palette × Nat) := do
  let g ← s.grid
  let scale ← Picture.checkScale scale
  return (g, ⟨← lit.color, ← dark.color⟩, scale)

def render (s : Subject) (scale : Int) (lit dark : Components) : Except Error Picture := do
  let (g, p, scale) ← s.plan scale lit dark
  return .ofGrid g p scale

/-- The same on a host that may lack the memory. -/
def renderInMemory (room : Room) (s : Subject) (scale : Int) (lit dark : Components) :
    Except Error Picture := do
  let (_, _, pixels) ← s.plan scale lit dark
  Picture.checkRoom room pixels
  s.render scale lit dark

end Subject

end Chip8
