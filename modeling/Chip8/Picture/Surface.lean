import Chip8.Picture.Basic

/-! A picture as a window takes it, by columns. -/
namespace Chip8

/-- Columns of pixels from left to right, each from top to bottom. -/
structure Surface where
  columns : Array (Array Color)
deriving DecidableEq, Inhabited

namespace Surface

def ofPicture (p : Picture) : Surface :=
  ⟨.ofFn fun x : Fin p.width => p.rows.map fun row => row.getD x default⟩

def toPicture (s : Surface) : Picture :=
  ⟨.ofFn fun y : Fin (s.columns.getD 0 #[]).size =>
    s.columns.map fun column => column.getD y default⟩

end Surface
end Chip8
