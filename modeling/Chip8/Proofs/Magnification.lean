import Chip8.Host.Window

/-! Pictures of the screen, pixel by pixel. A picture has rows of pixels and a surface columns, while a grid
is read by column and row. In both, the pixel at a place shows the cell that the place divided by the scale
falls into, so a picture in two colors shows every cell and no two screens have the same picture. -/
namespace Chip8

namespace Color

def components (c : Color) : Components := ⟨c.red.toNat, c.green.toNat, c.blue.toNat⟩

end Color

namespace Components

structure InRange (c : Components) : Prop where
  red : 0 ≤ c.red ∧ c.red < 256
  green : 0 ≤ c.green ∧ c.green < 256
  blue : 0 ≤ c.blue ∧ c.blue < 256

theorem component?_of_inRange {v : Int} (inRange : 0 ≤ v ∧ v < 256) :
    Color.component? v = .ok (UInt8.ofNat v.toNat) ∧ ((UInt8.ofNat v.toNat).toNat : Int) = v := by
  refine ⟨if_pos inRange, ?_⟩
  rw [UInt8.toNat_ofNat']
  omega

/-- Components in range are those of a color. -/
theorem color_of_inRange {c : Components} (inRange : c.InRange) :
    ∃ color : Color, c.color = .ok color ∧ color.components = c := by
  obtain ⟨red, red'⟩ := component?_of_inRange inRange.red
  obtain ⟨green, green'⟩ := component?_of_inRange inRange.green
  obtain ⟨blue, blue'⟩ := component?_of_inRange inRange.blue
  refine ⟨⟨.ofNat c.red.toNat, .ofNat c.green.toNat, .ofNat c.blue.toNat⟩, ?_, ?_⟩
  · rw [color, Color.ofInts, red, green, blue]
    rfl
  · rw [Color.components, red', green', blue']

end Components

namespace Picture

/-- The color at a row and a column. -/
def pixel? (p : Picture) (row column : Nat) : Option Color := p.rows[row]?.bind (·[column]?)

/-- The grid that is lit where a picture has a color, found at one pixel of each block. -/
def sampled (p : Picture) (color : Color) (scale : Nat) (pick : Column → Row → Nat × Nat) : Grid :=
  .ofFn fun x y => p.pixel? (y * scale + (pick x y).2) (x * scale + (pick x y).1) == some color

theorem getElem?_flatMap_replicate {α : Type} {n : Nat} (positive : 0 < n) (xs : List α) (i : Nat) :
    (xs.flatMap (List.replicate n))[i]? = xs[i / n]? := by
  induction xs generalizing i with
  | nil => simp
  | cons x rest ih =>
    rw [List.flatMap_cons]
    by_cases here : i < n
    · rw [List.getElem?_append_left (by rwa [List.length_replicate]), List.getElem?_replicate,
        if_pos here, Nat.div_eq_of_lt here, List.getElem?_cons_zero]
    · have later : n ≤ i := Nat.le_of_not_lt here
      rw [List.getElem?_append_right (by rwa [List.length_replicate]), List.length_replicate, ih,
        Nat.div_eq_sub_div positive later, List.getElem?_cons_succ]

theorem getElem?_stretch {α : Type} {n : Nat} (positive : 0 < n) (xs : List α) (i : Nat) :
    (stretch n xs)[i]? = xs[i / n]? := by
  rw [← Array.getElem?_toList, toList_stretch, getElem?_flatMap_replicate positive]

section Grids
variable (g : Grid) (p : Palette) {scale : Nat}

theorem size_row (y : Row) : (row g p scale y).size = 64 * scale := by
  rw [row, size_stretch, List.length_map, List.length_finRange]

theorem height_ofGrid : (ofGrid g p scale).rows.size = 32 * scale := by
  rw [ofGrid, size_stretch, List.length_map, List.length_finRange]

theorem width_ofGrid (positive : 0 < scale) : (ofGrid g p scale).width = 64 * scale := by
  have first : (ofGrid g p scale).rows[0]? = some (row g p scale 0) := by
    rw [ofGrid, getElem?_stretch positive, Nat.zero_div]
    rfl
  rw [width, Array.getD_eq_getD_getElem?, first, Option.getD_some, size_row]

theorem size_of_mem_rows {r : Array Color} (among : r ∈ (ofGrid g p scale).rows) :
    r.size = 64 * scale := by
  rw [← Array.mem_toList_iff, ofGrid, toList_stretch] at among
  obtain ⟨_, row, copies⟩ := List.mem_flatMap.1 among
  obtain ⟨y, _, rfl⟩ := List.mem_map.1 row
  rw [List.eq_of_mem_replicate copies, size_row]

theorem pixel?_ofGrid (positive : 0 < scale) {i j : Nat} (x : i / scale < 64) (y : j / scale < 32) :
    (ofGrid g p scale).pixel? j i = some (p.color (g.get ⟨i / scale, x⟩ ⟨j / scale, y⟩)) := by
  have column : (List.finRange 64)[i / scale]? = some ⟨i / scale, x⟩ := by simp [x]
  have here : (List.finRange 32)[j / scale]? = some ⟨j / scale, y⟩ := by simp [y]
  simp only [pixel?, ofGrid, row, getElem?_stretch positive, List.getElem?_map, here, column,
    Option.map_some, Option.bind_some]

variable {g p}

theorem block_of_offset {n offset : Nat} (within : offset < scale) : (n * scale + offset) / scale = n := by
  rw [Nat.mul_comm, Nat.mul_add_div (Nat.zero_lt_of_lt within), Nat.div_eq_of_lt within, Nat.add_zero]

/-- One pixel of each block is enough to tell which cells are lit. -/
theorem sampled_ofGrid (different : p.lit ≠ p.dark) {pick : Column → Row → Nat × Nat}
    (within : ∀ x y, (pick x y).1 < scale ∧ (pick x y).2 < scale) :
    (ofGrid g p scale).sampled p.lit scale pick = g := by
  refine Grid.ext_get fun x y => ?_
  obtain ⟨across, down⟩ := within x y
  have column : (x * scale + (pick x y).1) / scale = x := block_of_offset across
  have row : (y * scale + (pick x y).2) / scale = y := block_of_offset down
  rw [sampled, Grid.get_ofFn, pixel?_ofGrid g p (Nat.zero_lt_of_lt across)
    (lt_of_eq_of_lt column x.isLt) (lt_of_eq_of_lt row y.isLt)]
  simp only [column, row, Palette.color]
  cases g.get x y with
  | true => simp
  | false => simpa using different.symm

end Grids
end Picture

namespace Surface

/-- The color at a column and a row. -/
def pixel? (s : Surface) (column row : Nat) : Option Color := s.columns[column]?.bind (·[row]?)

variable {p : Picture}

theorem size_of_mem_columns {column : Array Color} (among : column ∈ (ofPicture p).columns) :
    column.size = p.height := by
  obtain ⟨_, rfl⟩ := Array.mem_ofFn.1 among
  exact Array.size_map

/-- A surface is its picture with columns and rows exchanged. -/
theorem pixel?_ofPicture (rectangle : ∀ row ∈ p.rows, row.size = p.width) (i j : Nat) :
    (ofPicture p).pixel? i j = p.pixel? j i := by
  rw [pixel?, Picture.pixel?, ofPicture, Array.getElem?_ofFn]
  cases found : p.rows[j]? with
  | none => split <;> simp [found]
  | some row =>
    have size := rectangle row (Array.mem_of_getElem? found)
    split
    · next inside => simp [found, size, inside]
    · next outside => simp [size, Nat.le_of_not_lt outside]

theorem pixel?_of_same_surface {q : Picture} (rectangle : ∀ row ∈ p.rows, row.size = p.width)
    (rectangle' : ∀ row ∈ q.rows, row.size = q.width) (same : ofPicture p = ofPicture q) (j i : Nat) :
    p.pixel? j i = q.pixel? j i := by
  rw [← pixel?_ofPicture rectangle, same, pixel?_ofPicture rectangle']

end Surface

section Rendering
variable (g : Grid) {scale : Int} {lit dark : Components} {on off : Color}

theorem Picture.checkScale_of_least (least : 1 ≤ scale) : checkScale scale = .ok scale.toNat :=
  if_neg (Int.not_lt.2 least)

theorem Picture.render_of_least (p : Palette) (least : 1 ≤ scale) :
    render g p scale = .ok (ofGrid g p scale.toNat) := by
  rw [render, checkScale_of_least least]
  rfl

/-- The room for a picture decides whether there is one, and not what it shows. -/
theorem Picture.renderInMemory_of_least (room : Room) (p : Palette) (least : 1 ≤ scale) :
    renderInMemory room g p scale = (checkRoom room scale.toNat).map fun _ => ofGrid g p scale.toNat := by
  have checked (next : Nat → Except Error Picture) :
      (Except.ok scale.toNat >>= next) = next scale.toNat := rfl
  rw [renderInMemory, render_of_least g p least, checkScale_of_least least, checked]
  cases checkRoom room scale.toNat <;> rfl

theorem Subject.render_screen (least : 1 ≤ scale) (litColor : lit.color = .ok on)
    (darkColor : dark.color = .ok off) :
    (Subject.screen g).render scale lit dark = .ok (.ofGrid g ⟨on, off⟩ scale.toNat) := by
  rw [render, plan, Picture.checkScale_of_least least, litColor, darkColor]
  rfl

theorem Subject.renderInMemory_screen (room : Room) (least : 1 ≤ scale)
    (litColor : lit.color = .ok on) (darkColor : dark.color = .ok off) :
    (Subject.screen g).renderInMemory room scale lit dark =
      (Picture.checkRoom room scale.toNat).map fun _ => .ofGrid g ⟨on, off⟩ scale.toNat := by
  have planned (next : Grid × Palette × Nat → Except Error Picture) :
      ((Subject.screen g).plan scale lit dark >>= next) = next (g, ⟨on, off⟩, scale.toNat) := by
    rw [plan, Picture.checkScale_of_least least, litColor, darkColor]
    rfl
  rw [renderInMemory, planned, render_screen g least litColor darkColor]
  dsimp only
  cases Picture.checkRoom room scale.toNat <;> rfl

theorem Window.present_frame {τ : Type} (w : Window τ) (least : 1 ≤ w.scale) :
    w.present (.frame g) = (Picture.checkRoom w.room w.scale.toNat).map fun _ =>
      [.screen (.ofPicture (.ofGrid g w.palette w.scale.toNat))] := by
  rw [present, Picture.renderInMemory_of_least g w.room w.palette least]
  cases Picture.checkRoom w.room w.scale.toNat <;> rfl

/-- Every cell of a screen becomes a square block of pixels in its color, with columns and rows in their
places, in the picture as on the surface that a window shows. From two different colors the screen can be
read back at any pixel of each block, so different screens look different. -/
theorem magnification_is_faithful (least : 1 ≤ scale) (litInRange : lit.InRange)
    (darkInRange : dark.InRange) :
    let s := scale.toNat
    ∃ (on off : Color) (p : Picture), on.components = lit ∧ off.components = dark ∧
      (Subject.screen g).render scale lit dark = .ok p ∧
      (∀ room, (Subject.screen g).renderInMemory room scale lit dark =
        (Picture.checkRoom room s).map fun _ => p) ∧
      p.rows.size = 32 * s ∧ (∀ row ∈ p.rows, row.size = 64 * s) ∧
      (∀ i j (x : i / s < 64) (y : j / s < 32),
        p.pixel? j i = some (if g.get ⟨i / s, x⟩ ⟨j / s, y⟩ then on else off)) ∧
      (∀ {τ : Type} (w : Window τ), w.scale = scale → w.palette = ⟨on, off⟩ →
        w.present (.frame g) = (Picture.checkRoom w.room s).map fun _ => [.screen (.ofPicture p)]) ∧
      (Surface.ofPicture p).columns.size = 64 * s ∧
      (∀ column ∈ (Surface.ofPicture p).columns, column.size = 32 * s) ∧
      (∀ i j, (Surface.ofPicture p).pixel? i j = p.pixel? j i) ∧
      (lit ≠ dark →
        (∀ pick, (∀ x y, (pick x y).1 < s ∧ (pick x y).2 < s) → p.sampled on s pick = g) ∧
        ∀ h q, (Subject.screen h).render scale lit dark = .ok q →
          q = p ∨ Surface.ofPicture q = Surface.ofPicture p → h = g) := by
  intro s
  obtain ⟨on, litColor, rfl⟩ := Components.color_of_inRange litInRange
  obtain ⟨off, darkColor, rfl⟩ := Components.color_of_inRange darkInRange
  have positive : 0 < s := Int.lt_toNat.2 least
  have rendered (h : Grid) := Subject.render_screen h least litColor darkColor
  have rectangle (h : Grid) : ∀ row ∈ (Picture.ofGrid h ⟨on, off⟩ s).rows,
      row.size = (Picture.ofGrid h ⟨on, off⟩ s).width := fun row among => by
    rw [Picture.width_ofGrid _ _ positive, Picture.size_of_mem_rows _ _ among]
  refine ⟨on, off, .ofGrid g ⟨on, off⟩ s, rfl, rfl, rendered g,
    fun room => Subject.renderInMemory_screen g room least litColor darkColor, Picture.height_ofGrid _ _,
    fun _ => Picture.size_of_mem_rows _ _, fun i j x y => Picture.pixel?_ofGrid _ _ positive x y,
    ?_, ?_, ?_, Surface.pixel?_ofPicture (rectangle g), ?_⟩
  · rintro τ w rfl palette
    rw [w.present_frame g least, palette]
  · rw [Surface.ofPicture, Array.size_ofFn, Picture.width_ofGrid _ _ positive]
  · intro column among
    rw [Surface.size_of_mem_columns among, Picture.height, Picture.height_ofGrid]
  · intro different
    have different : on ≠ off := fun same => different (congrArg _ same)
    refine ⟨fun pick => Picture.sampled_ofGrid different, fun h q shown same => ?_⟩
    obtain rfl : Picture.ofGrid h ⟨on, off⟩ s = q := Except.ok.inj ((rendered h).symm.trans shown)
    have same : Surface.ofPicture (.ofGrid h ⟨on, off⟩ s) = .ofPicture (.ofGrid g ⟨on, off⟩ s) :=
      same.elim (congrArg _) id
    let corner : Column → Row → Nat × Nat := fun _ _ => (0, 0)
    have within : ∀ x y, (corner x y).1 < s ∧ (corner x y).2 < s := fun _ _ => ⟨positive, positive⟩
    have pixels := Surface.pixel?_of_same_surface (rectangle h) (rectangle g) same
    calc h = (Picture.ofGrid h ⟨on, off⟩ s).sampled on s corner :=
          (Picture.sampled_ofGrid (p := ⟨on, off⟩) different within).symm
      _ = (Picture.ofGrid g ⟨on, off⟩ s).sampled on s corner := by simp only [Picture.sampled, pixels]
      _ = g := Picture.sampled_ofGrid (p := ⟨on, off⟩) different within

/-- At three pixels a cell, the only lit cell, in the sixth column and third row, is at column 17 and row 7,
and on the surface at the same place, but not at column 7 and row 17. -/
theorem magnification_is_faithful_amber :
    let g := Grid.ofFn fun x y => x == 5 && y == 2
    let lit : Components := ⟨255, 176, 0⟩
    let dark : Components := ⟨0, 0, 0⟩
    (1 : Int) ≤ 3 ∧ lit.InRange ∧ dark.InRange ∧
      ∃ p, (Subject.screen g).render 3 lit dark = .ok p ∧
        (p.pixel? 7 17).map Color.components = some lit ∧
        (p.pixel? 17 7).map Color.components = some dark ∧
        ((Surface.ofPicture p).pixel? 17 7).map Color.components = some lit := by
  intro g lit dark
  have litInRange : lit.InRange := ⟨by decide, by decide, by decide⟩
  have darkInRange : dark.InRange := ⟨by decide, by decide, by decide⟩
  obtain ⟨on, off, p, onLit, offDark, rendered, _, _, _, pixels, _, _, _, surface, _⟩ :=
    magnification_is_faithful g (by decide : (1 : Int) ≤ 3) litInRange darkInRange
  have inside : p.pixel? 7 17 = some on :=
    (pixels 17 7 (by decide) (by decide)).trans (congrArg some (if_pos (by decide +kernel)))
  have outside : p.pixel? 17 7 = some off :=
    (pixels 7 17 (by decide) (by decide)).trans (congrArg some (if_neg (by decide +kernel)))
  refine ⟨by decide, litInRange, darkInRange, p, rendered, ?_, ?_, ?_⟩
  · rw [inside, Option.map_some, onLit]
  · rw [outside, Option.map_some, offDark]
  · rw [surface, inside, Option.map_some, onLit]

end Rendering
end Chip8
