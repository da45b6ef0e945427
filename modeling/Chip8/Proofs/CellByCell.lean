import Chip8.Execution
import Chip8.Proofs.Decoding
import Mathlib.Data.List.Nodup
import Mathlib.Data.List.ProdSigma

/-! A sprite is drawn for the whole screen at once, and that is the same as going through its cells one
after the other, in any order. For part of the screen each stage of drawing is a function of that part
alone, and one part after another amounts to both of them at once. -/
namespace Chip8

/-- Reads clamp their address once and for all. -/
theorem Memory.read_min (m : Memory) (address : Nat) :
    m.read (min address lastAddress) = m.read address := by
  simp only [read, Nat.min_assoc, Nat.min_self]

abbrev Cell := Column × Row

namespace Grid

def set (g : Grid) (c : Cell) (lit : Bool) : Grid := ofFn fun x y => if (x, y) = c then lit else g.get x y

def ofList (cells : List Cell) : Grid := ofFn fun x y => cells.contains (x, y)

@[simp] theorem get_set (g : Grid) (c : Cell) (lit : Bool) (x : Column) (y : Row) :
    (g.set c lit).get x y = if (x, y) = c then lit else g.get x y := get_ofFn ..

@[simp] theorem get_ofList (cells : List Cell) (x : Column) (y : Row) :
    (ofList cells).get x y = cells.contains (x, y) := get_ofFn ..

theorem get_ofList_singleton (c : Cell) : (ofList [c]).get c.1 c.2 = true := by
  simp

theorem ofList_nil : ofList [] = dark := ext_get fun x y => by simp

theorem ofList_cons (c : Cell) (rest : List Cell) : ofList (c :: rest) = (ofList [c]).union (ofList rest) :=
  ext_get fun x y => by simp

theorem ofList_perm {cells cells' : List Cell} (order : cells.Perm cells') : ofList cells = ofList cells' :=
  ext_get fun x y => by simp [order.mem_iff]

theorem any_union (g h : Grid) : (g.union h).any = (g.any || h.any) := by
  rw [Bool.eq_iff_iff]
  simp only [Bool.or_eq_true, any_iff, get_union, exists_or]

theorem any_dark : dark.any = false := by
  simp [← Bool.not_eq_true, any_iff]

/-- Only one cell decides about a grid that is dark elsewhere. -/
theorem any_inter_ofList_singleton (c : Cell) (g : Grid) : ((ofList [c]).inter g).any = g.get c.1 c.2 := by
  rw [Bool.eq_iff_iff]
  simp [any_iff, Prod.ext_iff]

/-- A grid that differs from another in one cell at most. -/
theorem eq_ite_set {g h : Grid} {c : Cell} {changes lit : Bool}
    (there : h.get c.1 c.2 = if changes then lit else g.get c.1 c.2)
    (elsewhere : ∀ x y, (x, y) ≠ c → h.get x y = g.get x y) :
    h = if changes then g.set c lit else g := by
  refine ext_get fun x y => ?_
  by_cases here : (x, y) = c
  · subst here
    rw [there]
    cases changes <;> simp
  · rw [elsewhere x y here]
    cases changes <;> simp [here]

end Grid

namespace Registers

/-- Sets the flag in a case, and else leaves it as it is. -/
def raiseFlag (v : Registers) (raised : Bool) : Registers := if raised then v.set Reg.flag 1 else v

theorem set_set (v : Registers) (r : Reg) (b b' : UInt8) : (v.set r b).set r b' = v.set r b' := by
  refine ext_get fun q => ?_
  by_cases here : r = q <;> simp [get_set, here]

theorem raiseFlag_raiseFlag (v : Registers) (first second : Bool) :
    (v.raiseFlag first).raiseFlag second = v.raiseFlag (first || second) := by
  cases first <;> cases second <;> simp [raiseFlag, set_set]

theorem raiseFlag_of_lowered (v : Registers) (raised : Bool) :
    (v.set Reg.flag 0).raiseFlag raised = v.setFlag raised := by
  cases raised
  · rfl
  · exact v.set_set Reg.flag 0 1

end Registers

namespace State

/-- A marked cell goes dark and loses its mark, which asks for a redraw if it is lit. -/
def commitCell (s : State) (c : Cell) : State :=
  if s.pending.get c.1 c.2 then
    { s with
      display := s.display.set c false
      pending := s.pending.set c false
      redraw := s.redraw || s.display.get c.1 c.2 }
  else s

/-- Flips a cell if a bit is set. One that is then dark is left as it is and marked, and one that lights up
asks for a redraw. A lit cell that is struck raises the flag. -/
def flipCell (s : State) (c : Cell) (bit : Bool) : State :=
  let old := s.display.get c.1 c.2
  let new := old ^^ bit
  { s with
    display := if new then s.display.set c true else s.display
    pending := if new then s.pending else s.pending.set c true
    redraw := s.redraw || (!old && new)
    registers := s.registers.raiseFlag (old && bit) }

/-- Switches off the marked cells in a part of the screen. -/
def commitPart (s : State) (part : Grid) : State :=
  { s with
    display := s.display.diff (part.inter s.pending)
    pending := s.pending.diff part
    redraw := s.redraw || (part.inter (s.pending.inter s.display)).any }

/-- Flips the lit cells in a part of the screen, on top of the marks and the flag that there are. -/
def stampPart (s : State) (part bits : Grid) : State :=
  let flipped := s.display.symmDiff bits
  { s with
    display := s.display.union (part.inter flipped)
    pending := s.pending.union (part.diff flipped)
    redraw := s.redraw || (part.inter (bits.diff s.display)).any
    registers := s.registers.raiseFlag (part.inter (s.display.inter bits)).any }

variable {s : State}

theorem commitCell_eq (s : State) (c : Cell) : s.commitCell c = s.commitPart (.ofList [c]) := by
  have display : s.display.diff ((Grid.ofList [c]).inter s.pending) =
      if s.pending.get c.1 c.2 then s.display.set c false else s.display := by
    refine Grid.eq_ite_set ?_ fun x y other => by simp [other]
    rw [Grid.get_diff, Grid.get_inter, Grid.get_ofList_singleton]
    cases s.pending.get c.1 c.2 <;> simp
  have pending : s.pending.diff (.ofList [c]) =
      if s.pending.get c.1 c.2 then s.pending.set c false else s.pending := by
    refine Grid.eq_ite_set ?_ fun x y other => by simp [other]
    rw [Grid.get_diff, Grid.get_ofList_singleton]
    cases s.pending.get c.1 c.2 <;> simp
  simp only [commitCell, commitPart, display, pending, Grid.any_inter_ofList_singleton, Grid.get_inter]
  cases s.pending.get c.1 c.2 <;> simp

theorem commitPart_commitPart (s : State) (part other : Grid) :
    (s.commitPart part).commitPart other = s.commitPart (part.union other) := by
  simp only [commitPart, mk.injEq, true_and, Bool.or_assoc, ← Grid.any_union]
  refine ⟨?_, ?_, congrArg (s.redraw || ·) (congrArg Grid.any ?_)⟩
  all_goals
    refine Grid.ext_get fun x y => ?_
    simp only [Grid.get_diff, Grid.get_inter, Grid.get_union]
    cases part.get x y <;> cases other.get x y <;> cases s.pending.get x y <;> simp

theorem flipCell_eq (s : State) (bits : Grid) (c : Cell) :
    s.flipCell c (bits.get c.1 c.2) = s.stampPart (.ofList [c]) bits := by
  have display : s.display.union ((Grid.ofList [c]).inter (s.display.symmDiff bits)) =
      if s.display.get c.1 c.2 ^^ bits.get c.1 c.2 then s.display.set c true else s.display := by
    refine Grid.eq_ite_set ?_ fun x y other => by simp [other]
    rw [Grid.get_union, Grid.get_inter, Grid.get_ofList_singleton, Grid.get_symmDiff]
    cases s.display.get c.1 c.2 <;> cases bits.get c.1 c.2 <;> rfl
  have pending : s.pending.union ((Grid.ofList [c]).diff (s.display.symmDiff bits)) =
      if !(s.display.get c.1 c.2 ^^ bits.get c.1 c.2) then s.pending.set c true else s.pending := by
    refine Grid.eq_ite_set ?_ fun x y other => by simp [other]
    rw [Grid.get_union, Grid.get_diff, Grid.get_ofList_singleton, Grid.get_symmDiff]
    cases s.display.get c.1 c.2 <;> cases bits.get c.1 c.2 <;> simp
  simp only [flipCell, stampPart, display, pending, Grid.any_inter_ofList_singleton, Grid.get_inter,
    Grid.get_diff]
  cases s.display.get c.1 c.2 <;> cases bits.get c.1 c.2 <;> simp

/-- One part after another that does not overlap it. -/
theorem stampPart_stampPart (s : State) {part other : Grid} (bits : Grid)
    (apart : ∀ x y, part.get x y = true → other.get x y = false) :
    (s.stampPart part bits).stampPart other bits = s.stampPart (part.union other) bits := by
  simp only [stampPart, mk.injEq, true_and, Registers.raiseFlag_raiseFlag, Bool.or_assoc,
    ← Grid.any_union]
  refine ⟨congrArg (s.registers.raiseFlag ·) (congrArg Grid.any ?_), ?_, ?_,
    congrArg (s.redraw || ·) (congrArg Grid.any ?_)⟩
  all_goals
    refine Grid.ext_get fun x y => ?_
    have apart := apart x y
    simp only [Grid.get_union, Grid.get_inter, Grid.get_symmDiff, Grid.get_diff]
    cases here : part.get x y <;> cases there : other.get x y <;> simp_all

theorem commitPart_dark (s : State) : s.commitPart .dark = s := by
  have display : s.display.diff (Grid.dark.inter s.pending) = s.display :=
    Grid.ext_get fun x y => by simp
  have pending : s.pending.diff .dark = s.pending := Grid.ext_get fun x y => by simp
  have quiet : Grid.dark.inter (s.pending.inter s.display) = .dark := Grid.ext_get fun x y => by simp
  simp only [commitPart, display, pending, quiet, Grid.any_dark, Bool.or_false]

theorem stampPart_dark (s : State) (bits : Grid) : s.stampPart .dark bits = s := by
  have display (g : Grid) : s.display.union (Grid.dark.inter g) = s.display :=
    Grid.ext_get fun x y => by simp
  have pending (g : Grid) : s.pending.union (Grid.dark.diff g) = s.pending :=
    Grid.ext_get fun x y => by simp
  have quiet (g : Grid) : (Grid.dark.inter g).any = false := by
    rw [← Grid.any_dark]
    exact congrArg Grid.any (Grid.ext_get fun x y => by simp)
  simp only [stampPart, display, pending, quiet, Bool.or_false]
  rfl

theorem foldl_commitCell (s : State) (cells : List Cell) :
    cells.foldl commitCell s = s.commitPart (.ofList cells) := by
  induction cells generalizing s with
  | nil => rw [Grid.ofList_nil, commitPart_dark, List.foldl_nil]
  | cons c rest ih =>
    rw [List.foldl_cons, ih, commitCell_eq, commitPart_commitPart, ← Grid.ofList_cons]

theorem foldl_flipCell (s : State) (bits : Grid) {cells : List Cell} (distinct : cells.Nodup) :
    cells.foldl (fun t c => t.flipCell c (bits.get c.1 c.2)) s = s.stampPart (.ofList cells) bits := by
  induction cells generalizing s with
  | nil => rw [Grid.ofList_nil, stampPart_dark, List.foldl_nil]
  | cons c rest ih =>
    obtain ⟨fresh, distinct⟩ := List.nodup_cons.1 distinct
    have apart (x : Column) (y : Row) (here : (Grid.ofList [c]).get x y = true) :
        (Grid.ofList rest).get x y = false := by
      obtain rfl : (x, y) = c := by simpa using here
      simpa using fresh
    rw [List.foldl_cons, ih _ distinct, flipCell_eq, stampPart_stampPart _ _ apart, ← Grid.ofList_cons]

/-- Whatever cells are gone through besides, the marked ones are all that counts. -/
theorem foldl_commitCell_of_marked {cells : List Cell}
    (marked : ∀ c, s.pending.get c.1 c.2 = true → c ∈ cells) :
    cells.foldl commitCell s = s.commitPending := by
  have among (x : Column) (y : Row) (mark : s.pending.get x y = true) : (x, y) ∈ cells :=
    marked (x, y) mark
  have part : (Grid.ofList cells).inter s.pending = s.pending :=
    Grid.ext_get fun x y => by simpa using among x y
  have rest : s.pending.diff (.ofList cells) = .dark := Grid.ext_get fun x y => by simpa using among x y
  have struck : (Grid.ofList cells).inter (s.pending.inter s.display) = s.pending.inter s.display :=
    Grid.ext_get fun x y => by simpa using fun mark _ => among x y mark
  rw [foldl_commitCell, commitPart, part, rest, struck, commitPending]

/-- Without marks and with the flag down, stamping an area is stamping that part of the screen. -/
theorem stampPart_eq_stamp {area bits : Grid} (unmarked : s.pending = .dark)
    (inside : ∀ x y, bits.get x y = true → area.get x y = true) :
    (s.setRegister Reg.flag 0).stampPart area bits = s.stamp area bits := by
  have marks (g : Grid) : Grid.union .dark g = g := Grid.ext_get fun x y => by simp
  have lit : area.inter (bits.diff s.display) = bits.diff s.display := by
    refine Grid.ext_get fun x y => ?_
    have inside := inside x y
    cases bit : bits.get x y <;> simp_all
  have struck : area.inter (s.display.inter bits) = s.display.inter bits := by
    refine Grid.ext_get fun x y => ?_
    have inside := inside x y
    cases bit : bits.get x y <;> simp_all
  simp only [stampPart, setRegister, unmarked, marks, lit, struck, Registers.raiseFlag_of_lowered, stamp]

end State

/-- A row and a column of a sprite, counted from its corner. -/
abbrev Place := Nat × Nat

namespace Sprite
variable {s : Sprite} {m : Memory} {place : Place}

def places (s : Sprite) : List Place := List.range s.height ×ˢ List.range 8

/-- Where a place of a sprite lies on the screen, around the edges. -/
def cell (s : Sprite) (place : Place) : Cell :=
  (⟨(s.x.toNat + place.2) % 64, Nat.mod_lt _ (by decide)⟩,
    ⟨(s.y.toNat + place.1) % 32, Nat.mod_lt _ (by decide)⟩)

/-- Each row is a byte, whose highest bit is the first. Rows past the end of memory are its last byte. -/
def bit (s : Sprite) (m : Memory) (place : Place) : Bool :=
  (m.read (min (s.address + place.1) 0xFFF)).toNat.testBit (7 - place.2)

theorem mem_places : place ∈ s.places ↔ place.1 < s.height ∧ place.2 < 8 := by
  rw [places, ← Prod.eta place, List.mem_product, List.mem_range, List.mem_range]

theorem length_places (s : Sprite) : s.places.length = 8 * s.height := by
  rw [places, List.length_product, List.length_range, List.length_range, Nat.mul_comm]

theorem offsets_cell (inside : place ∈ s.places) :
    s.columnOffset (s.cell place).1 = place.2 ∧ s.rowOffset (s.cell place).2 = place.1 := by
  obtain ⟨low, narrow⟩ := mem_places.1 inside
  exact ⟨(columnOffset_eq_iff (by omega)).2 rfl, (rowOffset_eq_iff (by omega)).2 rfl⟩

/-- Different places lie in different cells. -/
theorem nodup_cells (s : Sprite) : (s.places.map s.cell).Nodup := by
  refine List.Nodup.map_on ?_ (List.nodup_range.product List.nodup_range)
  intro place inside other inside' same
  obtain ⟨column, row⟩ := offsets_cell inside
  obtain ⟨column', row'⟩ := offsets_cell inside'
  rw [same] at column row
  exact Prod.ext (row.symm.trans row') (column.symm.trans column')

theorem mem_cells_iff {c : Cell} : c ∈ s.places.map s.cell ↔ s.covers c.1 c.2 = true := by
  rw [covers_iff, List.mem_map]
  constructor
  · rintro ⟨place, inside, rfl⟩
    obtain ⟨low, narrow⟩ := mem_places.1 inside
    exact ⟨place.2, narrow, place.1, low, rfl, rfl⟩
  · rintro ⟨column, narrow, row, low, right, below⟩
    refine ⟨(row, column), mem_places.2 ⟨low, narrow⟩, ?_⟩
    exact Prod.ext (Fin.ext right.symm) (Fin.ext below.symm)

theorem ofList_cells (s : Sprite) : Grid.ofList (s.places.map s.cell) = s.area := by
  refine Grid.ext_get fun x y => ?_
  rw [area, Grid.get_ofFn, Grid.get_ofList, Bool.eq_iff_iff, List.contains_iff_mem, mem_cells_iff]

theorem bits_cell (inside : place ∈ s.places) :
    (s.bits m).get (s.cell place).1 (s.cell place).2 = s.bit m place := by
  obtain ⟨column, row⟩ := offsets_cell inside
  have covered : s.covers (s.cell place).1 (s.cell place).2 = true :=
    mem_cells_iff.1 (List.mem_map_of_mem inside)
  rw [bits, Grid.get_ofFn, lit, covered, column, row, ← m.read_min, Bool.true_and]
  rfl

end Sprite

namespace State

/-- A sprite drawn in turns: the marked cells go dark, the flag goes down, and each place of the sprite
flips its cell. The corner is read before the flag. -/
def drawInTurn (s : State) (x y : Reg) (height : Fin 16) (cells : List Cell) (places : List Place) :
    State :=
  let sprite := s.sprite x y height
  let committed := cells.foldl commitCell s
  places.foldl (fun t place => t.flipCell (sprite.cell place) (sprite.bit s.memory place))
    (committed.setRegister Reg.flag 0)

theorem drawInTurn_eq (s : State) (x y : Reg) (height : Fin 16) {cells : List Cell} {places : List Place}
    (marked : ∀ c, s.pending.get c.1 c.2 = true → c ∈ cells)
    (order : places.Perm (s.sprite x y height).places) :
    s.drawInTurn x y height cells places = s.draw x y height := by
  let sprite := s.sprite x y height
  let bits := sprite.bits s.memory
  have cellwise (t : State) :
      places.foldl (fun t place => t.flipCell (sprite.cell place) (sprite.bit s.memory place)) t =
        (places.map sprite.cell).foldl (fun t c => t.flipCell c (bits.get c.1 c.2)) t := by
    rw [List.foldl_map]
    refine List.foldl_ext _ _ t fun t place among => ?_
    rw [Sprite.bits_cell (order.mem_iff.1 among)]
  have area : Grid.ofList (places.map sprite.cell) = sprite.area :=
    (Grid.ofList_perm (order.map sprite.cell)).trans sprite.ofList_cells
  have distinct : (places.map sprite.cell).Nodup := (order.map sprite.cell).nodup_iff.2 sprite.nodup_cells
  calc s.drawInTurn x y height cells places
      = (places.map sprite.cell).foldl (fun t c => t.flipCell c (bits.get c.1 c.2))
          (s.commitPending.setRegister Reg.flag 0) := by
        rw [← cellwise, ← foldl_commitCell_of_marked marked]
        rfl
    _ = (s.commitPending.setRegister Reg.flag 0).stampPart sprite.area bits := by
        rw [foldl_flipCell _ bits distinct, area]
    _ = s.draw x y height := stampPart_eq_stamp rfl fun _ _ => Sprite.area_of_bits

section Draw
variable {s : State} {x y : Reg} {height : Fin 16}

theorem draw_outside {c : Cell} (outside : (s.sprite x y height).covers c.1 c.2 = false) :
    (s.draw x y height).display.get c.1 c.2 = (s.display.get c.1 c.2 && !s.pending.get c.1 c.2) ∧
      (s.draw x y height).pending.get c.1 c.2 = false := by
  simp [draw, stamp, commitPending, Sprite.area, outside]

theorem registers_draw {r : Reg} (other : r ≠ Reg.flag) :
    (s.draw x y height).registers.get r = s.registers.get r :=
  s.registers.get_set_ne _ other.symm

theorem draw_elsewhere (s : State) (x y : Reg) (height : Fin 16) :
    { s.draw x y height with
      display := s.display, pending := s.pending, redraw := s.redraw, registers := s.registers } = s := by
  simp only [draw, stamp, commitPending]

end Draw

end State

end Chip8
