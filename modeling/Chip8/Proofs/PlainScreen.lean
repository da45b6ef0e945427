import Chip8.Admission
import Chip8.Proofs.Footprint

/-! An engine whose screen is a single grid, on which sprites flip cells at once. It is the engine
with deferred erasing as programs see it: the cells that are lit and not marked are the grid, and
everything else agrees after every sequence of calls. -/
namespace Chip8

structure PlainState where
  random : Random
  memory : Memory
  pc : UInt16
  index : UInt16
  registers : Registers
  stack : CallStack
  delay : UInt8
  tone : Option Int
  keypad : Keypad
  screen : Grid

/-- The lit cells without those that are marked to go dark. -/
def State.screen (s : State) : Grid := s.display.diff s.pending

def State.plain (s : State) : PlainState where
  random := s.random
  memory := s.memory
  pc := s.pc
  index := s.index
  registers := s.registers
  stack := s.stack
  delay := s.delay
  tone := s.tone
  keypad := s.keypad
  screen := s.screen

namespace PlainState

/-- What the instructions that do not concern the screen run on: they find it dark. -/
def offscreen (p : PlainState) : State where
  random := p.random
  memory := p.memory
  pc := p.pc
  index := p.index
  registers := p.registers
  stack := p.stack
  delay := p.delay
  tone := p.tone
  keypad := p.keypad
  display := .dark
  pending := .dark
  redraw := false

/-- Flips the lit cells of a sprite, and the flag tells whether there was one on a lit cell. -/
def draw (p : PlainState) (x y : Reg) (height : Fin 16) : PlainState :=
  let sprite : Sprite := ⟨p.registers.get x, p.registers.get y, height, p.index.toNat⟩
  let bits := sprite.bits p.memory
  { p with
    screen := p.screen.symmDiff bits
    registers := p.registers.setFlag (p.screen.inter bits).any }

def execute (p : PlainState) : Instruction → PlainState
  | .clear => { p with screen := .dark }
  | .draw x y height => p.draw x y height
  | i => { (p.offscreen.execute i).plain with screen := p.screen }

def word (p : PlainState) : UInt16 := p.memory.readWord p.pc.toNat (p.pc + 1).toNat

def cycle (p : PlainState) : PlainState :=
  { p with pc := p.pc + 2 }.execute (.ofInt p.word.toNat)

end PlainState

/-- Calls that a host makes on an engine. -/
inductive Call where
  | cycle
  | tick
  | clearTone
  | load (program : List UInt8)
  | keys (change : Keypad → Keypad)

/-- A program that does not fit is not loaded. -/
def State.take (s : State) : Call → State
  | .cycle => s.cycle
  | .tick => s.tick
  | .clearTone => s.clearTone
  | .load program =>
      match s.load program with
      | .ok t => t
      | .error _ => s
  | .keys change => { s with keypad := change s.keypad }

def PlainState.take (p : PlainState) : Call → PlainState
  | .cycle => p.cycle
  | .tick => { p with delay := if p.delay > 0 then p.delay - 1 else p.delay }
  | .clearTone => { p with tone := none }
  | .load program =>
      if program.length ≤ maxProgramSize then
        { p with memory := p.memory.writeBlock programStart program }
      else p
  | .keys change => { p with keypad := change p.keypad }

namespace State
variable {s t : State}

theorem plain_eq_of_same (same : ∀ p ∉ Part.picture, s.Same t p) :
    s.plain = { t.plain with screen := s.screen } := by
  simp only [plain, PlainState.mk.injEq, and_true]
  exact ⟨same .random (by decide), same .memory (by decide), same .pc (by decide),
    same .index (by decide), same .registers (by decide), same .stack (by decide),
    same .delay (by decide), same .tone (by decide), same .keypad (by decide)⟩

theorem same_offscreen (s : State) {p : Part} (visible : p ∉ Part.picture) :
    s.Same s.plain.offscreen p := by
  cases p <;> first | rfl | exact absurd (by decide) visible

end State

/-- Instructions that touch no part of the picture run as if the screen were dark. -/
theorem execute_offscreen (s : State) {i : Instruction} (avoids : i.Avoids Part.picture) :
    (s.execute i).plain = { (s.plain.offscreen.execute i).plain with screen := s.screen } := by
  have kept : (s.execute i).screen = s.screen := by
    have display : (s.execute i).display = s.display :=
      State.execute_hidden (p := .display) avoids (by decide)
    have pending : (s.execute i).pending = s.pending :=
      State.execute_hidden (p := .pending) avoids (by decide)
    simp only [State.screen, display, pending]
  have same : ∀ p ∉ Part.picture, (s.execute i).Same (s.plain.offscreen.execute i) p :=
    fun _ => State.execute_visible avoids fun _ => s.same_offscreen
  rw [State.plain_eq_of_same same, kept]

/-- Marking the cells that go dark amounts to flipping, for a sprite inside its area. -/
theorem screen_stamp (s : State) {area bits : Grid}
    (inside : ∀ x y, bits.get x y = true → area.get x y = true) :
    (s.stamp area bits).screen = s.display.symmDiff bits := by
  refine Grid.ext_get fun x y => ?_
  have inside := inside x y
  simp only [State.screen, State.stamp, Grid.get_diff, Grid.get_union, Grid.get_inter,
    Grid.get_symmDiff]
  cases hb : bits.get x y <;> cases ha : area.get x y <;> cases s.display.get x y <;> simp_all

theorem draw_plain (s : State) (x y : Reg) (height : Fin 16) :
    (s.draw x y height).plain = s.plain.draw x y height := by
  have flipped : (s.draw x y height).screen =
      s.screen.symmDiff ((s.sprite x y height).bits s.memory) :=
    screen_stamp s.commitPending fun _ _ => Sprite.area_of_bits
  simp only [State.plain, PlainState.draw, flipped]
  simp only [State.draw, State.stamp, State.commitPending, State.sprite, State.screen]

theorem clear_plain (s : State) : s.clearScreen.plain = { s.plain with screen := .dark } := by
  have dark : s.clearScreen.screen = .dark :=
    Grid.ext_get fun x y => by simp [State.screen, State.clearScreen]
  simp only [State.plain, dark]
  simp only [State.clearScreen]

theorem execute_plain (s : State) (i : Instruction) : (s.execute i).plain = s.plain.execute i := by
  cases i with
  | clear => exact clear_plain s
  | draw x y height => exact draw_plain s x y height
  | _ => exact execute_offscreen s (Instruction.avoids_picture nofun nofun)

theorem cycle_plain (s : State) : s.cycle.plain = s.plain.cycle :=
  execute_plain s.passWord (.ofInt s.word.toNat)

theorem take_plain (s : State) (call : Call) : (s.take call).plain = s.plain.take call := by
  cases call with
  | cycle => exact cycle_plain s
  | tick | clearTone | keys => rfl
  | load program =>
    by_cases fits : program.length ≤ maxProgramSize
    -- `load` checks the size by `>`, hence the two forms of the same bound.
    · simp only [State.take, State.load, PlainState.take, fits, if_neg (Nat.not_lt.mpr fits), if_true]
      rfl
    · simp only [State.take, State.load, PlainState.take, fits, if_pos (Nat.not_le.mp fits), if_false]

def State.takeAll (s : State) (calls : List Call) : State := calls.foldl State.take s

def PlainState.takeAll (p : PlainState) (calls : List Call) : PlainState :=
  calls.foldl PlainState.take p

theorem takeAll_plain (s : State) (calls : List Call) :
    (s.takeAll calls).plain = s.plain.takeAll calls := by
  induction calls generalizing s with
  | nil => rfl
  | cons call rest ih =>
    have first : (s.take call).plain = s.plain.take call := take_plain s call
    calc (s.takeAll (call :: rest)).plain = ((s.take call).takeAll rest).plain := rfl
      _ = (s.take call).plain.takeAll rest := ih (s.take call)
      _ = s.plain.takeAll (call :: rest) := by rw [first]; rfl

/-- After every prefix of the calls the two engines agree on all that a program can read, and the
single grid holds the lit cells that are not marked. -/
theorem deferred_erasing_invisible (s : State) (calls : List Call) (n : Nat) :
    let t := s.takeAll (calls.take n)
    let p := s.plain.takeAll (calls.take n)
    p.random = t.random ∧ p.memory = t.memory ∧ p.pc = t.pc ∧ p.stack = t.stack ∧
      p.delay = t.delay ∧ p.tone = t.tone ∧ p.keypad = t.keypad ∧ p.registers = t.registers ∧
      p.index = t.index ∧ p.screen = t.display.diff t.pending := by
  intro t p
  have same : p = t.plain := (takeAll_plain s (calls.take n)).symm
  rw [same]
  exact ⟨rfl, rfl, rfl, rfl, rfl, rfl, rfl, rfl, rfl, rfl⟩

end Chip8
