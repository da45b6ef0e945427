import Chip8.Execution

/-! Which parts of a state an instruction reads and which it writes. A part that is not written
stays as it is. A written part depends on its old value and on the parts that are read. -/
namespace Chip8

inductive Part where
  | random
  | memory
  | pc
  | index
  | registers
  | stack
  | delay
  | tone
  | keypad
  | display
  | pending
  | redraw
deriving DecidableEq, Repr

namespace State

/-- Whether two states have the same value in a part. -/
def Same (s t : State) : Part → Prop
  | .random => s.random = t.random
  | .memory => s.memory = t.memory
  | .pc => s.pc = t.pc
  | .index => s.index = t.index
  | .registers => s.registers = t.registers
  | .stack => s.stack = t.stack
  | .delay => s.delay = t.delay
  | .tone => s.tone = t.tone
  | .keypad => s.keypad = t.keypad
  | .display => s.display = t.display
  | .pending => s.pending = t.pending
  | .redraw => s.redraw = t.redraw

variable {s t u : State} {p : Part}

theorem Same.refl (s : State) (p : Part) : s.Same s p := by
  cases p <;> rfl

theorem Same.symm (same : s.Same t p) : t.Same s p := by
  cases p <;> exact Eq.symm same

theorem Same.trans (first : s.Same t p) (second : t.Same u p) : s.Same u p := by
  cases p <;> exact Eq.trans first second

theorem ext_same (same : ∀ p, s.Same t p) : s = t := by
  obtain ⟨⟩ := s
  obtain ⟨⟩ := t
  simp only [mk.injEq]
  exact ⟨same .random, same .memory, same .pc, same .index, same .registers, same .stack,
    same .delay, same .tone, same .keypad, same .display, same .pending, same .redraw⟩

end State

/-- Parts that decide the outcome, apart from the old value of a part that is written. -/
def MiscOp.reads : MiscOp → List Part
  | readDelay => [.delay]
  | awaitKey => [.keypad]
  | setDelay | requestTone | addToIndex | pointToGlyph => [.registers]
  | storeDecimal | storeRegisters => [.registers, .index]
  | loadRegisters => [.memory, .index]

def MiscOp.writes : MiscOp → List Part
  | readDelay | loadRegisters => [.registers]
  | awaitKey => [.registers, .pc]
  | setDelay => [.delay]
  | requestTone => [.tone]
  | addToIndex | pointToGlyph => [.index]
  | storeDecimal | storeRegisters => [.memory]

namespace Instruction

/-- Parts that decide the outcome, apart from the old value of a part that is written. -/
def reads : Instruction → List Part
  | clear => [.display]
  | ret => [.stack]
  | call _ => [.pc]
  | skipEqByte .. | skipNeByte .. | skipEq .. | skipNe .. | jumpOffset _ => [.registers]
  | random .. => [.random]
  | draw .. => [.memory, .index, .registers, .display, .pending]
  | skipHeld _ | skipReleased _ => [.registers, .keypad]
  | misc op _ => op.reads
  | jump _ | setByte .. | addByte .. | alu .. | setIndex _ | unknownMisc _ | ignored => []

def writes : Instruction → List Part
  | clear => [.display, .redraw]
  | ret | call _ => [.stack, .pc]
  | jump _ | jumpOffset _ => [.pc]
  | skipEqByte .. | skipNeByte .. | skipEq .. | skipNe .. | skipHeld _ | skipReleased _ => [.pc]
  | setByte .. | addByte .. | alu .. => [.registers]
  | setIndex _ => [.index]
  | random .. => [.registers, .random]
  | draw .. => [.display, .pending, .redraw, .registers]
  | misc op _ => op.writes
  | unknownMisc _ | ignored => []

end Instruction

namespace State
variable {s t : State} {p : Part}

theorem skipIf_eq (s : State) (condition : Bool) :
    s.skipIf condition = { s with pc := if condition then s.pc + 2 else s.pc } := by
  cases condition <;> rfl

theorem awaitKey_eq (s : State) (x : Reg) :
    s.awaitKey x = { s with
      registers := (s.keypad.lowest?.map fun key =>
        s.registers.set x (UInt8.ofNat key)).getD s.registers
      pc := if s.keypad.lowest?.isSome then s.pc else s.pc - 2 } := by
  unfold awaitKey
  cases s.keypad.lowest? <;> rfl

theorem executeMisc_unwritten (s : State) (op : MiscOp) (x : Reg) (unwritten : p ∉ op.writes) :
    (s.executeMisc op x).Same s p := by
  cases op <;> cases p <;>
    simp only [MiscOp.writes, List.mem_cons, List.not_mem_nil, reduceCtorEq, or_false, or_true,
      not_true] at unwritten <;>
    simp only [Same, executeMisc, awaitKey_eq, setRegister, storeRegisters, storeBlock, loadRegisters]

/-- An instruction leaves alone what it does not write. -/
theorem execute_unwritten (s : State) (i : Instruction) (unwritten : p ∉ i.writes) :
    (s.execute i).Same s p := by
  cases i with
  | misc op x => exact executeMisc_unwritten s op x unwritten
  | _ =>
    cases p <;>
      simp only [Instruction.writes, List.mem_cons, List.not_mem_nil, reduceCtorEq, or_false, or_true,
        not_true] at unwritten <;>
      simp only [Same, execute, skipIf_eq, setRegister, clearScreen, ret, jump, call, setRandom, draw,
        stamp, commitPending]

theorem executeMisc_same {op : MiscOp} {x : Reg} (own : s.Same t p) (written : p ∈ op.writes)
    (read : ∀ q ∈ op.reads, s.Same t q) : (s.executeMisc op x).Same (t.executeMisc op x) p := by
  cases op <;> cases p <;>
    simp only [MiscOp.writes, List.mem_cons, List.not_mem_nil, reduceCtorEq, or_false] at written <;>
    simp_all [MiscOp.reads, Same, executeMisc, awaitKey_eq, setRegister, storeRegisters, storeBlock,
      loadRegisters, window]

/-- What becomes of a part depends on the part itself and, where it is written, on what is read. -/
theorem execute_same {i : Instruction} (own : s.Same t p)
    (read : p ∈ i.writes → ∀ q ∈ i.reads, s.Same t q) : (s.execute i).Same (t.execute i) p := by
  by_cases written : p ∈ i.writes
  · have read := read written
    cases i with
    | misc op x => exact executeMisc_same own written read
    | _ =>
      cases p <;>
        simp only [Instruction.writes, List.mem_cons, List.not_mem_nil, reduceCtorEq,
          or_false] at written <;>
        simp_all [Instruction.reads, Same, execute, skipIf_eq, setRegister, clearScreen, ret, jump,
          call, setRandom, draw, stamp, commitPending, sprite]
  · exact (execute_unwritten s i written).trans (own.trans (execute_unwritten t i written).symm)

end State

/-- Whether an instruction reads none of some parts. -/
def Instruction.Ignores (i : Instruction) (hidden : List Part) : Prop :=
  ∀ p ∈ hidden, p ∉ i.reads

/-- Whether an instruction neither reads nor writes any of some parts. -/
def Instruction.Avoids (i : Instruction) (hidden : List Part) : Prop :=
  ∀ p ∈ hidden, p ∉ i.reads ∧ p ∉ i.writes

/-- The parts that make up a picture with deferred erasing. -/
def Part.picture : List Part := [display, pending, redraw]

theorem Instruction.avoids_picture {i : Instruction} (clear : i ≠ .clear)
    (draw : ∀ x y height, i ≠ .draw x y height) : i.Avoids Part.picture := by
  cases i with
  | clear => contradiction
  | draw x y height => exact absurd rfl (draw x y height)
  | misc op x => cases op <;> simp [Avoids, Part.picture, reads, writes, MiscOp.reads, MiscOp.writes]
  | _ => simp [Avoids, Part.picture, reads, writes]

namespace State
variable {s t : State} {hidden : List Part} {i : Instruction}

theorem execute_hidden (avoids : i.Avoids hidden) {p : Part} (member : p ∈ hidden) :
    (s.execute i).Same s p :=
  execute_unwritten s i (avoids p member).2

/-- States that differ in hidden parts only still do after an instruction that reads none of them. -/
theorem execute_ignoring (ignores : i.Ignores hidden) (same : ∀ p ∉ hidden, s.Same t p) {p : Part}
    (visible : p ∉ hidden) : (s.execute i).Same (t.execute i) p :=
  execute_same (same p visible) fun _ q read => same q fun member => ignores q member read

theorem execute_visible (avoids : i.Avoids hidden) (same : ∀ p ∉ hidden, s.Same t p) {p : Part}
    (visible : p ∉ hidden) : (s.execute i).Same (t.execute i) p :=
  execute_ignoring (fun q member => (avoids q member).1) same visible

end State
end Chip8
