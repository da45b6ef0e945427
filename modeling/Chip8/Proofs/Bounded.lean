import Chip8.Proofs.Footprint
import Chip8.Proofs.Refusal
import Chip8.Proofs.Window

/-! Execution with partial accesses: memory has no bytes past its end and the stack holds sixteen
addresses, so that what goes beyond fails. A strict machine refuses exactly the instructions that
fail here, and otherwise arrives at the same state. -/
namespace Chip8

namespace Bounded

def read (m : Memory) (address : Nat) : Except FaultKind UInt8 :=
  if within : address < memorySize then .ok m.bytes[address] else .error .outOfBounds

def write (m : Memory) (address : Nat) (b : UInt8) : Except FaultKind Memory :=
  if within : address < memorySize then .ok ⟨m.bytes.set address b⟩ else .error .outOfBounds

def readBlock (m : Memory) (address : Nat) : Nat → Except FaultKind (List UInt8)
  | 0 => .ok []
  | n + 1 => do
      let b ← read m address
      let rest ← readBlock m (address + 1) n
      return b :: rest

def writeBlock (m : Memory) (address : Nat) : List UInt8 → Except FaultKind Memory
  | [] => .ok m
  | b :: rest => do
      let m ← write m address b
      writeBlock m (address + 1) rest

def push (s : CallStack) (w : UInt16) : Except FaultKind CallStack :=
  if room : s.depth.toNat < stackSize then
    .ok ⟨s.slots.set s.depth.toNat w, .ofInt (s.depth + 1)⟩
  else .error .stackOverflow

/-- The stack that is left, whose freed slot is zeroed, and the address taken from it. -/
def pop (s : CallStack) : Except FaultKind (CallStack × UInt16) :=
  if used : 0 < s.depth.toNat ∧ s.depth.toNat - 1 < stackSize then
    .ok (⟨s.slots.set (s.depth.toNat - 1) 0 used.2, .ofInt (s.depth - 1)⟩,
      s.slots.get ⟨s.depth.toNat - 1, used.2⟩)
  else .error .stackUnderflow

def fetch (s : State) : Except FaultKind UInt16 := do
  let high ← read s.memory s.pc.toNat
  let low ← read s.memory (s.pc.toNat + 1)
  return (high.toUInt16 <<< 8) ||| low.toUInt16

/-- The lit cells of a sprite with the given rows. -/
def spriteBits (s : Sprite) (rows : List UInt8) : Grid :=
  .ofFn fun x y =>
    s.covers x y && (rows.getD (s.rowOffset y) 0).toNat.testBit (Sprite.width - 1 - s.columnOffset x)

/-- Registers with a block of bytes from the first on. -/
def overwrite (v : Registers) (block : List UInt8) : Registers :=
  .ofFn fun r => block.getD r (v.get r)

/-- Runs an instruction that uses neither memory nor stack, which are blank meanwhile. -/
def detached (s : State) (i : Instruction) : State :=
  let after := { s with memory := .zero, stack := .empty : State }.execute i
  { after with memory := s.memory, stack := s.stack }

def execute (s : State) (i : Instruction) : Except FaultKind State :=
  match i with
  | .ret => do
      let (stack, pc) ← pop s.stack
      return { s with stack, pc }
  | .call target => do
      let stack ← push s.stack s.pc
      return { s with stack, pc := UInt16.ofNat target }
  | .draw x y height => do
      let rows ← readBlock s.memory s.index.toNat height
      let sprite := s.sprite x y height
      return s.commitPending.stamp sprite.area (spriteBits sprite rows)
  | .misc .storeDecimal x => do
      let memory ← writeBlock s.memory s.index.toNat (State.decimalDigits (s.registers.get x))
      return { s with memory }
  | .misc .storeRegisters x => do
      let memory ← writeBlock s.memory s.index.toNat (s.registers.upTo x)
      return { s with memory }
  | .misc .loadRegisters x => do
      let block ← readBlock s.memory s.index.toNat (x + 1)
      return { s with registers := overwrite s.registers block }
  | i => return detached s i

def step (s : State) : Except FaultKind State := do
  let word ← fetch s
  execute { s with pc := s.pc + 2 } (.ofInt word.toNat)

theorem setIfInBounds_of_lt {α : Type} {n i : Nat} (xs : Vector α n) (a : α) (within : i < n) :
    xs.setIfInBounds i a = xs.set i a :=
  Vector.ext fun j _ => by simp only [Vector.getElem_setIfInBounds, Vector.getElem_set]

section Blocks
variable {m : Memory} {address : Nat}

theorem read_of_lt (within : address < memorySize) : read m address = .ok (m.read address) := by
  rw [read, dif_pos within, Memory.read_eq_getElem m within]

theorem read_of_ge (past : memorySize ≤ address) : read m address = .error .outOfBounds :=
  dif_neg (Nat.not_lt.mpr past)

theorem write_of_lt (within : address < memorySize) (b : UInt8) :
    write m address b = .ok (m.write address b) := by
  rw [write, dif_pos within, Memory.write, setIfInBounds_of_lt m.bytes b within]

theorem write_of_ge (past : memorySize ≤ address) (b : UInt8) :
    write m address b = .error .outOfBounds :=
  dif_neg (Nat.not_lt.mpr past)

theorem readBlock_of_fits {n : Nat} (fits : n = 0 ∨ address + n ≤ memorySize) :
    readBlock m address n = .ok (.ofFn fun k : Fin n => m.read (address + k)) := by
  induction n generalizing address with
  | zero => rfl
  | succ n ih =>
    have first : read m address = .ok (m.read address) := read_of_lt (by omega)
    have rest : readBlock m (address + 1) n = _ := ih (by omega)
    simp only [readBlock, first, rest, bind, Except.bind, pure, Except.pure, List.ofFn_succ]
    simp [Nat.add_assoc, Nat.add_comm 1]

theorem readBlock_of_past {n : Nat} (some : 0 < n) (past : memorySize < address + n) :
    readBlock m address n = .error .outOfBounds := by
  induction n generalizing address with
  | zero => omega
  | succ n ih =>
    by_cases within : address < memorySize
    · have rest : readBlock m (address + 1) n = _ := ih (by omega) (by omega)
      simp only [readBlock, read_of_lt within, rest, bind, Except.bind]
    · simp only [readBlock, read_of_ge (Nat.not_lt.mp within), bind, Except.bind]

theorem writeBlock_of_fits {block : List UInt8} (fits : address + block.length ≤ memorySize) :
    writeBlock m address block = .ok (m.writeBlock address block) := by
  induction block generalizing m address with
  | nil => rfl
  | cons b rest ih =>
    rw [List.length_cons] at fits
    have first : write m address b = .ok (m.write address b) := write_of_lt (by omega) b
    have others : writeBlock (m.write address b) (address + 1) rest = _ := ih (by omega)
    simp only [writeBlock, first, bind, Except.bind, others, Memory.writeBlock]

theorem writeBlock_of_past {block : List UInt8} (some : block ≠ [])
    (past : memorySize < address + block.length) :
    writeBlock m address block = .error .outOfBounds := by
  induction block generalizing m address with
  | nil => contradiction
  | cons b rest ih =>
    rw [List.length_cons] at past
    by_cases within : address < memorySize
    · have more : rest ≠ [] := by
        rintro rfl
        simp only [List.length_nil] at past
        omega
      have others : writeBlock (m.write address b) (address + 1) rest = _ := ih more (by omega)
      simp only [writeBlock, write_of_lt within, bind, Except.bind, others]
    · simp only [writeBlock, write_of_ge (Nat.not_lt.mp within), bind, Except.bind]

end Blocks

section Stack
variable {s : CallStack}

theorem push_of_room (w : UInt16) (low : 0 ≤ s.depth) (room : s.depth < stackSize) :
    push s w = .ok (s.push w) := by
  have within : s.depth.toNat < stackSize := by omega
  have slots := CallStack.slots_push w low
  have pointer : Int32.ofInt (s.depth + 1) = s.pointer + 1 := by simp [CallStack.depth]
  rw [setIfInBounds_of_lt _ _ within] at slots
  rw [push, dif_pos within, ← slots, pointer]
  rfl

theorem push_of_full (w : UInt16) (full : stackSize ≤ s.depth) : push s w = .error .stackOverflow :=
  dif_neg (by omega)

theorem pop_of_used (used : 1 ≤ s.depth) (high : s.depth ≤ stackSize) :
    pop s = .ok (s.pop, s.top) := by
  have within : 0 < s.depth.toNat ∧ s.depth.toNat - 1 < stackSize := by omega
  have slots := CallStack.slots_pop used high
  have slot : (s.depth - 1).toNat = s.depth.toNat - 1 := by omega
  have pointer : Int32.ofInt (s.depth - 1) = s.pointer - 1 := by simp [CallStack.depth]
  rw [slot, setIfInBounds_of_lt _ _ within.2] at slots
  rw [pop, dif_pos within, ← slots, pointer, ← CallStack.top_eq used high]
  rfl

theorem pop_of_empty (empty : s.depth = 0) : pop s = .error .stackUnderflow :=
  dif_neg (by omega)

end Stack

section Instructions
variable {s : State}

theorem spriteBits_eq (sprite : Sprite) (m : Memory) :
    spriteBits sprite (.ofFn fun k : Fin sprite.height => m.read (sprite.address + k)) =
      sprite.bits m := by
  refine Grid.ext_get fun x y => ?_
  simp only [spriteBits, Sprite.bits, Sprite.lit, Grid.get_ofFn]
  by_cases covered : sprite.covers x y = true
  · have inside : sprite.rowOffset y < sprite.height := by
      simp only [Sprite.covers, Bool.and_eq_true, decide_eq_true_eq] at covered
      exact covered.2
    rw [List.getD_eq_getElem _ _ (by simpa using inside), List.getElem_ofFn]
  · simp only [covered, Bool.false_and]

theorem overwrite_eq (last : Reg) :
    overwrite s.registers (.ofFn fun k : Fin (last + 1) => s.memory.read (s.index.toNat + k)) =
      (s.loadRegisters last).registers := by
  refine Registers.ext_get fun r => ?_
  simp only [overwrite, State.loadRegisters, Registers.get_ofFn, State.get_window]
  by_cases loaded : r ≤ last
  · have inside : r.val < last.val + 1 := Nat.lt_succ_of_le loaded
    rw [if_pos loaded, List.getD_eq_getElem _ _ (by simpa using inside), List.getElem_ofFn]
  · have outside : last.val + 1 ≤ r.val := Nat.lt_of_not_le loaded
    rw [if_neg loaded, List.getD_eq_default _ _ (by simpa using outside)]

/-- The parts that only some instructions use. -/
def storage : List Part := [.memory, .stack]

theorem detached_eq {i : Instruction} (avoids : i.Avoids storage) : detached s i = s.execute i := by
  have same : ∀ p ∉ storage, ({ s with memory := .zero, stack := .empty } : State).Same s p := by
    intro p visible
    cases p <;> first | rfl | exact absurd (by decide) visible
  refine State.ext_same fun p => ?_
  have visible : p ∉ storage → _ := State.execute_visible avoids same
  have memory : (s.execute i).memory = s.memory :=
    State.execute_hidden (p := .memory) avoids (by decide)
  have stack : (s.execute i).stack = s.stack :=
    State.execute_hidden (p := .stack) avoids (by decide)
  cases p with
  | memory => exact memory.symm
  | stack => exact stack.symm
  | _ => exact visible (by decide)

/-- An instruction whose checks pass has all its accesses. -/
theorem execute_of_fits {i : Instruction} (low : 0 ≤ s.stack.depth)
    (high : s.stack.depth ≤ stackSize) (stack : i.stackRefusal? s = none)
    (fits : i.blockLength = 0 ∨ s.index.toNat + i.blockLength ≤ memorySize) :
    execute s i = .ok (s.execute i) := by
  cases i with
  | ret =>
    have used : 1 ≤ s.stack.depth := by
      simp only [Instruction.stackRefusal?, ite_eq_right_iff, reduceCtorEq, imp_false] at stack
      omega
    simp only [execute, pop_of_used used high]
    rfl
  | call target =>
    have room : s.stack.depth < stackSize := by
      simpa [Instruction.stackRefusal?] using stack
    simp only [execute, push_of_room s.pc low room]
    rfl
  | draw x y height =>
    have fits : height.val = 0 ∨ s.index.toNat + height ≤ memorySize := fits
    have rows := spriteBits_eq (s.sprite x y height) s.memory
    simp only [execute, readBlock_of_fits fits, bind, Except.bind, pure, Except.pure]
    exact congrArg (fun bits => Except.ok (s.commitPending.stamp (s.sprite x y height).area bits)) rows
  | misc op x =>
    cases op with
    | storeDecimal =>
      have fits : s.index.toNat + (State.decimalDigits (s.registers.get x)).length ≤ memorySize :=
        fits.resolve_left (Nat.succ_ne_zero 2)
      simp only [execute, writeBlock_of_fits fits]
      rfl
    | storeRegisters =>
      have fits : s.index.toNat + (s.registers.upTo x).length ≤ memorySize := by
        rw [Registers.length_upTo]
        exact fits.resolve_left (Nat.succ_ne_zero _)
      have stored : s.execute (.misc .storeRegisters x) = s.storeBlock (s.registers.upTo x) :=
        s.storeRegisters_eq x
      simp only [execute, writeBlock_of_fits fits, stored]
      rfl
    | loadRegisters =>
      have fits : x.val + 1 = 0 ∨ s.index.toNat + (x + 1) ≤ memorySize := fits
      simp only [execute, readBlock_of_fits fits, bind, Except.bind, overwrite_eq]
      rfl
    -- The others have no accesses, so that blank storage makes no difference to them.
    | _ =>
      simp only [execute, pure, Except.pure]
      rw [detached_eq (by simp [Instruction.Avoids, Instruction.reads, Instruction.writes,
        MiscOp.reads, MiscOp.writes, storage])]
  | _ =>
    simp only [execute, pure, Except.pure]
    rw [detached_eq (by simp [Instruction.Avoids, Instruction.reads, Instruction.writes, storage])]

theorem execute_of_past {i : Instruction} (block : 0 < i.blockLength)
    (past : memorySize < s.index.toNat + i.blockLength) : execute s i = .error .outOfBounds := by
  cases i with
  | draw x y height =>
    have missing : readBlock s.memory s.index.toNat height = .error .outOfBounds :=
      readBlock_of_past block past
    simp only [execute, missing]
    rfl
  | misc op x =>
    cases op with
    | storeDecimal =>
      have digits : State.decimalDigits (s.registers.get x) ≠ [] := List.cons_ne_nil _ _
      simp only [execute, writeBlock_of_past digits past]
      rfl
    | storeRegisters =>
      have length := s.registers.length_upTo x
      have some : s.registers.upTo x ≠ [] := List.ne_nil_of_length_pos (by omega)
      rw [Instruction.blockLength, ← length] at past
      simp only [execute, writeBlock_of_past some past]
      rfl
    | loadRegisters =>
      have missing : readBlock s.memory s.index.toNat (x + 1) = .error .outOfBounds :=
        readBlock_of_past block past
      simp only [execute, missing]
      rfl
    | _ => contradiction
  | _ => contradiction

theorem execute_of_stackRefusal {i : Instruction} {cause : Cause}
    (refused : i.stackRefusal? s = some cause) : execute s i = .error cause.kind := by
  cases i with
  | ret =>
    obtain ⟨empty, rfl⟩ : s.stack.depth = 0 ∧ Cause.emptyStack = cause := by
      simpa [Instruction.stackRefusal?] using refused
    simp only [execute, pop_of_empty empty]
    rfl
  | call target =>
    obtain ⟨full, rfl⟩ : stackSize ≤ s.stack.depth ∧ Cause.fullStack = cause := by
      simpa [Instruction.stackRefusal?] using refused
    simp only [execute, push_of_full s.pc full]
    rfl
  | _ => contradiction

/-- A fetched instruction fails exactly where a strict machine refuses it. -/
theorem execute_eq {i : Instruction} (low : 0 ≤ s.stack.depth) (high : s.stack.depth ≤ stackSize) :
    execute s i =
      match i.refusal? s true with
      | some cause => .error cause.kind
      | none => .ok (s.execute i) := by
  cases stack : i.stackRefusal? s with
  | some cause => simp only [Instruction.refusal?, stack, Option.or, execute_of_stackRefusal stack]
  | none =>
    by_cases past : 0 < i.blockLength ∧ memorySize < s.index.toNat + i.blockLength
    · simp only [Instruction.refusal?, stack, Option.or, Instruction.blockRefusal?, if_true,
        if_pos past, execute_of_past past.1 past.2]
      rfl
    · simp only [Instruction.refusal?, stack, Option.or, Instruction.blockRefusal?, if_true,
        if_neg past]
      exact execute_of_fits low high stack (by omega)

theorem fetch_of_lt (within : s.pc.toNat + 1 < memorySize) : fetch s = .ok s.word := by
  simp only [fetch, read_of_lt (Nat.lt_of_succ_lt within), read_of_lt within, bind, Except.bind,
    State.word, State.following_toNat within]
  rfl

theorem fetch_of_ge (past : memorySize ≤ s.pc.toNat + 1) : fetch s = .error .outOfBounds := by
  by_cases first : s.pc.toNat < memorySize
  · simp only [fetch, read_of_lt first, read_of_ge past, bind, Except.bind]
  · simp only [fetch, read_of_ge (Nat.not_lt.1 first), bind, Except.bind]

end Instructions

/-- A strict machine accepts the word that the partial accesses fetch if they all succeed, and
refuses it with the kind of the first that fails. -/
theorem step_eq {m : Machine} (strict : m.strict = true) (low : 0 ≤ m.state.stack.depth)
    (high : m.state.stack.depth ≤ stackSize) :
    step m.state =
      match m.acceptedWord with
      | .error f => .error f.cause.kind
      | .ok _ => .ok m.state.cycle := by
  by_cases within : m.state.pc.toNat + 1 < memorySize
  · have executed : execute m.state.passWord m.state.instruction = _ := execute_eq low high
    -- The checks see the state before the program counter moves on, and do not read it.
    have checks : m.state.instruction.refusal? m.state.passWord true =
        m.state.instruction.refusal? m.state m.strict := by rw [strict]; rfl
    rw [checks] at executed
    simp only [step, fetch_of_lt within, bind, Except.bind, Machine.acceptedWord_within within]
    refine executed.trans ?_
    cases m.state.instruction.refusal? m.state m.strict <;> rfl
  · have past : memorySize ≤ m.state.pc.toNat + 1 := Nat.not_lt.1 within
    simp only [step, fetch_of_ge past, bind, Except.bind, Machine.acceptedWord_past past]
    rfl

end Bounded

namespace Machine

/-- A strict machine fails exactly where an access is missing, with the kind of that access. If
none is, it arrives where the partial accesses lead, by the word that was checked. -/
theorem strict_step_exact (m : Machine) (strict : m.strict = true) (low : 0 ≤ m.state.stack.depth)
    (high : m.state.stack.depth ≤ stackSize) :
    (∀ kind, (∃ f : Fault, m.step.error? = some (.fault f) ∧ f.cause.kind = kind) ↔
        Bounded.step m.state = .error kind) ∧
      (∀ s, Bounded.step m.state = .ok s →
        m.step.error? = none ∧ m.step.machine.state = s.clearTone) ∧
      ∀ word : Int, m.acceptedWord = .ok word → ∃ w : UInt16, Bounded.fetch m.state = .ok w ∧
        word = w.toNat ∧
        m.step.machine.state = (m.state.passWord.execute (.ofInt word)).clearTone := by
  have bounded := Bounded.step_eq strict low high
  cases checked : m.acceptedWord with
  | error f =>
    rw [bounded, checked, step_of_refused checked]
    refine ⟨fun kind => ?_, fun s reached => ?_, fun word accepted => ?_⟩
    · constructor
      · rintro ⟨g, same, rfl⟩
        cases same
        rfl
      · intro same
        exact ⟨f, rfl, Except.error.inj same⟩
    · contradiction
    · contradiction
  | ok word =>
    have fetched : Bounded.fetch m.state = .ok m.state.word :=
      Bounded.fetch_of_lt (within_of_accepted checked)
    have executed : word = m.state.word.toNat := word_of_accepted checked
    rw [bounded, checked, step_of_accepted checked]
    refine ⟨fun kind => ?_, fun s reached => ?_, fun word' accepted => ?_⟩
    · constructor
      · rintro ⟨g, failed, _⟩
        contradiction
      · intro failed
        contradiction
    · rw [← Except.ok.inj reached]
      exact ⟨rfl, rfl⟩
    · cases accepted
      refine ⟨m.state.word, fetched, executed, ?_⟩
      rw [executed]
      rfl

/-- A machine about to load three registers from the end of memory. -/
def reaching : Machine :=
  { powerOn default true default with
    state := { State.powerOn default with
      memory := (Memory.zero.writeBlock programStart [0xF2, 0x65]).writeBlock 0xFFD [7, 8, 9]
      index := 0xFFD } }

/-- Of the sixteen bytes from the index on there are three. Storing four registers is refused, and loading
three of them is done. -/
theorem strict_step_exact_overhanging :
    overhanging.strict = true ∧ 0 ≤ overhanging.state.stack.depth ∧
      overhanging.state.stack.depth ≤ stackSize ∧
      Bounded.step overhanging.state = .error .outOfBounds ∧
      reaching.strict = true ∧ 0 ≤ reaching.state.stack.depth ∧ reaching.state.stack.depth ≤ stackSize ∧
      reaching.acceptedWord = .ok 0xF265 ∧
      ∃ loaded, Bounded.step reaching.state = .ok loaded ∧ loaded.registers.upTo 3 = [7, 8, 9, 0] ∧
        reaching.step.error? = none ∧ reaching.step.machine.state = loaded.clearTone ∧
        (reaching.state.passWord.execute (.ofInt 0xF265)).clearTone = loaded.clearTone := by
  have refused := ((strict_step_exact overhanging rfl (by decide) (by decide)).1 .outOfBounds).1
    ⟨_, overhanging_refused, rfl⟩
  have accepted : reaching.acceptedWord = .ok 0xF265 := by
    have succeeds : reaching.step.error? = none := by decide +kernel
    obtain ⟨word, accepted⟩ := accepted_iff.1 succeeds
    have fetched : reaching.state.word = 0xF265 := by decide +kernel
    rw [accepted, word_of_accepted accepted, fetched]
    rfl
  have reached : Bounded.step reaching.state = .ok reaching.state.cycle := by
    rw [Bounded.step_eq rfl (by decide) (by decide), accepted]
  obtain ⟨_, arrives, executes⟩ := strict_step_exact reaching rfl (by decide) (by decide)
  obtain ⟨succeeds, arrived⟩ := arrives _ reached
  obtain ⟨_, _, _, after⟩ := executes _ accepted
  exact ⟨rfl, by decide, by decide, refused, rfl, by decide, by decide, accepted, _, reached,
    by decide +kernel, succeeds, arrived, after.symm.trans arrived⟩

end Machine
end Chip8
