import Chip8.Proofs.Arithmetic
import Chip8.Proofs.CellByCell
import Chip8.Proofs.Redraw
import Chip8.Proofs.Window

/-! Which words may change which part of a state, read off their digits. Each part belongs to a few classes of
words, and all others leave it alone. -/
namespace Chip8

namespace Fields

/-- The words 3XNN, 4XNN, 5XYN, 9XYN, EX9E and EXA1. -/
def IsSkip (f : Fields) : Prop :=
  f.family.val ∈ [0x3, 0x4, 0x5, 0x9] ∨ f.family.val = 0xE ∧ f.nn ∈ [0x9E, 0xA1]

/-- The registers that a word of arithmetic may change. -/
def OwnsInArithmetic (f : Fields) (r : Reg) : Prop :=
  f.n.val ∈ [0x0, 0x1, 0x2, 0x3, 0x4, 0x5, 0x6, 0xE] ∧ r = f.x ∨
  f.n.val = 0x7 ∧ r = f.y ∨
  f.n.val ∈ [0x4, 0x5, 0x6, 0x7, 0xE] ∧ r = Reg.flag

/-- The registers that a word may change. -/
def OwnsRegister (f : Fields) (r : Reg) : Prop :=
  f.family.val ∈ [0x6, 0x7, 0xC] ∧ r = f.x ∨
  f.family.val = 0x8 ∧ f.OwnsInArithmetic r ∨
  f.family.val = 0xD ∧ r = Reg.flag ∨
  f.family.val = 0xF ∧ (f.nn ∈ [0x07, 0x0A] ∧ r = f.x ∨ f.nn = 0x65 ∧ r ≤ f.x)

/-- The parts of a state that a word may change. -/
def Owns (f : Fields) : Part → Prop
  | .memory => f.family.val = 0xF ∧ f.nn ∈ [0x33, 0x55]
  | .display | .redraw => f.family.val = 0x0 ∧ f.nn = 0xE0 ∨ f.family.val = 0xD
  | .pending => f.family.val = 0xD
  | .stack => f.family.val = 0x2 ∨ f.family.val = 0x0 ∧ f.nn = 0xEE
  | .random => f.family.val = 0xC
  | .index => f.family.val = 0xA ∨ f.family.val = 0xF ∧ f.nn ∈ [0x1E, 0x29]
  | .delay => f.family.val = 0xF ∧ f.nn = 0x15
  | .tone => f.family.val = 0xF ∧ f.nn = 0x18
  | .keypad => False
  | .pc =>
      f.family.val ∈ [0x1, 0x2, 0xB] ∨ f.family.val = 0x0 ∧ f.nn = 0xEE ∨ f.IsSkip ∨
        f.family.val = 0xF ∧ f.nn = 0x0A
  | .registers => ∃ r, f.OwnsRegister r

/-- The words that stand for nothing: other 0NNN, EXNN and FXNN, and 8XYN without an operation. -/
def IsUndefined (f : Fields) : Prop :=
  f.family.val = 0x0 ∧ f.nn ∉ [0xE0, 0xEE] ∨
  f.family.val = 0x8 ∧ f.n.val ∉ [0x0, 0x1, 0x2, 0x3, 0x4, 0x5, 0x6, 0x7, 0xE] ∨
  f.family.val = 0xE ∧ f.nn ∉ [0x9E, 0xA1] ∨
  f.family.val = 0xF ∧ f.nn ∉ [0x07, 0x0A, 0x15, 0x18, 0x1E, 0x29, 0x33, 0x55, 0x65]

end Fields

namespace Instruction

/-- The registers that an instruction may change. -/
def ChangesRegister (r : Reg) : Instruction → Prop
  | setByte x _ | addByte x _ | random x _ => r = x
  | alu op x y => r = op.destination x y ∨ op ∉ [.copy, .or, .and, .xor] ∧ r = Reg.flag
  | draw .. => r = Reg.flag
  | misc .readDelay x | misc .awaitKey x => r = x
  | misc .loadRegisters x => r ≤ x
  | _ => False

/-- Whether an instruction does nothing but pass over the next word in some case. -/
def isSkip : Instruction → Bool
  | skipEqByte .. | skipNeByte .. | skipEq .. | skipNe .. | skipHeld _ | skipReleased _ => true
  | _ => false

variable {f : Fields} {i : Instruction}

theorem ownsInArithmetic {op : AluOp} {r : Reg} (digit : f.n.val = op.digit)
    (changes : (alu op f.x f.y).ChangesRegister r) : f.OwnsInArithmetic r := by
  unfold Fields.OwnsInArithmetic
  rw [digit]
  cases op with
  | copy | or | and | xor =>
    have home : r = f.x := by simpa [ChangesRegister, AluOp.destination] using changes
    exact .inl ⟨by simp [AluOp.digit], home⟩
  | add | subtract | shiftRight | shiftLeft =>
    rcases changes with home | ⟨_, flag⟩
    · exact .inl ⟨by simp [AluOp.digit], home⟩
    · exact .inr (.inr ⟨by simp [AluOp.digit], flag⟩)
  | subtractFrom =>
    rcases changes with home | ⟨_, flag⟩
    · exact .inr (.inl ⟨rfl, home⟩)
    · exact .inr (.inr ⟨by simp [AluOp.digit], flag⟩)

theorem Decodes.ownsRegister (decodes : Decodes f i) {r : Reg} (changes : i.ChangesRegister r) :
    f.OwnsRegister r := by
  cases decodes with
  | setByte family | addByte family | random family => exact .inl ⟨by simp [family], changes⟩
  | alu op family digit => exact .inr (.inl ⟨family, ownsInArithmetic digit changes⟩)
  | draw family => exact .inr (.inr (.inl ⟨family, changes⟩))
  | misc op family code =>
    refine .inr (.inr (.inr ⟨family, ?_⟩))
    cases op with
    | readDelay | awaitKey => exact .inl ⟨by simp [code, MiscOp.code], changes⟩
    | loadRegisters => exact .inr ⟨code, changes⟩
    | _ => contradiction
  | _ => contradiction

theorem Decodes.owns (decodes : Decodes f i) {p : Part} (written : p ∈ i.writes) : f.Owns p := by
  -- Whatever writes the registers changes one of them.
  have register {r : Reg} (changes : i.ChangesRegister r) : f.Owns .registers :=
    ⟨r, decodes.ownsRegister changes⟩
  cases decodes with
  | noSystem | noAlu | noKey | unknownMisc => contradiction
  | clear family nn =>
    rcases List.mem_pair.1 written with rfl | rfl <;> exact .inl ⟨family, nn⟩
  | ret family nn =>
    rcases List.mem_pair.1 written with rfl | rfl
    · exact .inr ⟨family, nn⟩
    · exact .inr (.inl ⟨family, nn⟩)
  | call family =>
    rcases List.mem_pair.1 written with rfl | rfl
    · exact .inl family
    · exact .inl (by simp [family])
  | jump family | jumpOffset family =>
    obtain rfl := List.mem_singleton.1 written
    exact .inl (by simp [family])
  | skipEqByte family | skipNeByte family | skipEq family | skipNe family =>
    obtain rfl := List.mem_singleton.1 written
    exact .inr (.inr (.inl (.inl (by simp [family]))))
  | skipHeld family nn | skipReleased family nn =>
    obtain rfl := List.mem_singleton.1 written
    exact .inr (.inr (.inl (.inr ⟨family, by simp [nn]⟩)))
  | setByte | addByte =>
    obtain rfl := List.mem_singleton.1 written
    exact register rfl
  | alu =>
    obtain rfl := List.mem_singleton.1 written
    exact register (.inl rfl)
  | setIndex family =>
    obtain rfl := List.mem_singleton.1 written
    exact .inl family
  | random family =>
    rcases List.mem_pair.1 written with rfl | rfl
    · exact register rfl
    · exact family
  | draw family =>
    simp only [writes, List.mem_cons, List.not_mem_nil, or_false] at written
    rcases written with rfl | rfl | rfl | rfl
    · exact .inr family
    · exact family
    · exact .inr family
    · exact register rfl
  | misc op family code =>
    cases op with
    | readDelay =>
      obtain rfl := List.mem_singleton.1 written
      exact register rfl
    | awaitKey =>
      rcases List.mem_pair.1 written with rfl | rfl
      · exact register rfl
      · exact .inr (.inr (.inr ⟨family, code⟩))
    | setDelay | requestTone =>
      obtain rfl := List.mem_singleton.1 written
      exact ⟨family, code⟩
    | addToIndex | pointToGlyph =>
      obtain rfl := List.mem_singleton.1 written
      exact .inr ⟨family, by simp [code, MiscOp.code]⟩
    | storeDecimal | storeRegisters =>
      obtain rfl := List.mem_singleton.1 written
      exact ⟨family, by simp [code, MiscOp.code]⟩
    | loadRegisters =>
      obtain rfl := List.mem_singleton.1 written
      exact register (r := f.x) (Nat.le_refl _)

theorem Decodes.isSkip (decodes : Decodes f i) (skip : f.IsSkip) : i.isSkip = true := by
  unfold Fields.IsSkip at skip
  cases decodes <;> simp_all [Instruction.isSkip]

end Instruction

namespace State
variable (s : State) {i : Instruction}

theorem execute_register {r : Reg} (unchanged : ¬ i.ChangesRegister r) :
    (s.execute i).registers.get r = s.registers.get r := by
  -- Most instructions do not write the registers at all.
  have elsewhere (unwritten : .registers ∉ i.writes) :
      (s.execute i).registers.get r = s.registers.get r :=
    congrArg (·.get r) (execute_unwritten (p := .registers) s i unwritten)
  cases i with
  | setByte | addByte | random => exact Registers.get_set_ne _ _ (Ne.symm unchanged)
  | draw => exact registers_draw unchanged
  | alu op x y =>
    obtain ⟨other, unflagged⟩ := not_or.1 unchanged
    refine AluOp.get_apply_of_ne other ?_
    cases op with
    | copy | or | and | xor => exact .inl rfl
    | _ => exact .inr fun flag => unflagged ⟨by decide, flag⟩
  | misc op x =>
    cases op with
    | readDelay => exact Registers.get_set_ne _ _ (Ne.symm unchanged)
    | awaitKey =>
      simp only [execute, executeMisc, awaitKey_eq]
      cases s.keypad.lowest? with
      | none => rfl
      | some key => exact Registers.get_set_ne _ _ (Ne.symm unchanged)
    | loadRegisters => exact (s.get_loadRegisters x r).trans (if_neg unchanged)
    | _ => exact elsewhere (by simp [Instruction.writes, MiscOp.writes])
  | _ => exact elsewhere (by simp [Instruction.writes])

theorem execute_skip (skip : i.isSkip = true) :
    (s.execute i).pc = s.pc ∨ (s.execute i).pc = s.pc + 2 := by
  have skipped (condition : Bool) :
      (s.skipIf condition).pc = s.pc ∨ (s.skipIf condition).pc = s.pc + 2 := by
    cases condition with
    | false => exact .inl rfl
    | true => exact .inr rfl
  cases i with
  | skipEqByte | skipNeByte | skipEq | skipNe | skipHeld | skipReleased => exact skipped _
  | _ => contradiction

theorem execute_undefined {f : Fields} (decodes : Instruction.Decodes f i) (undefined : f.IsUndefined) :
    s.execute i = s := by
  unfold Fields.IsUndefined at undefined
  cases decodes with
  | noSystem | noAlu | noKey | unknownMisc => rfl
  | alu op family digit => cases op <;> simp_all [AluOp.digit]
  | misc op family code => cases op <;> simp_all [MiscOp.code]
  | _ => simp_all

end State

/-- A word changes no part of a state and no register but those that it owns. A skip moves the program counter
by two or leaves it, the redraw flag can only go up, and a word that stands for nothing does nothing. -/
theorem words_change_what_they_own (s : State) (word : Int) :
    let f := Fields.ofInt word
    let t := s.execute (.ofInt word)
    (∀ p, ¬ f.Owns p → t.Same s p) ∧
    (∀ r, ¬ f.OwnsRegister r → t.registers.get r = s.registers.get r) ∧
    (f.IsSkip → t.pc = s.pc ∨ t.pc = s.pc + 2) ∧
    (t.redraw ≠ s.redraw → s.redraw = false ∧ t.redraw = true) ∧
    (f.IsUndefined → t = s) := by
  intro f t
  have decodes : Instruction.Decodes f (.ofInt word) := Instruction.decodes_ofFields f
  refine ⟨?_, ?_, ?_, ?_, ?_⟩
  · intro p foreign
    exact s.execute_unwritten _ fun written => foreign (decodes.owns written)
  · intro r foreign
    exact s.execute_register fun changes => foreign (decodes.ownsRegister changes)
  · intro skip
    exact s.execute_skip (decodes.isSkip skip)
  · intro changed
    cases up : t.redraw with
    | false =>
      have down : s.redraw = false := (State.execute_quiet up).1
      rw [up, down] at changed
      contradiction
    | true =>
      rw [up] at changed
      exact ⟨Bool.eq_false_of_not_eq_true changed.symm, rfl⟩
  · intro undefined
    exact s.execute_undefined decodes undefined

/-- On a lit screen that the host has seen, 00E0 asks for a redraw and leaves memory and registers alone. A
skip over a word may go either way, and 8128 does nothing. -/
theorem words_change_what_they_own_clear :
    let s : State := { State.powerOn default with display := .ofFn fun _ _ => true, redraw := false }
    let clear := s.execute (.ofInt 0x00E0)
    let skip := s.execute (.ofInt 0x5340)
    ¬ (Fields.ofInt 0x00E0).Owns .memory ∧ clear.memory = s.memory ∧
      ¬ (Fields.ofInt 0x00E0).OwnsRegister 3 ∧ clear.registers.get 3 = s.registers.get 3 ∧
      clear.redraw ≠ s.redraw ∧ s.redraw = false ∧ clear.redraw = true ∧
      (Fields.ofInt 0x5340).IsSkip ∧ (skip.pc = 0x200 ∨ skip.pc = 0x202) ∧
      (Fields.ofInt 0x8128).IsUndefined ∧ s.execute (.ofInt 0x8128) = s := by
  intro s clear skip
  obtain ⟨parts, registers, _, redraw, _⟩ := words_change_what_they_own s 0x00E0
  have memory : ¬ (Fields.ofInt 0x00E0).Owns .memory := fun owned => absurd owned.1 (by decide)
  have register : ¬ (Fields.ofInt 0x00E0).OwnsRegister 3 := by
    rintro (⟨family, _⟩ | ⟨family, _⟩ | ⟨family, _⟩ | ⟨family, _⟩)
    all_goals exact absurd family (by decide)
  have lit : s.display.any = true := Grid.any_iff.2 ⟨0, 0, Grid.get_ofFn ..⟩
  have changed : clear.redraw ≠ s.redraw := by
    have asked : clear.redraw = (false || s.display.any) := rfl
    rw [asked, lit]
    decide
  have equal : (Fields.ofInt 0x5340).IsSkip := .inl (by decide)
  have undefined : (Fields.ofInt 0x8128).IsUndefined := .inr (.inl (by decide))
  obtain ⟨down, up⟩ := redraw changed
  exact ⟨memory, parts .memory memory, register, registers 3 register, changed, down, up, equal,
    (words_change_what_they_own s 0x5340).2.2.1 equal, undefined,
    (words_change_what_they_own s 0x8128).2.2.2.2 undefined⟩

end Chip8
