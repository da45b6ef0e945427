import Chip8.Proofs.Journal
import Mathlib.Data.List.Basic

/-! Where the program counter goes and which return addresses are on the stack. The stack is taken as
the list of its addresses, so that the slots above the pointer are zero throughout. -/
namespace Chip8

namespace State
variable {s : State}

/-- Whether an instruction passes over the next word. -/
def skips (s : State) : Instruction → Bool
  | .skipEqByte x b => s.registers.get x == b
  | .skipNeByte x b => s.registers.get x != b
  | .skipEq x y => s.registers.get x == s.registers.get y
  | .skipNe x y => s.registers.get x != s.registers.get y
  | .skipHeld x => s.keypad.holdsCode (s.registers.get x)
  | .skipReleased x => !s.keypad.holdsCode (s.registers.get x)
  | _ => false

/-- Where an instruction at the program counter leads, by sums that have no bound. -/
def destination (s : State) : Instruction → Nat
  | .ret => s.stack.top.toNat
  | .jump target | .call target => target
  | .jumpOffset target => target + (s.registers.get Reg.first).toNat
  | .misc .awaitKey _ =>
      if s.keypad.lowest?.isSome then s.pc.toNat + 2 else s.pc.toNat + 2 - 2
  | i => if s.skips i then s.pc.toNat + 2 + 2 else s.pc.toNat + 2

theorem toNat_pc_passWord (within : s.pc.toNat + 1 < memorySize) :
    s.passWord.pc.toNat = s.pc.toNat + 2 := by
  unfold memorySize at within
  rw [passWord, UInt16.toNat_add]
  simp only [UInt16.reduceToNat]
  omega

theorem toNat_pc_skipIf (room : s.pc.toNat + 2 < 0x10000) (condition : Bool) :
    (s.skipIf condition).pc.toNat = if condition then s.pc.toNat + 2 else s.pc.toNat := by
  rw [skipIf_eq]
  cases condition with
  | false => rfl
  | true =>
    simp only [if_true, UInt16.toNat_add, UInt16.reduceToNat]
    omega

theorem toNat_pc_awaitKey (low : 2 ≤ s.pc.toNat) (x : Reg) :
    (s.awaitKey x).pc.toNat =
      if s.keypad.lowest?.isSome then s.pc.toNat else s.pc.toNat - 2 := by
  rw [awaitKey_eq]
  cases s.keypad.lowest? with
  | some key => rfl
  | none =>
    have back : (2 : UInt16) ≤ s.pc := low
    simp only [Option.isSome_none, Bool.false_eq_true, if_false, UInt16.toNat_sub_of_le _ _ back,
      UInt16.reduceToNat]

theorem toNat_pc_jump {target : Nat} (room : target < 0x10000) :
    (s.jump target).pc.toNat = target := by
  simp only [jump, UInt16.toNat_ofNat']
  exact Nat.mod_eq_of_lt room

/-- From an address where a word can be fetched no sum goes round. -/
theorem toNat_pc_execute (within : s.pc.toNat + 1 < memorySize) (i : Instruction) :
    (s.passWord.execute i).pc.toNat = s.destination i := by
  have past : s.passWord.pc.toNat = s.pc.toNat + 2 := toNat_pc_passWord within
  unfold memorySize at within
  have onward (unwritten : .pc ∉ i.writes) : (s.passWord.execute i).pc.toNat = s.pc.toNat + 2 := by
    have kept : (s.passWord.execute i).pc = s.passWord.pc :=
      execute_unwritten (p := .pc) s.passWord i unwritten
    rw [kept, past]
  have skipped (condition : Bool) : (s.passWord.skipIf condition).pc.toNat =
      if condition then s.pc.toNat + 2 + 2 else s.pc.toNat + 2 := by
    rw [toNat_pc_skipIf (by omega), past]
  cases i with
  | ret => rfl
  | jump target | call target => exact toNat_pc_jump (by omega)
  | jumpOffset target =>
    have offset : (s.registers.get Reg.first).toNat < 256 := UInt8.toNat_lt _
    exact toNat_pc_jump (by simp only [passWord]; omega)
  | skipEqByte | skipNeByte | skipEq | skipNe | skipHeld | skipReleased => exact skipped _
  | misc op x =>
    cases op with
    | awaitKey =>
      have waited := toNat_pc_awaitKey (s := s.passWord) (by omega) x
      rw [past] at waited
      exact waited
    | _ => exact onward (by simp [Instruction.writes, MiscOp.writes])
  | clear | setByte | addByte | alu | setIndex | random | draw | unknownMisc | ignored =>
    exact onward (by simp [Instruction.writes])

theorem destination_le (within : s.pc.toNat + 1 < memorySize) {i : Instruction} (other : i ≠ .ret) :
    s.destination i ≤ 0x10FE := by
  unfold memorySize at within
  have onward : (if s.skips i then s.pc.toNat + 2 + 2 else s.pc.toNat + 2) ≤ 0x10FE := by
    split <;> omega
  cases i with
  | ret => contradiction
  | jump target | call target =>
    have bound : target.val < 4096 := target.isLt
    simp only [destination]
    omega
  | jumpOffset target =>
    have offset : (s.registers.get Reg.first).toNat < 256 := UInt8.toNat_lt _
    simp only [destination]
    omega
  | misc op x =>
    cases op with
    | awaitKey =>
      simp only [destination]
      split <;> omega
    | _ => exact onward
  | _ => exact onward

/-- How an instruction that runs on a stack of addresses leaves them, the oldest first. -/
inductive Shifts (s : State) (ws : List UInt16) : List UInt16 → Prop where
  | call {target : Fin 4096} : s.instruction = .call target → ws.length < stackSize →
      Shifts s ws (ws ++ [s.pc + 2])
  | ret {rest : List UInt16} {w : UInt16} : s.instruction = .ret → ws = rest ++ [w] →
      s.cycle.pc = w → Shifts s ws rest
  | kept : s.instruction ≠ .ret → (∀ target, s.instruction ≠ .call target) → Shifts s ws ws

theorem stack_cycle_of_unwritten (unwritten : .stack ∉ s.instruction.writes) :
    s.cycle.stack = s.stack :=
  execute_unwritten (p := .stack) s.passWord s.instruction unwritten

end State

namespace Machine
variable {m : Machine} {word : Int}

theorem shifts_of_accepted {ws : List UInt16} (accepted : m.acceptedWord = .ok word)
    (held : m.state.stack = .ofList ws) (fits : ws.length ≤ stackSize) :
    ∃ vs, m.state.cycle.stack = .ofList vs ∧ m.state.Shifts ws vs := by
  have checked := stackRefusal?_of_accepted accepted
  have depth : m.state.stack.depth = ws.length := by rw [held, CallStack.depth_ofList fits]
  have kept (unwritten : .stack ∉ m.state.instruction.writes) : m.state.cycle.stack = .ofList ws :=
    (State.stack_cycle_of_unwritten unwritten).trans held
  cases i : m.state.instruction with
  | call target =>
    have room : ws.length < stackSize := by
      simpa [i, Instruction.stackRefusal?, depth] using checked
    refine ⟨_, ?_, .call i room⟩
    rw [← CallStack.push_ofList _ room, ← held, State.cycle_eq, i]
    rfl
  | ret =>
    obtain rfl | ⟨rest, w, rfl⟩ := List.eq_nil_or_concat' ws
    · simp [i, Instruction.stackRefusal?, depth] at checked
    have room : rest.length < stackSize := by
      rw [List.length_append, List.length_singleton] at fits
      omega
    refine ⟨rest, ?_, .ret i rfl ?_⟩
    · rw [← CallStack.pop_ofList w room, ← held, State.cycle_eq, i]
      rfl
    · rw [← CallStack.top_ofList w room, ← held, State.cycle_eq, i]
      rfl
  | misc op x =>
    have apart : .stack ∉ op.writes := by cases op <;> decide
    exact ⟨ws, kept (by rwa [i, Instruction.writes]), .kept (by simp [i]) (by simp [i])⟩
  | _ =>
    exact ⟨ws, kept (by simp [i, Instruction.writes]), .kept (by simp [i]) (by simp [i])⟩

end Machine

/-- The return addresses point behind calls, and the program counter is where an instruction can
lead. -/
structure State.Contained (s : State) : Prop where
  addresses : ∃ ws, s.stack = .ofList ws ∧ ws.length ≤ stackSize ∧
    ∀ w ∈ ws, 2 ≤ w.toNat ∧ w.toNat ≤ memorySize
  pc : s.pc.toNat ≤ 0x10FE

namespace State

theorem contained_powerOn (seed : Seed) : (powerOn seed).Contained where
  addresses := ⟨[], rfl, by decide, nofun⟩
  pc := by
    simp only [powerOn]
    decide

theorem Contained.congr {s t : State} (contained : s.Contained) (stack : t.stack = s.stack)
    (pc : t.pc = s.pc) : t.Contained where
  addresses := stack ▸ contained.addresses
  pc := pc ▸ contained.pc

end State

namespace Machine
variable {m : Machine}

theorem contained_executed {word : Int} (contained : m.state.Contained)
    (accepted : m.acceptedWord = .ok word) : m.executed.state.Contained := by
  have within := within_of_accepted accepted
  have pc : m.state.cycle.pc.toNat = m.state.destination m.state.instruction :=
    State.toNat_pc_execute within m.state.instruction
  obtain ⟨ws, held, fits, inside⟩ := contained.addresses
  obtain ⟨vs, left, shifts⟩ := shifts_of_accepted accepted held fits
  cases shifts with
  | call called room =>
    have behind : (m.state.pc + 2).toNat = m.state.pc.toNat + 2 := State.toNat_pc_passWord within
    refine ⟨⟨_, left, ?_, fun w member => ?_⟩, ?_⟩
    · rw [List.length_append, List.length_singleton]
      exact room
    · rcases List.mem_append.1 member with older | new
      · exact inside w older
      · rw [List.mem_singleton.1 new, behind]
        omega
    · exact Nat.le_trans (Nat.le_of_eq pc) (State.destination_le within (by simp [called]))
  | @ret _ w returned split led =>
    subst split
    refine ⟨⟨vs, left, ?_, fun v member => ?_⟩, ?_⟩
    · rw [List.length_append] at fits
      omega
    · exact inside v (List.mem_append_left _ member)
    · have bound : w.toNat ≤ 0x1000 := (inside w (by simp)).2
      have home : m.executed.state.pc = w := led
      rw [home]
      omega
  | kept other =>
    have below := State.destination_le within other
    exact ⟨⟨ws, left, fits, inside⟩, Nat.le_trans (Nat.le_of_eq pc) below⟩

theorem Moves.contained {move : Move} {n : Machine} (moves : m.Moves move n)
    (contained : m.state.Contained) : n.state.Contained := by
  cases moves with
  | executed accepted => exact contained_executed contained accepted
  | reset => exact (State.contained_powerOn m.seed).congr rfl rfl
  | host _ _ same => exact contained.congr (same .stack (by decide)) (same .pc (by decide))

theorem Reached.contained (reached : m.Reached) : m.state.Contained :=
  reached.invariant (fun seed _ _ => State.contained_powerOn seed) Moves.contained

end Machine
end Chip8
