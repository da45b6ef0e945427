import Chip8.Admission
import Chip8.Execution
import Chip8.Proofs.Decoding
import Mathlib.Data.List.GetD

/-! Block transfers of registers go through a window of sixteen bytes that may reach past the end
of memory. Only the bytes up to the last register count, so loading a block undoes storing it. -/
namespace Chip8

/-- A block from an address on is all that changes, as far as it lies in memory. -/
theorem Memory.get_writeBlock (m : Memory) (address : Nat) (block : List UInt8) (a : Fin memorySize) :
    (m.writeBlock address block).bytes[a] =
      if address ≤ a then block.getD (a - address) m.bytes[a] else m.bytes[a] := by
  have read (n : Memory) : n.bytes[a] = n.read a := (n.read_eq_getElem a.isLt).symm
  rw [read, read, m.read_writeBlock address block a.isLt]

theorem Registers.getD_upTo (v : Registers) (last : Reg) (k : Nat) (b : UInt8) :
    (v.upTo last).getD k b = if h : k ≤ last.val then v.get ⟨k, by omega⟩ else b := by
  by_cases within : k ≤ last
  · have within' : k < (v.upTo last).length := by rw [Registers.length_upTo]; omega
    rw [List.getD_eq_getElem _ _ within', Registers.getElem_upTo, dif_pos within]
  · rw [List.getD_eq_default _ _ (by rw [Registers.length_upTo]; omega), dif_neg within]

namespace State
variable (s : State)

theorem get_window (r : Reg) : s.window.get r = s.memory.read (s.index.toNat + r) :=
  Registers.get_ofFn ..

/-- Rewriting the rest of the window with what was read there stores no more than the registers,
also where reads repeat the last byte, since writes there are dropped. -/
theorem storeRegisters_eq (last : Reg) :
    s.storeRegisters last = s.storeBlock (s.registers.upTo last) := by
  suffices same : (s.storeRegisters last).memory = (s.storeBlock (s.registers.upTo last)).memory by
    calc s.storeRegisters last = { s with memory := (s.storeRegisters last).memory } := rfl
      _ = s.storeBlock (s.registers.upTo last) := by rw [same]; rfl
  refine Memory.ext_read fun a within => ?_
  simp only [storeRegisters, storeBlock, Memory.read_writeBlock _ _ _ within]
  by_cases after : s.index.toNat ≤ a
  · obtain ⟨k, rfl⟩ := Nat.exists_eq_add_of_le after
    simp only [after, if_true, Nat.add_sub_cancel_left, Registers.getD_upTo]
    by_cases inside : k < 16
    · rw [List.getD_eq_getElem _ _ (by simpa using inside), List.getElem_ofFn]
      by_cases stored : k ≤ last
      · rw [dif_pos stored]
        exact if_pos stored
      -- This byte is in memory, so what was read there is the byte itself.
      · rw [dif_neg stored, ← get_window s ⟨k, inside⟩]
        exact if_neg stored
    · rw [List.getD_eq_default _ _ (by simpa using inside), dif_neg (by omega)]
  · simp only [after, if_false]

theorem get_storeRegisters (last : Reg) (a : Fin memorySize) :
    (s.storeRegisters last).memory.bytes[a] =
      if h : s.index.toNat ≤ a ∧ a ≤ s.index.toNat + last then
        s.registers.get ⟨a - s.index.toNat, by omega⟩
      else s.memory.bytes[a] := by
  rw [storeRegisters_eq, storeBlock, Memory.get_writeBlock, Registers.getD_upTo]
  by_cases after : s.index.toNat ≤ a
  · by_cases within : a ≤ s.index.toNat + last
    · rw [if_pos after, dif_pos (by omega), dif_pos ⟨after, within⟩]
    · rw [if_pos after, dif_neg (by omega), dif_neg (by omega)]
  · rw [if_neg after, dif_neg (by omega)]

theorem index_storeRegisters (last : Reg) : (s.storeRegisters last).index = s.index := by
  simp only [storeRegisters, storeBlock]

/-- Where a block of registers lies in memory, each of its bytes reads back as the register. -/
theorem read_storeRegisters {last r : Reg} (stored : r ≤ last)
    (fits : s.index.toNat + last ≤ lastAddress) :
    (s.storeRegisters last).memory.read (s.index.toNat + r) = s.registers.get r := by
  have below : r.val ≤ last := stored
  have within : s.index.toNat + r < memorySize := by
    unfold lastAddress memorySize at *
    omega
  have covered : s.index.toNat ≤ s.index.toNat + r ∧ s.index.toNat + r ≤ s.index.toNat + last := by
    omega
  have place : (s.storeRegisters last).memory.bytes[s.index.toNat + r] = _ :=
    s.get_storeRegisters last ⟨s.index.toNat + r, within⟩
  rw [Memory.read_eq_getElem _ within, place, dif_pos covered]
  simp only [Nat.add_sub_cancel_left]

theorem get_loadRegisters (last r : Reg) :
    (s.loadRegisters last).registers.get r =
      if r ≤ last then s.memory.read (s.index.toNat + r) else s.registers.get r := by
  rw [loadRegisters, Registers.get_ofFn, get_window]

theorem memory_loadRegisters (last : Reg) : (s.loadRegisters last).memory = s.memory := by
  simp only [loadRegisters]

theorem index_loadRegisters (last : Reg) : (s.loadRegisters last).index = s.index := by
  simp only [loadRegisters]

/-- Storing registers that hold what memory has there changes nothing. -/
theorem storeRegisters_eq_self {last : Reg}
    (same : ∀ r ≤ last, s.registers.get r = s.memory.read (s.index.toNat + r)) :
    s.storeRegisters last = s := by
  have memory : (s.storeRegisters last).memory = s.memory := by
    refine Memory.ext_read fun a within => ?_
    have place : (s.storeRegisters last).memory.bytes[a] = _ := s.get_storeRegisters last ⟨a, within⟩
    rw [Memory.read_eq_getElem _ within, place]
    split
    · next covered =>
      obtain ⟨k, rfl⟩ := Nat.exists_eq_add_of_le covered.1
      have stored : k ≤ last := Nat.le_of_add_le_add_left covered.2
      simp only [Nat.add_sub_cancel_left]
      exact same ⟨k, by omega⟩ stored
    · exact (Memory.read_eq_getElem _ within).symm
  calc s.storeRegisters last = { s with memory := (s.storeRegisters last).memory } := rfl
    _ = s := by rw [memory]

/-- A strict machine lets a block of registers pass if it ends in memory at the latest. -/
theorem refusal?_registers {i : Instruction} {last : Reg}
    (block : i = .misc .storeRegisters last ∨ i = .misc .loadRegisters last) :
    i.refusal? s true = none ↔ s.index.toNat + last ≤ lastAddress := by
  have length : i.blockLength = last + 1 := by
    rcases block with rfl | rfl <;> rfl
  have unstacked : i.stackRefusal? s = none := by
    rcases block with rfl | rfl <;> rfl
  have inside : ¬ (0 < last.val + 1 ∧ memorySize < s.index.toNat + (last.val + 1)) ↔
      s.index.toNat + last ≤ lastAddress := by
    unfold lastAddress memorySize
    omega
  rw [← inside, Instruction.refusal?, unstacked, Option.none_or, if_pos rfl, Instruction.blockRefusal?,
    length, ite_eq_right_iff]
  simp

theorem storeBlock_elsewhere (block : List UInt8) : { s.storeBlock block with memory := s.memory } = s := rfl

theorem get_storeBlock_three (first second third : UInt8) (a : Fin memorySize) :
    (s.storeBlock [first, second, third]).memory.bytes[a] =
      if a = s.index.toNat then first else if a = s.index.toNat + 1 then second
      else if a = s.index.toNat + 2 then third else s.memory.bytes[a] := by
  rw [storeBlock, Memory.get_writeBlock]
  by_cases after : s.index.toNat ≤ a
  · obtain ⟨k, place⟩ := Nat.exists_eq_add_of_le after
    have distance : a - s.index.toNat = k := by omega
    rw [if_pos after, distance]
    match k with
    | 0 | 1 | 2 => simp [place]
    | k + 3 => simp [place]
  · rw [if_neg after, if_neg (by omega), if_neg (by omega), if_neg (by omega)]

/-- A byte has at most three decimal digits. -/
theorem decimalDigits_spec (b : UInt8) : ∃ hundreds tens ones : UInt8,
    decimalDigits b = [hundreds, tens, ones] ∧ hundreds ≤ 9 ∧ tens ≤ 9 ∧ ones ≤ 9 ∧
      100 * hundreds.toNat + 10 * tens.toNat + ones.toNat = b.toNat := by
  have small : b.toNat < 256 := b.toNat_lt
  refine ⟨b / 100, b / 10 % 10, b % 10, rfl, ?_, ?_, ?_, ?_⟩
  all_goals simp [UInt8.le_iff_toNat_le]; omega

end State

/-- Blocks of registers and of decimal digits change the bytes that they are stored in and nothing else,
wherever `index` points. Registers up to `x` go to the bytes from there on, as far as there are any, and
so do the hundreds, tens and ones of register `x`. -/
theorem block_stores_write_their_bytes (s : State) (x : Reg) :
    let stored := s.execute (.ofInt (wordOf 0xF x 5 5))
    let decimal := s.execute (.ofInt (wordOf 0xF x 3 3))
    let first := s.index.toNat
    (∀ a : Fin memorySize, stored.memory.bytes[a] =
      if h : first ≤ a ∧ a ≤ first + x then s.registers.get ⟨a - first, by omega⟩
      else s.memory.bytes[a]) ∧
    { stored with memory := s.memory } = s ∧
    (∃ hundreds tens ones : UInt8, hundreds ≤ 9 ∧ tens ≤ 9 ∧ ones ≤ 9 ∧
      100 * hundreds.toNat + 10 * tens.toNat + ones.toNat = (s.registers.get x).toNat ∧
      ∀ a : Fin memorySize, decimal.memory.bytes[a] =
        if a = first then hundreds else if a = first + 1 then tens
        else if a = first + 2 then ones else s.memory.bytes[a]) ∧
    { decimal with memory := s.memory } = s := by
  intro stored decimal first
  have stored_eq : stored = s.storeRegisters x :=
    congrArg s.execute (Instruction.ofInt_wordOf_misc .storeRegisters x rfl)
  have decimal_eq : decimal = s.storeBlock (State.decimalDigits (s.registers.get x)) :=
    congrArg s.execute (Instruction.ofInt_wordOf_misc .storeDecimal x rfl)
  obtain ⟨hundreds, tens, ones, digits, small, small', small'', value⟩ :=
    State.decimalDigits_spec (s.registers.get x)
  rw [stored_eq, decimal_eq, digits]
  exact ⟨s.get_storeRegisters x, s.storeBlock_elsewhere _,
    ⟨hundreds, tens, ones, small, small', small'', value, s.get_storeBlock_three hundreds tens ones⟩,
    s.storeBlock_elsewhere _⟩

/-- A strict machine lets a block of registers pass if it ends in memory at the latest. Then loading it
undoes storing it: the registers up to `x` get back what they had, whatever has become of the registers
meanwhile, and the others stay. The other way round, a block that was just loaded is stored without any
effect. -/
theorem loading_undoes_storing (s : State) (x : Reg) :
    let store := Instruction.ofInt (wordOf 0xF x 5 5)
    let load := Instruction.ofInt (wordOf 0xF x 6 5)
    (store.refusal? s true = none ↔ s.index.toNat + x ≤ lastAddress) ∧
    (load.refusal? s true = none ↔ s.index.toNat + x ≤ lastAddress) ∧
    (s.index.toNat + x ≤ lastAddress → ∀ t : State,
      t.memory = (s.execute store).memory → t.index = (s.execute store).index →
      (∀ r, (t.execute load).registers.get r =
        if r ≤ x then s.registers.get r else t.registers.get r) ∧
      (t.execute load).memory = (s.execute store).memory ∧
      (t.execute load).index = (s.execute store).index) ∧
    (∀ t : State, t.memory = s.memory → t.index = s.index →
      (∀ r ≤ x, t.registers.get r = (s.execute load).registers.get r) → t.execute store = t) := by
  intro store load
  have store_eq : store = .misc .storeRegisters x :=
    Instruction.ofInt_wordOf_misc .storeRegisters x rfl
  have load_eq : load = .misc .loadRegisters x := Instruction.ofInt_wordOf_misc .loadRegisters x rfl
  have stored (t : State) : t.execute store = t.storeRegisters x := congrArg t.execute store_eq
  have loaded (t : State) : t.execute load = t.loadRegisters x := congrArg t.execute load_eq
  simp only [stored, loaded]
  refine ⟨s.refusal?_registers (.inl store_eq), s.refusal?_registers (.inr load_eq), ?_, ?_⟩
  · intro fits t memory index
    refine ⟨fun r => ?_, (t.memory_loadRegisters x).trans memory, (t.index_loadRegisters x).trans index⟩
    rw [State.get_loadRegisters, memory, index, s.index_storeRegisters]
    by_cases inside : r ≤ x
    · rw [if_pos inside, if_pos inside]
      exact s.read_storeRegisters inside fits
    · rw [if_neg inside, if_neg inside]
  · intro t memory index same
    refine t.storeRegisters_eq_self fun r inside => ?_
    rw [same r inside, State.get_loadRegisters, if_pos inside, memory, index]

/-- Three registers stored in the last three bytes of memory, and loaded after all sixteen have gone to
zero. -/
theorem loading_undoes_storing_last_bytes :
    let s : State :=
      { State.powerOn default with
        index := 0xFFD
        registers := .ofFn fun r => UInt8.ofNat (r + 7) }
    let stored := s.execute (.ofInt (wordOf 0xF 2 5 5))
    let t : State := { stored with registers := .zero }
    let loaded := t.execute (.ofInt (wordOf 0xF 2 6 5))
    s.index.toNat + (2 : Reg).val = lastAddress ∧ t.memory = stored.memory ∧ t.index = stored.index ∧
      (∀ r, loaded.registers.get r = if r ≤ 2 then UInt8.ofNat (r + 7) else 0) ∧
      loaded.memory = stored.memory := by
  intro s stored t loaded
  have last : s.index.toNat + (2 : Reg).val = lastAddress := by decide
  obtain ⟨registers, memory, _⟩ :=
    (loading_undoes_storing s 2).2.2.1 (Nat.le_of_eq last) t rfl rfl
  refine ⟨last, rfl, rfl, fun r => ?_, memory⟩
  rw [registers r, Registers.get_ofFn]
  simp [t, Registers.get, Registers.zero]

end Chip8
