import Chip8.Proofs.Addresses
import Chip8.Proofs.Afterimage

/-! What holds of a machine between operations, whatever a host has done to it since power-on. -/
namespace Chip8

theorem State.Contained.depth {s : State} (contained : s.Contained) :
    0 ≤ s.stack.depth ∧ s.stack.depth ≤ stackSize := by
  obtain ⟨ws, held, fits, _⟩ := contained.addresses
  rw [held, CallStack.depth_ofList fits]
  omega

theorem State.Contained.slot {s : State} (contained : s.Contained) (i : Fin stackSize) :
    if i < s.stack.depth then
      2 ≤ (s.stack.slots.get i).toNat ∧ (s.stack.slots.get i).toNat ≤ memorySize
    else s.stack.slots.get i = 0 := by
  obtain ⟨ws, held, fits, inside⟩ := contained.addresses
  have slot : s.stack.slots.get i = ws[i.val]?.getD 0 := by
    rw [held]
    exact CallStack.getElem_slots_ofList i.isLt
  rw [slot, held, CallStack.depth_ofList fits]
  by_cases used : i.val < ws.length
  · rw [if_pos (Int.ofNat_lt.2 used), List.getElem?_eq_getElem used]
    exact inside _ (List.getElem_mem used)
  · rw [if_neg (by omega), List.getElem?_eq_none (Nat.le_of_not_lt used)]
    rfl

namespace Machine
variable {m n : Machine} {move : Move}

/-- A tone that an instruction asks for has been handed out when its step is over. -/
theorem Moves.tone (moves : m.Moves move n) (silent : m.state.tone = none) :
    n.state.tone = none := by
  cases moves with
  | executed => rfl
  | reset => rfl
  | host _ _ same =>
    have kept : n.state.tone = m.state.tone := same .tone (by decide)
    rw [kept, silent]

theorem Moves.count (moves : m.Moves move n) {journal : Journal} (counted : m.count = journal.length) :
    n.count = (m.record journal move).length := by
  cases moves with
  | executed accepted => rw [record_step accepted, List.length_cons, ← counted]; rfl
  | reset => rfl
  | host _ unrecorded _ same => rw [unrecorded, same, counted]

theorem Reached.tone (reached : m.Reached) : m.state.tone = none :=
  reached.invariant (fun _ _ _ => rfl) Moves.tone

end Machine

theorem Recorded.count_run (seed : Seed) (strict : Bool) (observer : Observer)
    (moves : List Move) :
    ((start (Machine.powerOn seed strict observer)).run moves).now.count =
      ((start (Machine.powerOn seed strict observer)).run moves).journal.length :=
  run_invariant (P := fun r => r.now.count = r.journal.length) rfl
    (fun step counted => step.count counted) moves

/-- Between operations the stack holds at most sixteen addresses, all of them behind calls, with
zeros above them. The program counter stays where instructions can lead, and no sum that gives it
goes round. No tone is left over, cells are marked in the last sprite only, and the count is that of
the accepted steps since the last reset. -/
theorem machine_stays_in_bounds (seed : Seed) (strict : Bool) (observer : Observer)
    (moves : List Move) :
    let r := (Recorded.start (Machine.powerOn seed strict observer)).run moves
    let s := r.now.state
    (0 ≤ s.stack.depth ∧ s.stack.depth ≤ stackSize) ∧
      (∀ i : Fin stackSize,
        if i < s.stack.depth then
          2 ≤ (s.stack.slots.get i).toNat ∧ (s.stack.slots.get i).toNat ≤ memorySize
        else s.stack.slots.get i = 0) ∧
      s.pc.toNat ≤ 0x10FE ∧
      (∀ word, r.now.acceptedWord = .ok word →
        s.passWord.pc.toNat = s.pc.toNat + 2 ∧ s.cycle.pc.toNat = s.destination (.ofInt word)) ∧
      s.tone = none ∧
      (∀ x y, s.pending.get x y = true → ∃ sprite, r.journal.lastSprite? = some sprite ∧
        ∃ column < Sprite.width, ∃ row < sprite.height.val,
          x.val = (sprite.x.toNat + column) % 64 ∧ y.val = (sprite.y.toNat + row) % 32) ∧
      r.now.count = r.journal.length := by
  intro r s
  have reached : r.now.Reached := Recorded.reached_run seed strict observer moves
  have contained : s.Contained := reached.contained
  have marks : r.journal.Marks s := kept_marks.run seed strict observer moves
  refine ⟨contained.depth, contained.slot, contained.pc, fun word accepted => ?_,
    reached.tone, fun x y marked => ?_, Recorded.count_run seed strict observer moves⟩
  · have within := Machine.within_of_accepted accepted
    rw [Machine.instruction_of_accepted accepted]
    exact ⟨State.toNat_pc_passWord within, State.toNat_pc_execute within s.instruction⟩
  · obtain ⟨sprite, last, covered⟩ := marks x y marked
    exact ⟨sprite, last, Sprite.covers_iff.1 covered⟩

end Chip8
