import Chip8.Proofs.Addresses

/-! A call and the return that ends it. While the stack stays deeper than it was before the call, it
rests on the addresses from before and the one behind the call. So what takes it back to its old
depth is a return to the address behind the call, and nothing of the subroutine is left on it. -/
namespace Chip8

namespace CallStack

/-- The oldest addresses on a stack are the given ones. -/
def RestsOn (s : CallStack) (base : List UInt16) : Prop :=
  ∃ more, s = .ofList (base ++ more) ∧ (base ++ more).length ≤ stackSize

variable {s : CallStack} {base : List UInt16}

theorem RestsOn.length_le (rests : s.RestsOn base) : base.length ≤ stackSize := by
  obtain ⟨more, _, fits⟩ := rests
  rw [List.length_append] at fits
  exact Nat.le_of_add_right_le fits

theorem RestsOn.length_le_depth (rests : s.RestsOn base) : base.length ≤ s.depth := by
  obtain ⟨more, rfl, fits⟩ := rests
  rw [depth_ofList fits, List.length_append]
  omega

theorem RestsOn.isPrefix (rests : s.RestsOn base) : base <+: s.toList := by
  obtain ⟨more, rfl, fits⟩ := rests
  rw [toList_ofList fits]
  exact List.prefix_append base more

end CallStack

namespace Machine
variable {m n : Machine} {move : Move} {home : List UInt16} {back : UInt16}

/-- What ends a subroutine that was called on a stack of addresses: an accepted return to the
address behind the call, after which the stack is the one from before it. -/
structure Returns (m : Machine) (move : Move) (home : CallStack) (back : UInt16) : Prop where
  step : move = .perform .step
  accepted : m.step.error? = none
  ret : m.state.instruction = .ret
  pc : (m.move move).state.pc = back
  stack : (m.move move).state.stack = home

/-- In a subroutine a move either stays above the call or returns from it. -/
theorem rests_or_returns (rests : m.state.stack.RestsOn (home ++ [back]))
    (running : move ≠ .perform .reset) :
    (m.move move).state.stack.RestsOn (home ++ [back]) ∨ m.Returns move (.ofList home) back := by
  have moves := m.moves_move move
  generalize made : m.move move = n at moves
  cases moves with
  | reset => contradiction
  | host _ _ same =>
    have kept : n.state.stack = m.state.stack := same .stack (by decide)
    exact .inl (kept ▸ rests)
  | executed accepted =>
    obtain ⟨more, held, fits⟩ := rests
    obtain ⟨vs, left, shifts⟩ := shifts_of_accepted accepted held fits
    cases shifts with
    | kept => exact .inl ⟨more, left, fits⟩
    | call _ room =>
      rw [List.append_assoc] at left
      refine .inl ⟨_, left, ?_⟩
      rw [← List.append_assoc, List.length_append, List.length_singleton]
      exact room
    | @ret _ w returned split led =>
      obtain rfl | ⟨older, last, rfl⟩ := List.eq_nil_or_concat' more
      -- Nothing has been called since, so the address that is taken is the one behind the call.
      · rw [List.append_nil] at split
        obtain ⟨rfl, same⟩ := List.append_inj' split rfl
        have led : m.state.cycle.pc = back := led.trans (List.singleton_inj.1 same).symm
        have accepted := accepted_iff.2 ⟨_, accepted⟩
        exact .inr ⟨rfl, accepted, returned, by rw [made]; exact led, by rw [made]; exact left⟩
      · rw [← List.append_assoc] at split fits
        obtain ⟨rfl, _⟩ := List.append_inj' split rfl
        rw [List.length_append] at fits
        exact .inl ⟨older, left, Nat.le_of_add_right_le fits⟩

theorem returns_of_depth (rests : m.state.stack.RestsOn (home ++ [back]))
    (running : move ≠ .perform .reset)
    (same : (m.move move).state.stack.depth = home.length) : m.Returns move (.ofList home) back := by
  rcases rests_or_returns rests running with above | returns
  · have deeper := above.length_le_depth
    rw [same, List.length_append, List.length_singleton] at deeper
    omega
  · exact returns

theorem rests_moveAll {moves : List Move} (rests : m.state.stack.RestsOn (home ++ [back]))
    (running : .perform .reset ∉ moves)
    (deep : ∀ k ≤ moves.length, home.length < (m.moveAll (moves.take k)).state.stack.depth) :
    (m.moveAll moves).state.stack.RestsOn (home ++ [back]) := by
  induction moves generalizing m with
  | nil => exact rests
  | cons first later ih =>
    obtain ⟨other, running⟩ := List.ne_and_not_mem_of_not_mem_cons running
    rcases rests_or_returns rests other.symm with above | returns
    · exact ih above running fun k within => deep (k + 1) (Nat.succ_le_succ within)
    -- A return would have left the stack no deeper than before the call.
    · have room := rests.length_le
      rw [List.length_append] at room
      have deeper : home.length < (m.move first).state.stack.depth := deep 1 (Nat.le_add_left 1 _)
      rw [returns.stack, CallStack.depth_ofList (Nat.le_of_add_right_le room)] at deeper
      omega

theorem rests_of_call {word : Int} {target : Fin 4096} (accepted : m.acceptedWord = .ok word)
    (call : m.state.instruction = .call target) (held : m.state.stack = .ofList home)
    (fits : home.length ≤ stackSize) :
    m.step.machine.state.stack.RestsOn (home ++ [m.state.pc + 2]) := by
  have entered : m.step.machine = m.executed := by rw [step_of_accepted accepted]; rfl
  obtain ⟨vs, left, shifts⟩ := shifts_of_accepted accepted held fits
  rw [entered]
  cases shifts with
  | call _ room =>
    refine ⟨[], by rw [List.append_nil]; exact left, ?_⟩
    rw [List.append_nil, List.length_append, List.length_singleton]
    exact room
  | ret returned =>
    rw [call] at returned
    contradiction
  | kept _ other => exact absurd call (other target)

/-- After an accepted call, as long as no reset comes and the stack stays deeper than before, the
addresses from before and the one behind the call are its first. The move that takes it back to the
old depth is an accepted return, which leads behind the call and restores all of the stack. -/
theorem calls_return_home (reached : m.Reached) {target : Fin 4096} {during : List Move}
    (accepted : m.step.error? = none) (call : m.state.instruction = .call target)
    (running : .perform .reset ∉ during)
    (deep : ∀ k ≤ during.length,
      m.state.stack.depth < (m.step.machine.moveAll (during.take k)).state.stack.depth) :
    ∃ back : UInt16, back.toNat = m.state.pc.toNat + 2 ∧
      (∀ k ≤ during.length, m.state.stack.toList ++ [back] <+:
        (m.step.machine.moveAll (during.take k)).state.stack.toList) ∧
      ∀ last, last ≠ .perform .reset →
        let inside := m.step.machine.moveAll during
        (inside.move last).state.stack.depth = m.state.stack.depth →
        inside.Returns last m.state.stack back := by
  obtain ⟨home, held, fits, _⟩ := reached.contained.addresses
  obtain ⟨word, accepted⟩ := accepted_iff.1 accepted
  have within := within_of_accepted accepted
  have depth : m.state.stack.depth = home.length := by rw [held, CallStack.depth_ofList fits]
  rw [depth] at deep
  have rests (k : Nat) (upTo : k ≤ during.length) :
      (m.step.machine.moveAll (during.take k)).state.stack.RestsOn (home ++ [m.state.pc + 2]) := by
    have start := rests_of_call accepted call held fits
    refine rests_moveAll start (fun member => running (List.mem_of_mem_take member)) fun j _ => ?_
    rw [List.take_take]
    exact deep _ (Nat.le_trans (Nat.min_le_right _ _) upTo)
  refine ⟨m.state.pc + 2, State.toNat_pc_passWord within, fun k upTo => ?_, ?_⟩
  · rw [held, CallStack.toList_ofList fits]
    exact (rests k upTo).isPrefix
  · intro last other inside same
    have rests := rests during.length (Nat.le_refl _)
    rw [List.take_length] at rests
    rw [held]
    exact returns_of_depth rests other (same.trans depth)

/-- A subroutine at 0x206 that calls another one, with a tick in between, and returns to 0x202. -/
theorem calls_return_home_nested :
    let m := (powerOn default true default).moveAll
      [.perform (.load [0x22, 0x06, 0, 0, 0, 0, 0x22, 0x0A, 0x00, 0xEE, 0x00, 0xEE])]
    let during : List Move := [.perform .step, .perform .tick, .perform .step]
    m.step.error? = none ∧ m.state.instruction = .call 0x206 ∧ .perform .reset ∉ during ∧
      (∀ k ≤ during.length,
        m.state.stack.depth < (m.step.machine.moveAll (during.take k)).state.stack.depth) ∧
      ∃ back : UInt16, back.toNat = 0x202 ∧
        (m.step.machine.moveAll during).Returns (.perform .step) m.state.stack back := by
  intro m during
  have reached : m.Reached := ⟨_, _, _, _, rfl⟩
  have accepted : m.step.error? = none := by decide +kernel
  have call : m.state.instruction = .call 0x206 := by decide +kernel
  have running : .perform .reset ∉ during := by decide
  have deep : ∀ k ≤ during.length,
      m.state.stack.depth < (m.step.machine.moveAll (during.take k)).state.stack.depth := by
    decide +kernel
  obtain ⟨back, behind, _, returns⟩ := calls_return_home reached accepted call running deep
  have start : m.state.pc.toNat = 0x200 := by decide +kernel
  rw [start] at behind
  exact ⟨accepted, call, running, deep, back, behind,
    returns (.perform .step) (by decide) (by decide +kernel)⟩

end Machine
end Chip8
