import Chip8.Pacing.Headless
import Chip8.Proofs.Refusal
import Mathlib.Algebra.Order.Interval.Finset.SuccPred
import Mathlib.Data.Finset.Lattice.Fold
import Mathlib.Data.Nat.SuccPred
import Mathlib.Data.Rat.Floor
import Mathlib.Order.Interval.Finset.Nat
import Mathlib.Order.Lattice.Nat

/-! Runs without a window as a sequence of steps and ticks. The ticks after each step bring their number
up to what belongs before the next step, and none is taken back where less belongs there. A run does what
this sequence does and stops at the step that is refused, if there is one. -/
namespace Chip8

/-- The ticks that have been made after the first steps when a number of them has been due after each. -/
def ticksMade (due : Nat → Int) (steps : Nat) : Nat :=
  (Finset.Icc 1 steps).sup fun k => (due k).toNat

theorem ticksMade_succ (due : Nat → Int) (steps : Nat) :
    ticksMade due (steps + 1) = max (ticksMade due steps) (due (steps + 1)).toNat := by
  rw [ticksMade, ← Finset.insert_Icc_right_eq_Icc_add_one (by omega), Finset.sup_insert, max_comm]
  rfl

namespace Operation

/-- Steps after the first ones, each with the ticks that are then missing. -/
def rounds (made : Nat → Nat) (steps : Nat) : Nat → List Operation
  | 0 => []
  | left + 1 =>
      .step :: List.replicate (made (steps + 1) - made steps) .tick ++ rounds made (steps + 1) left

variable {made : Nat → Nat}

theorem rounds_add (made : Nat → Nat) (steps first rest : Nat) :
    rounds made steps (first + rest) = rounds made steps first ++ rounds made (steps + first) rest := by
  induction first generalizing steps with
  | zero => rw [Nat.zero_add]; rfl
  | succ first ih =>
    rw [Nat.succ_add, rounds, ih, rounds, List.append_assoc, Nat.add_right_comm, Nat.add_assoc]

theorem step_or_tick_of_mem_rounds {steps left : Nat} {op : Operation}
    (among : op ∈ rounds made steps left) : op = .step ∨ op = .tick := by
  induction left generalizing steps with
  | zero => contradiction
  | succ left ih =>
    rcases List.mem_append.1 among with here | later
    · rcases List.mem_cons.1 here with step | tick
      · exact .inl step
      · exact .inr (List.eq_of_mem_replicate tick)
    · exact ih later

theorem count_step_rounds (made : Nat → Nat) (steps left : Nat) :
    (rounds made steps left).count .step = left := by
  induction left generalizing steps with
  | zero => rfl
  | succ left ih => simp [rounds, List.count_replicate, ih]

theorem count_tick_rounds (grows : Monotone made) (steps left : Nat) :
    made steps + (rounds made steps left).count .tick = made (steps + left) := by
  induction left generalizing steps with
  | zero => rfl
  | succ left ih =>
    have later : made steps ≤ made (steps + 1) := grows (Nat.le_succ steps)
    have ticks : (rounds made steps (left + 1)).count .tick =
        made (steps + 1) - made steps + (rounds made (steps + 1) left).count .tick := by
      simp [rounds]
    rw [ticks, ← Nat.add_assoc, Nat.add_sub_cancel' later, ih, Nat.add_right_comm, Nat.add_assoc]

end Operation

theorem monotone_ticksMade (due : Nat → Int) : Monotone (ticksMade due) :=
  monotone_nat_of_le_succ fun steps => by
    rw [ticksMade_succ]
    exact le_max_left _ _

theorem Operation.count_tick_rounds_start (due : Nat → Int) (steps : Nat) :
    (rounds (ticksMade due) 0 steps).count .tick = ticksMade due steps := by
  have ticks := count_tick_rounds (monotone_ticksMade due) 0 steps
  rw [Nat.zero_add] at ticks
  exact (Nat.zero_add _).symm.trans ticks

namespace Session
open Operation
variable {τ : Type} [Quantity τ] {s : Session} {r : Rates τ} {due : Nat → Int} {made : Nat → Nat}

theorem performAll_ticks (s : Session) (n : Nat) :
    (s.performAll (List.replicate n .tick)).2 = none := by
  induction n generalizing s with
  | zero => rfl
  | succ n ih => exact ih (s.perform .tick).1

/-- How a run ends that has done so many steps in all, or stops at an error. -/
def ended (steps : Nat) : Session × Option Error → Session × Except Error Nat
  | (s, none) => (s, .ok steps)
  | (s, some e) => (s, .error e)

theorem catchUp_eq (s : Session) (steps : Nat) :
    s.catchUp (ticksMade due steps) (due (steps + 1)) =
      ((s.performAll (List.replicate (ticksMade due (steps + 1) - ticksMade due steps) .tick)).1,
        ticksMade due (steps + 1)) := by
  have missing : (due (steps + 1) - ticksMade due steps).toNat =
      ticksMade due (steps + 1) - ticksMade due steps := by
    rw [ticksMade_succ]
    omega
  have total : ticksMade due steps + (ticksMade due (steps + 1) - ticksMade due steps) =
      ticksMade due (steps + 1) := by
    rw [ticksMade_succ]
    omega
  rw [catchUp, missing, total]

theorem performAll_step {t : Session} (stepped : s.perform .step = (t, none)) (ticks : Nat)
    (rest : List Operation) :
    s.performAll (.step :: List.replicate ticks .tick ++ rest) =
      (t.performAll (List.replicate ticks .tick)).1.performAll rest := by
  have first : s.performAll (.step :: List.replicate ticks .tick ++ rest) =
      t.performAll (List.replicate ticks .tick ++ rest) := by
    simp only [performAll, List.cons_append, runAll, stepped]
  rw [first]
  exact runAll_append_of_done (t.performAll_ticks ticks) rest

theorem performAll_step_of_error {t : Session} {e : Error} (refused : s.perform .step = (t, some e))
    (rest : List Operation) : s.performAll (.step :: rest) = (t, some e) := by
  simp only [performAll, runAll, refused]

theorem runFrom_eq (s : Session) (steps left : Nat)
    (finite : ∀ k, steps < k → k ≤ steps + left → r.ticksAfter k = .ok (due k)) :
    runFrom r s steps (ticksMade due steps) left =
      ended (steps + left) (s.performAll (rounds (ticksMade due) steps left)) := by
  induction left generalizing s steps with
  | zero => rfl
  | succ left ih =>
    have counted : r.ticksAfter (steps + 1) = .ok (due (steps + 1)) :=
      finite (steps + 1) (by omega) (by omega)
    rw [runFrom, rounds]
    cases stepped : s.perform .step with
    | mk t e? =>
      cases e? with
      | some e => rw [List.cons_append, performAll_step_of_error stepped]; rfl
      | none =>
        have rest := ih (t.catchUp (ticksMade due steps) (due (steps + 1))).1 (steps + 1)
          fun k after within => finite k (by omega) (by omega)
        rw [performAll_step stepped, counted, ← Nat.add_assoc, Nat.add_right_comm]
        simp only [catchUp_eq] at rest ⊢
        exact rest

theorem runHeadless_eq_ended {cycles : Int}
    (finite : ∀ k, 1 ≤ k → k ≤ cycles.toNat → r.ticksAfter k = .ok (due k)) :
    s.runHeadless r cycles =
      ended cycles.toNat (s.performAll (rounds (ticksMade due) 0 cycles.toNat)) := by
  have run := runFrom_eq s 0 cycles.toNat fun k first last => finite k first (by omega)
  rwa [Nat.zero_add] at run

/-- A sequence of rounds that fails has stopped at the first step that is refused. -/
theorem performAll_rounds_eq_some {n : Nat} {e : Error}
    (failed : (s.performAll (rounds made 0 n)).2 = some e) :
    ∃ k < n, (s.performAll (rounds made 0 k)).2 = none ∧
      ((s.performAll (rounds made 0 k)).1.perform .step).2 = some e := by
  induction n with
  | zero => contradiction
  | succ n ih =>
    rw [rounds_add, Nat.zero_add] at failed
    cases before : (s.performAll (rounds made 0 n)).2 with
    | some e' =>
      rw [performAll, runAll_append_of_failed before, ← performAll] at failed
      obtain ⟨k, earlier, refused⟩ := ih failed
      exact ⟨k, Nat.lt_succ_of_lt earlier, refused⟩
    | none =>
      refine ⟨n, Nat.lt_succ_self n, before, ?_⟩
      rw [performAll, runAll_append_of_done before, ← performAll, ← performAll] at failed
      cases stepped : (s.performAll (rounds made 0 n)).1.perform .step with
      | mk t e? =>
        cases e? with
        | none =>
          rw [rounds, performAll_step stepped] at failed
          contradiction
        | some e' =>
          rw [rounds, List.cons_append, performAll_step_of_error stepped] at failed
          exact failed

/-- A step that is refused ends a sequence of rounds. -/
theorem performAll_rounds_of_refused {k n : Nat} {e : Error} (within : k < n)
    (before : (s.performAll (rounds made 0 k)).2 = none)
    (refused : ((s.performAll (rounds made 0 k)).1.perform .step).2 = some e) :
    s.performAll (rounds made 0 n) = (s.performAll (rounds made 0 k)).1.perform .step := by
  obtain ⟨left, rfl⟩ := Nat.exists_eq_add_of_lt within
  rw [Nat.add_assoc, rounds_add, performAll, runAll_append_of_done before]
  exact (performAll_step_of_error (Prod.ext rfl refused) _).trans (Prod.ext rfl refused.symm)

/-- A run without a window performs the rounds of its steps, with the ticks due after each. It returns the
number of steps, or stops at the first step that is refused, with the machine that this step was tried
on. -/
theorem headless_run_performs_rounds (s : Session) (r : Rates τ) (cycles : Int) (due : Nat → Int)
    (finite : ∀ k, 1 ≤ k → k ≤ cycles.toNat → r.ticksAfter k = .ok (due k)) :
    let n := cycles.toNat
    let ops := rounds (ticksMade due) 0
    let after k := s.performAll (ops k)
    (∀ k, (∀ op ∈ ops k, op = .step ∨ op = .tick) ∧
        (ops k).count .step = k ∧ (ops k).count .tick = ticksMade due k) ∧
      (∀ k < n, ∃ rest, ops n = ops k ++ .step :: rest) ∧
      ((after n).2 = none → s.runHeadless r cycles = ((after n).1, .ok n)) ∧
      (∀ e, (after n).2 = some e ↔
        ∃ k < n, (after k).2 = none ∧ (after k).1.machine.step.error? = some e) ∧
      ∀ k < n, ∀ e, (after k).2 = none → (after k).1.machine.step.error? = some e →
        s.runHeadless r cycles = (((after k).1.perform .step).1, .error e) ∧
          (s.runHeadless r cycles).1.machine = (after k).1.machine := by
  intro n ops after
  have run : s.runHeadless r cycles = ended n (after n) := by
    have from_start := runFrom_eq s 0 n fun k first last => finite k first (by omega)
    rwa [Nat.zero_add] at from_start
  have refused {k : Nat} (within : k < n) {e : Error} (before : (after k).2 = none)
      (refused : (after k).1.machine.step.error? = some e) :
      after n = (((after k).1.perform .step).1, some e) :=
    (performAll_rounds_of_refused within before refused).trans (Prod.ext rfl refused)
  refine ⟨fun k => ⟨fun op => step_or_tick_of_mem_rounds, count_step_rounds _ _ _,
    count_tick_rounds_start due k⟩, fun k within => ?_, fun done => ?_,
    fun e => ⟨performAll_rounds_eq_some, ?_⟩, fun k within e before failed => ?_⟩
  · obtain ⟨left, here⟩ := Nat.exists_eq_add_of_lt within
    rw [here, Nat.add_assoc]
    exact ⟨_, rounds_add _ 0 k (left + 1)⟩
  · rw [run, ← Prod.eta (after n), done]
    rfl
  · rintro ⟨k, within, before, failed⟩
    exact congrArg Prod.snd (refused within before failed)
  · rw [run, refused within before failed]
    exact ⟨rfl, Machine.machine_apply_of_error failed⟩

/-- A machine whose second instruction returns from no call, at three ticks in two steps. -/
theorem headless_run_performs_rounds_returning :
    let m := ((Machine.powerOn default true default).load [0x60, 0x01, 0x00, 0xEE]).machine
    let r : Rates Rat := ⟨2, 3⟩
    let after := performAll { machine := m } [.step, .tick]
    let error := Error.fault ⟨.emptyStack, ⟨some 0x202, some 0x00EE⟩⟩
    (∀ k : Nat, 1 ≤ k → k ≤ 3 → r.ticksAfter k = .ok ⌊(k : Rat) * 3 / 2⌋) ∧
      after.2 = none ∧ after.1.machine.step.error? = some error ∧
      (runHeadless { machine := m } r 3).2 = .error error ∧
      (runHeadless { machine := m } r 3).1.machine = after.1.machine := by
  intro m r after error
  have finite (k : Nat) (_ : 1 ≤ k) (_ : k ≤ 3) : r.ticksAfter k = .ok ⌊(k : Rat) * 3 / 2⌋ := rfl
  have here : performAll { machine := m } (rounds (ticksMade fun k => ⌊(k : Rat) * 3 / 2⌋) 0 1) = after :=
    congrArg _ (by decide +kernel)
  have done : after.2 = none := by decide +kernel
  have refused : after.1.machine.step.error? = some error := by decide +kernel
  obtain ⟨_, _, _, _, stops⟩ := headless_run_performs_rounds { machine := m } r 3 _ finite
  obtain ⟨stopped, machine⟩ := stops 1 (by decide) error ((congrArg Prod.snd here).trans done)
    ((congrArg (·.1.machine.step.error?) here).trans refused)
  exact ⟨finite, done, refused, congrArg Prod.snd stopped,
    machine.trans (congrArg (·.1.machine) here)⟩

end Session
end Chip8
