import Chip8.Proofs.Rounds
import Chip8.Proofs.Stall

/-! How many ticks a program sees in a number of instructions, in exact arithmetic. A window derives both
counts from the clock, and a run without one derives its ticks from the instructions. The window has both
counts from one reading, the furthest, and that leaves it at most one tick ahead. -/
namespace Chip8

namespace Scheduler
variable {cpu timer lag since last : Rat}

/-- What has been handed out is what belongs before one reading, for instructions as for ticks. -/
def Abreast (cpu timer lag : Rat) (s : Scheduler Rat) : Prop :=
  ∃ since last, since ≤ last ∧ s = caughtUp cpu timer lag since last

theorem abreast_resync {s : Scheduler Rat} (abreast : s.Abreast cpu timer lag) (now : Rat) :
    (s.resync now).Abreast cpu timer lag := by
  obtain ⟨since, last, _, caught⟩ := abreast
  refine ⟨now, now, le_rfl, ?_⟩
  rw [caughtUp_self, caught]
  rfl

end Scheduler

namespace Tally
open Scheduler
variable {r : Tally Rat} {cpu timer lag : Rat}

theorem abreast_advance (cpuNonneg : 0 ≤ cpu) (timerNonneg : 0 ≤ timer)
    (abreast : r.scheduler.Abreast cpu timer lag) (now : Rat) :
    (r.advance now).scheduler.Abreast cpu timer lag := by
  cases dropped : r.scheduler.drops now with
  | true =>
    have answered : r.scheduler.advance now = .ok (r.scheduler.resync now, ⟨0, 0⟩) := by
      rw [advance_of_counts rfl rfl, dropped, if_pos rfl]
    rw [advance_of_dropped answered dropped]
    exact abreast_resync abreast now
  | false =>
    obtain ⟨since, last, forward, caught⟩ := abreast
    exact ⟨since, max last now, le_max_of_le_left forward,
      scheduler_advance_of_kept cpuNonneg timerNonneg caught dropped⟩

theorem abreast_run (cpuNonneg : 0 ≤ cpu) (timerNonneg : 0 ≤ timer)
    (abreast : r.scheduler.Abreast cpu timer lag) (calls : List (Scheduler.Call Rat)) :
    (r.run calls).scheduler.Abreast cpu timer lag := by
  refine List.foldlRecOn (motive := fun r => r.scheduler.Abreast cpu timer lag) calls Tally.call abreast ?_
  intro r abreast c _
  cases c with
  | advance now => exact abreast_advance cpuNonneg timerNonneg abreast now
  | resync now => exact abreast_resync abreast now

end Tally

/-- A count of ticks from whole instructions lacks at most the tick that falls due in the instruction that
has begun, as an instruction takes no longer than a tick. -/
theorem floor_mul_eq_or {cpu timer : Rat} (cpuPositive : 0 < cpu) (timerNonneg : 0 ≤ timer)
    (slower : timer ≤ cpu) (elapsed : Rat) :
    ⌊elapsed * timer⌋ = ⌊⌊elapsed * cpu⌋ * timer / cpu⌋ ∨
      ⌊elapsed * timer⌋ = ⌊⌊elapsed * cpu⌋ * timer / cpu⌋ + 1 := by
  have exact : elapsed * timer = elapsed * cpu * timer / cpu := by field_simp
  have least : ⌊⌊elapsed * cpu⌋ * timer / cpu⌋ ≤ ⌊elapsed * timer⌋ := by
    rw [exact]
    gcongr
    exact Int.floor_le _
  have most : ⌊elapsed * timer⌋ ≤ ⌊⌊elapsed * cpu⌋ * timer / cpu⌋ + 1 := by
    rw [← Int.floor_add_one, exact]
    refine Int.floor_le_floor ?_
    calc elapsed * cpu * timer / cpu
        ≤ (⌊elapsed * cpu⌋ + 1) * timer / cpu := by gcongr; exact (Int.lt_floor_add_one _).le
      _ = ⌊elapsed * cpu⌋ * timer / cpu + timer / cpu := by ring
      _ ≤ ⌊elapsed * cpu⌋ * timer / cpu + 1 := by gcongr; exact (div_le_one cpuPositive).2 slower
  omega

/-- Ticks that never become fewer have been made as far as they are due. -/
theorem ticksMade_of_grows {due : Nat → Int} (grows : ∀ steps, due steps ≤ due (steps + 1))
    (none : due 0 = 0) (steps : Nat) : ticksMade due steps = due steps := by
  induction steps with
  | zero => exact none.symm
  | succ steps ih =>
    have more := grows steps
    rw [ticksMade_succ]
    omega

namespace Rates

/-- Ticks due after a number of instructions, where no rounding occurs. -/
def exactTicks (r : Rates Rat) (steps : Nat) : Int := ⌊(steps : Rat) * r.timer / r.cpu⌋

variable {r : Rates Rat}

theorem ticksAfter_eq (running : r.cpu ≠ 0) (steps : Nat) :
    r.ticksAfter steps = .ok (r.exactTicks steps) :=
  if_neg fun stopped => running (of_decide_eq_true stopped)

theorem exactTicks_zero (r : Rates Rat) : r.exactTicks 0 = 0 := by
  simp [exactTicks]

theorem exactTicks_le_succ (cpuPositive : 0 < r.cpu) (timerNonneg : 0 ≤ r.timer) (steps : Nat) :
    r.exactTicks steps ≤ r.exactTicks (steps + 1) := by
  unfold exactTicks
  gcongr
  exact Nat.le_succ steps

end Rates

namespace Session
open Operation

theorem runHeadless_rat {r : Rates Rat} (running : r.cpu ≠ 0) (s : Session) (cycles : Int) :
    s.runHeadless r cycles =
      ended cycles.toNat (s.performAll (rounds (ticksMade r.exactTicks) 0 cycles.toNat)) :=
  runHeadless_eq_ended fun k _ _ => r.ticksAfter_eq running k

end Session

/-- Since its count last started a window has handed out some instructions and ticks. In as many
instructions a run without a window makes as many ticks or one less, if the rates are the same and
instructions are no slower than ticks. -/
theorem window_at_most_one_tick_ahead {cpu timer lag start : Rat} {s : Scheduler Rat}
    (opened : Scheduler.ofRates cpu timer lag start = .ok s) (slower : timer ≤ cpu)
    (calls : List (Scheduler.Call Rat)) :
    let r := Tally.run { scheduler := s } calls
    let steps := (r.handed.map Due.steps).sum
    let ticks := (r.handed.map Due.ticks).sum
    let rounds := Operation.rounds (ticksMade (Rates.exactTicks ⟨cpu, timer⟩)) 0 steps.toNat
    (∀ u : Session, u.runHeadless ⟨cpu, timer⟩ steps =
        Session.ended steps.toNat (u.performAll rounds)) ∧
      rounds.count .step = steps ∧ rounds.count .tick = ⌊steps * timer / cpu⌋ ∧
      (ticks = rounds.count .tick ∨ ticks = rounds.count .tick + 1) := by
  intro r steps ticks rounds
  obtain ⟨cpuPositive, timerPositive⟩ := Scheduler.positive_of_ofRates opened
  obtain ⟨tallied, tallied'⟩ := Tally.tallied_run opened calls
  obtain ⟨since, last, forward, caught⟩ : r.scheduler.Abreast cpu timer lag := by
    obtain ⟨_, rfl⟩ := Scheduler.ofRates_eq_ok_iff.1 opened
    exact Tally.abreast_run cpuPositive.le timerPositive.le
      ⟨start, start, le_rfl, (Scheduler.caughtUp_self ..).symm⟩ calls
  have stepsBy : steps = ⌊(last - since) * cpu⌋ :=
    tallied.sum.trans (congrArg Scheduler.steps caught)
  have ticksBy : ticks = ⌊(last - since) * timer⌋ :=
    tallied'.sum.trans (congrArg Scheduler.ticks caught)
  have nonneg : 0 ≤ steps :=
    stepsBy ▸ Int.floor_nonneg.2 (mul_nonneg (sub_nonneg.2 forward) cpuPositive.le)
  have whole : (steps.toNat : Int) = steps := Int.toNat_of_nonneg nonneg
  have headless : rounds.count .tick = ⌊steps * timer / cpu⌋ := by
    rw [Operation.count_tick_rounds_start, ticksMade_of_grows
      (Rates.exactTicks_le_succ cpuPositive timerPositive.le) (Rates.exactTicks_zero _)]
    rw [Rates.exactTicks, ← Int.cast_natCast, whole]
  refine ⟨fun u => u.runHeadless_rat cpuPositive.ne' steps, ?_, headless, ?_⟩
  · rw [Operation.count_step_rounds, whole]
  · rw [headless, ticksBy, stepsBy]
    exact floor_mul_eq_or cpuPositive timerPositive.le slower _

/-- The first tick falls due within the twelfth instruction, which has not been handed out. A reading that
goes back changes nothing. -/
theorem window_at_most_one_tick_ahead_first :
    let s : Scheduler Rat := ⟨700, 60, 1 / 4, 0, 0, 0⟩
    let r := Tally.run { scheduler := s } [.advance (1 / 60), .advance (1 / 100)]
    let steps := (r.handed.map Due.steps).sum
    let ticks := (r.handed.map Due.ticks).sum
    let rounds := Operation.rounds (ticksMade (Rates.exactTicks ⟨700, 60⟩)) 0 steps.toNat
    Scheduler.ofRates 700 60 (1 / 4) 0 = .ok s ∧ (60 : Rat) ≤ 700 ∧
      steps = 11 ∧ rounds.count .tick = 0 ∧ ticks = rounds.count .tick + 1 := by
  intro s r steps ticks rounds
  have opened : Scheduler.ofRates 700 60 (1 / 4) 0 = .ok s :=
    Scheduler.ofRates_eq_ok_iff.2 ⟨by decide +kernel, rfl⟩
  have slower : (60 : Rat) ≤ 700 := by norm_num
  have total : steps = 11 := by decide +kernel
  have headless : (rounds.count .tick : Int) = ⌊(steps : Rat) * 60 / 700⌋ :=
    (window_at_most_one_tick_ahead opened slower [.advance (1 / 60), .advance (1 / 100)]).2.2.1
  have none : rounds.count .tick = 0 := by
    rw [total] at headless
    exact Int.natCast_eq_zero.1 (headless.trans (by decide +kernel))
  have one : ticks = 1 := by decide +kernel
  exact ⟨opened, slower, total, none, by rw [none, one]; rfl⟩

end Chip8
