import Chip8.Proofs.Timing

/-! How much work one reading of the clock can bring, in exact arithmetic. Only the backlog of ticks is
measured against the allowed lag. As instructions have been handed out up to the same reading as ticks, this
bounds the backlog of instructions too, by those of the lag and one more tick. -/
namespace Chip8

/-- Rounding down moves the distance of two numbers by less than one. -/
theorem floor_sub_floor_lt (a b : Rat) : (⌊a⌋ - ⌊b⌋ : Rat) < a - b + 1 := by
  have above := Int.floor_le a
  have below := Int.lt_floor_add_one b
  linarith

namespace Scheduler
variable {cpu timer lag start since last now : Rat} {s : Scheduler Rat}

/-- Where the backlog is kept, a reading comes less than the lag and one tick after the reading up to which
work has been handed out. -/
theorem gap_lt_of_kept (timerPositive : 0 < timer)
    (kept : (caughtUp cpu timer lag since last).drops now = false) : now - last < lag + 1 / timer := by
  have few : ⌊(now - since) * timer⌋ - ⌊(last - since) * timer⌋ ≤ ⌊lag * timer⌋ :=
    (drops_eq_false_iff _ _).1 kept
  have few : (⌊(now - since) * timer⌋ - ⌊(last - since) * timer⌋ : Rat) ≤ lag * timer := by
    exact_mod_cast Int.le_floor.1 few
  have above := Int.lt_floor_add_one ((now - since) * timer)
  have below := Int.floor_le ((last - since) * timer)
  refine lt_of_mul_lt_mul_right ?_ timerPositive.le
  calc (now - last) * timer
      = (now - since) * timer - (last - since) * timer := by ring
    _ < lag * timer + 1 := by linarith
    _ = (lag + 1 / timer) * timer := by field_simp

/-- The instructions that a reading brings where the backlog is kept. -/
theorem steps_lt_of_kept (cpuPositive : 0 < cpu) (timerPositive : 0 < timer) (allowed : 0 ≤ lag)
    (kept : (caughtUp cpu timer lag since last).drops now = false) :
    ((max 0 (⌊(now - since) * cpu⌋ - ⌊(last - since) * cpu⌋) : Int) : Rat) <
      (lag + 1 / timer) * cpu + 1 := by
  have soon := gap_lt_of_kept timerPositive kept
  rw [Int.cast_max, max_lt_iff, Int.cast_zero, Int.cast_sub]
  constructor
  · positivity
  · calc (⌊(now - since) * cpu⌋ - ⌊(last - since) * cpu⌋ : Rat)
        < (now - since) * cpu - (last - since) * cpu + 1 := floor_sub_floor_lt _ _
      _ = (now - last) * cpu + 1 := by ring
      _ < (lag + 1 / timer) * cpu + 1 := by gcongr

theorem abreast_of_opened (opened : ofRates cpu timer lag start = .ok s) (calls : List (Call Rat)) :
    (Tally.run { scheduler := s } calls).scheduler.Abreast cpu timer lag := by
  obtain ⟨cpuPositive, timerPositive⟩ := positive_of_ofRates opened
  obtain ⟨_, rfl⟩ := ofRates_eq_ok_iff.1 opened
  exact Tally.abreast_run cpuPositive.le timerPositive.le
    ⟨start, start, le_rfl, (caughtUp_self ..).symm⟩ calls

/-- Whatever was asked of a scheduler before and however the clock went, a call for work is answered with no
more ticks than belong in the allowed lag, and with fewer instructions than one more than belong in the lag
and one tick. -/
theorem burst_is_bounded (opened : ofRates cpu timer lag start = .ok s) (allowed : 0 ≤ lag)
    (calls : List (Call Rat)) (now : Rat) :
    ∃ t due, (Tally.run { scheduler := s } calls).scheduler.advance now = .ok (t, due) ∧
      0 ≤ due.ticks ∧ due.ticks ≤ lag * timer ∧
      0 ≤ due.steps ∧ due.steps < (lag + 1 / timer) * cpu + 1 := by
  obtain ⟨cpuPositive, timerPositive⟩ := positive_of_ofRates opened
  obtain ⟨since, last, _, caught⟩ := abreast_of_opened opened calls
  rw [caught, advance_of_counts rfl rfl]
  cases dropped : (caughtUp cpu timer lag since last).drops now with
  | true =>
    refine ⟨_, _, rfl, le_rfl, ?_, le_rfl, ?_⟩ <;> rw [Int.cast_zero] <;> positivity
  | false =>
    have few : ⌊(now - since) * timer⌋ - ⌊(last - since) * timer⌋ ≤ ⌊lag * timer⌋ :=
      (drops_eq_false_iff _ _).1 dropped
    have room : 0 ≤ ⌊lag * timer⌋ := Int.floor_nonneg.2 (by positivity)
    refine ⟨_, _, rfl, le_max_left _ _, Int.le_floor.1 (max_le room few), le_max_left _ _, ?_⟩
    exact steps_lt_of_kept cpuPositive timerPositive allowed dropped

/-- The clock is read on the first tick, and then just before the tick that would be one too many. No whole
number between 187 and the bound is left. -/
theorem burst_is_bounded_reached :
    let s : Scheduler Rat := ⟨700, 60, 1 / 4, 0, 0, 0⟩
    let r := Tally.run { scheduler := s } [.advance (1 / 60)]
    ofRates 700 60 (1 / 4) 0 = .ok s ∧ (0 : Rat) ≤ 1 / 4 ∧
      ∃ t, r.scheduler.advance (17 / 60 - 1 / 10000) = .ok (t, ⟨187, 15⟩) ∧
        ((15 : Int) : Rat) ≤ 1 / 4 * 60 ∧ ((187 : Int) : Rat) < (1 / 4 + 1 / 60) * 700 + 1 := by
  intro s r
  have opened : ofRates 700 60 (1 / 4) 0 = .ok s := ofRates_eq_ok_iff.2 ⟨by decide +kernel, rfl⟩
  have allowed : (0 : Rat) ≤ 1 / 4 := by norm_num
  have answer : (r.scheduler.advance (17 / 60 - 1 / 10000)).toOption.map Prod.snd = some ⟨187, 15⟩ := by
    decide +kernel
  obtain ⟨t, due, answered, _, ticks, _, steps⟩ :=
    burst_is_bounded opened allowed [.advance (1 / 60)] (17 / 60 - 1 / 10000)
  obtain rfl : due = ⟨187, 15⟩ := by
    rw [answered] at answer
    exact Option.some.inj answer
  exact ⟨opened, allowed, t, answered, ticks, steps⟩

end Scheduler
end Chip8
