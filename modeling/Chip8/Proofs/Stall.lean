import Chip8.Proofs.Tally
import Mathlib.Algebra.Order.Archimedean.Basic
import Mathlib.Tactic.Linarith

/-! When a backlog is dropped, in exact arithmetic. What counts as a stall is a number of ticks and not a
length of time: no backlog is dropped as long as the readings are no further apart than the whole ticks
that fit into the allowed lag. Where the lag is no whole number of ticks, readings that are always within
it can still lose their work. -/
namespace Chip8

namespace Scheduler

/-- Calls at readings that never go back. Calls for work come at most a gap after the call before. -/
def Paced (gap : Rat) : Rat → List (Call Rat) → Prop
  | _, [] => True
  | last, .advance now :: rest => (last ≤ now ∧ now ≤ last + gap) ∧ Paced gap now rest
  | last, .resync now :: rest => last ≤ now ∧ Paced gap now rest

/-- The reading of the last call. -/
def lastReading (start : Rat) : List (Call Rat) → Rat
  | [] => start
  | .advance now :: rest | .resync now :: rest => lastReading now rest

/-- The reading of the last call to start the count anew. -/
def lastResync (start : Rat) : List (Call Rat) → Rat
  | [] => start
  | .advance _ :: rest => lastResync start rest
  | .resync now :: rest => lastResync now rest

/-- Calls for work at a fixed distance. -/
def evenly (start gap : Rat) : Nat → List (Call Rat)
  | 0 => []
  | k + 1 => evenly start gap k ++ [.advance (start + (k + 1) * gap)]

/-- Where calls for work come at most a gap apart, none of them has a backlog dropped, and what has been
handed out since the last resync are the counts at the last reading. -/
def KeepsUp (s : Scheduler Rat) (gap : Rat) : Prop :=
  ∀ calls now, Paced gap s.start (calls ++ [.advance now]) →
    let r := Tally.run { scheduler := s } calls
    let elapsed := now - lastResync s.start calls
    r.scheduler.drops now = false ∧
      ((r.advance now).handed.map Due.steps).sum = ⌊elapsed * s.cpuRate⌋ ∧
      ((r.advance now).handed.map Due.ticks).sum = ⌊elapsed * s.timerRate⌋

variable {gap start now : Rat} {calls : List (Call Rat)}

theorem paced_concat : Paced gap start (calls ++ [.advance now]) ↔ Paced gap start calls ∧
    lastReading start calls ≤ now ∧ now ≤ lastReading start calls + gap := by
  induction calls generalizing start with
  | nil => simp [Paced, lastReading]
  | cons c rest ih => cases c <;> simp only [List.cons_append, Paced, lastReading, ih, and_assoc]

theorem lastReading_concat : lastReading start (calls ++ [.advance now]) = now := by
  induction calls generalizing start with
  | nil => rfl
  | cons c rest ih => cases c <;> exact ih

theorem lastResync_concat : lastResync start (calls ++ [.advance now]) = lastResync start calls := by
  induction calls generalizing start with
  | nil => rfl
  | cons c rest ih => cases c <;> exact ih

theorem lastReading_evenly (start gap : Rat) (k : Nat) :
    lastReading start (evenly start gap k) = start + k * gap := by
  cases k with
  | zero => simp [evenly, lastReading]
  | succ k => rw [evenly, lastReading_concat, Nat.cast_succ]

theorem lastResync_evenly (start gap : Rat) (k : Nat) : lastResync start (evenly start gap k) = start := by
  induction k with
  | zero => rfl
  | succ k ih => rw [evenly, lastResync_concat, ih]

theorem paced_evenly (nonneg : 0 ≤ gap) (k : Nat) : Paced gap start (evenly start gap k) := by
  induction k with
  | zero => trivial
  | succ k ih =>
    rw [evenly, paced_concat, lastReading_evenly]
    refine ⟨ih, ?_, ?_⟩ <;> linarith

/-- A backlog is kept exactly if its ticks fit into the allowed lag. -/
theorem drops_eq_false_iff (s : Scheduler Rat) (now : Rat) :
    s.drops now = false ↔
      ⌊(now - s.start) * s.timerRate⌋ - s.ticks ≤ ⌊s.maxLag * s.timerRate⌋ := by
  rw [Int.le_floor, ← not_lt]
  exact decide_eq_false_iff_not

/-- A scheduler that has handed out all that belongs before a reading. -/
def caughtUp (cpu timer lag since last : Rat) : Scheduler Rat :=
  ⟨cpu, timer, lag, since, ⌊(last - since) * cpu⌋, ⌊(last - since) * timer⌋⟩

theorem caughtUp_self (cpu timer lag now : Rat) :
    caughtUp cpu timer lag now now = ⟨cpu, timer, lag, now, 0, 0⟩ := by
  simp [caughtUp]

end Scheduler

namespace Tally
open Scheduler
variable {r : Tally Rat} {cpu timer lag since last now gap : Rat}

theorem advance_rat (kept : r.scheduler.drops now = false) :
    let due := r.scheduler.missing ⌊(now - r.scheduler.start) * r.scheduler.cpuRate⌋
      ⌊(now - r.scheduler.start) * r.scheduler.timerRate⌋
    r.advance now = ⟨r.scheduler.handOut due, now :: r.readings, due :: r.handed⟩ := by
  intro due
  have answered : r.scheduler.advance now = .ok (r.scheduler.handOut due, due) := by
    rw [advance_of_counts rfl rfl, kept, if_neg Bool.false_ne_true]
    rfl
  exact advance_of_kept answered kept

/-- A reading at which no backlog is dropped brings at most the ticks that fit into the lag. -/
theorem ticks_advance_le (room : 0 ≤ ⌊r.scheduler.maxLag * r.scheduler.timerRate⌋)
    (kept : r.scheduler.drops now = false) :
    (r.advance now).scheduler.ticks ≤
      r.scheduler.ticks + ⌊r.scheduler.maxLag * r.scheduler.timerRate⌋ := by
  have few := (drops_eq_false_iff _ _).1 kept
  rw [advance_rat kept]
  simp only [handOut, missing]
  omega

/-- While no backlog is dropped, the counts are those at the furthest reading. -/
theorem scheduler_advance_of_kept (cpuNonneg : 0 ≤ cpu) (timerNonneg : 0 ≤ timer)
    (caught : r.scheduler = caughtUp cpu timer lag since last)
    (kept : r.scheduler.drops now = false) :
    (r.advance now).scheduler = caughtUp cpu timer lag since (max last now) := by
  have furthest {rate : Rat} (nonneg : 0 ≤ rate) : ⌊(max last now - since) * rate⌋ =
      max ⌊(last - since) * rate⌋ ⌊(now - since) * rate⌋ :=
    Monotone.map_max (f := fun reading => ⌊(reading - since) * rate⌋) fun _ _ before =>
      Int.floor_le_floor (mul_le_mul_of_nonneg_right (sub_le_sub_right before since) nonneg)
  rw [advance_rat kept, caught]
  simp only [handOut, missing, caughtUp, Scheduler.mk.injEq, true_and, furthest cpuNonneg,
    furthest timerNonneg]
  omega

section Gap
variable (cpuPositive : 0 < cpu) (timerPositive : 0 < timer) (fits : gap * timer ≤ ⌊lag * timer⌋)
include timerPositive fits

theorem drops_caughtUp (soon : now ≤ last + gap) :
    (caughtUp cpu timer lag since last).drops now = false := by
  rw [drops_eq_false_iff, caughtUp, sub_le_iff_le_add', ← Int.floor_add_intCast]
  refine Int.floor_le_floor ?_
  calc (now - since) * timer
      ≤ (last + gap - since) * timer := by gcongr
    _ = (last - since) * timer + gap * timer := by ring
    _ ≤ _ := by gcongr

include cpuPositive

theorem scheduler_advance (caught : r.scheduler = caughtUp cpu timer lag since last)
    (forward : last ≤ now) (soon : now ≤ last + gap) :
    (r.advance now).scheduler = caughtUp cpu timer lag since now := by
  have kept : r.scheduler.drops now = false := caught ▸ drops_caughtUp timerPositive fits soon
  rw [scheduler_advance_of_kept cpuPositive.le timerPositive.le caught kept, max_eq_right forward]

theorem scheduler_run {calls : List (Scheduler.Call Rat)}
    (caught : r.scheduler = caughtUp cpu timer lag since last) (paced : Paced gap last calls) :
    (r.run calls).scheduler =
      caughtUp cpu timer lag (lastResync since calls) (lastReading last calls) := by
  induction calls generalizing r since last with
  | nil => exact caught
  | cons c rest ih =>
    cases c with
    | advance now =>
      obtain ⟨⟨forward, soon⟩, paced⟩ := paced
      exact ih (scheduler_advance cpuPositive timerPositive fits caught forward soon) paced
    | resync now =>
      have anew : (r.resync now).scheduler = caughtUp cpu timer lag now now := by
        rw [caughtUp_self, Tally.resync, caught]
        rfl
      exact ih anew paced.2

end Gap
end Tally

namespace Scheduler
variable {cpu timer lag start gap : Rat} {s : Scheduler Rat}

theorem positive_of_ofRates (opened : ofRates cpu timer lag start = .ok s) : 0 < cpu ∧ 0 < timer := by
  obtain ⟨⟨cpuPositive, timerPositive⟩, _⟩ := ofRates_eq_ok_iff.1 opened
  exact ⟨of_decide_eq_true cpuPositive, of_decide_eq_true timerPositive⟩

theorem keepsUp_of_gap_le (opened : ofRates cpu timer lag start = .ok s)
    (fits : gap * timer ≤ ⌊lag * timer⌋) : s.KeepsUp gap := by
  intro calls now paced r elapsed
  obtain ⟨cpuPositive, timerPositive⟩ := positive_of_ofRates opened
  obtain ⟨steps, ticks⟩ := Tally.tallied_run opened (calls ++ [.advance now])
  obtain ⟨_, rfl⟩ := ofRates_eq_ok_iff.1 opened
  obtain ⟨paced, forward, soon⟩ := paced_concat.1 paced
  have caught : r.scheduler = caughtUp cpu timer lag (lastResync start calls) (lastReading start calls) :=
    Tally.scheduler_run cpuPositive timerPositive fits (caughtUp_self cpu timer lag start).symm paced
  have next := Tally.scheduler_advance cpuPositive timerPositive fits caught forward soon
  have last : Tally.run { scheduler := ⟨cpu, timer, lag, start, 0, 0⟩ } (calls ++ [.advance now]) =
      r.advance now := List.foldl_concat ..
  rw [last, next] at steps ticks
  exact ⟨caught ▸ Tally.drops_caughtUp timerPositive fits soon, steps.sum, ticks.sum⟩

theorem run_evenly (s : Scheduler Rat) (start gap : Rat) (k : Nat) :
    Tally.run { scheduler := s } (evenly start gap (k + 1)) =
      (Tally.run { scheduler := s } (evenly start gap k)).advance (start + (k + 1) * gap) :=
  List.foldl_concat ..

/-- If no backlog is dropped, readings at a fixed distance have brought on the average no more ticks than
fit into the lag. As these must be all ticks, no more of them belong between two readings. -/
theorem gap_le_of_keepsUp (opened : ofRates cpu timer lag start = .ok s) (allowed : 0 ≤ lag)
    (keeps : s.KeepsUp gap) : gap * timer ≤ ⌊lag * timer⌋ := by
  obtain ⟨_, timerPositive⟩ := positive_of_ofRates opened
  have room : 0 ≤ ⌊lag * timer⌋ := Int.floor_nonneg.2 (mul_nonneg allowed timerPositive.le)
  have tallied := Tally.tallied_run opened
  obtain ⟨_, rfl⟩ := ofRates_eq_ok_iff.1 opened
  let r (k : Nat) := Tally.run { scheduler := ⟨cpu, timer, lag, start, 0, 0⟩ } (evenly start gap k)
  by_contra far
  have ahead : 0 < gap * timer - ⌊lag * timer⌋ := sub_pos.2 (not_le.1 far)
  have nonneg : 0 ≤ gap := by
    have product : 0 < gap * timer := (Int.cast_nonneg room).trans_lt (not_le.1 far)
    exact ((pos_iff_pos_of_mul_pos product).2 timerPositive).le
  have kept (k : Nat) := keeps (evenly start gap k) _ (paced_evenly nonneg (k + 1))
  have few (k : Nat) : (r k).scheduler.ticks ≤ k * ⌊lag * timer⌋ := by
    induction k with
    | zero => exact le_of_eq (zero_mul _).symm
    | succ k ih =>
      obtain ⟨_, timerRate, maxLag⟩ : _ ∧ (r k).scheduler.timerRate = timer ∧
        (r k).scheduler.maxLag = lag := Tally.settings_run _ _
      have more := Tally.ticks_advance_le (r := r k) (by rwa [timerRate, maxLag]) (kept k).1
      rw [timerRate, maxLag, ← run_evenly] at more
      calc (r (k + 1)).scheduler.ticks ≤ k * ⌊lag * timer⌋ + ⌊lag * timer⌋ := by linarith
        _ = (k + 1 : Nat) * ⌊lag * timer⌋ := by push_cast; ring
  have all (k : Nat) : (r k).scheduler.ticks = ⌊k * gap * timer⌋ := by
    cases k with
    | zero => simp [r, evenly, Tally.run]
    | succ k =>
      have total := (kept k).2.2
      rw [← run_evenly, (tallied _).2.sum, lastResync_evenly, add_sub_cancel_left] at total
      rw [Nat.cast_succ]
      exact total
  obtain ⟨k, enough⟩ := Archimedean.arch 1 ahead
  have late : k * ⌊lag * timer⌋ < (r k).scheduler.ticks := by
    rw [all, ← Int.add_one_le_iff, Int.le_floor]
    push_cast
    rw [nsmul_eq_mul] at enough
    linarith
  exact (few k).not_gt late

/-- A scheduler keeps up with readings that are no further apart than the whole ticks in its allowed lag,
and with no others. So it keeps up with all readings within the lag if the lag is a whole number of ticks,
and only then. -/
theorem keeps_up_with_whole_ticks (opened : ofRates cpu timer lag start = .ok s) (allowed : 0 < lag) :
    (∀ gap, s.KeepsUp gap ↔ gap * timer ≤ ⌊lag * timer⌋) ∧
      (s.KeepsUp lag ↔ (⌊lag * timer⌋ : Rat) = lag * timer) := by
  have iff (gap : Rat) : s.KeepsUp gap ↔ gap * timer ≤ ⌊lag * timer⌋ :=
    ⟨gap_le_of_keepsUp opened allowed.le, keepsUp_of_gap_le opened⟩
  refine ⟨iff, (iff lag).trans ⟨fun fits => ?_, fun whole => whole.ge⟩⟩
  exact le_antisymm (Int.floor_le _) fits

/-- A quarter of a second is fifteen of sixty ticks per second. -/
theorem keeps_up_with_whole_ticks_sixty :
    let s : Scheduler Rat := ⟨700, 60, 1 / 4, 0, 0, 0⟩
    ofRates 700 60 (1 / 4) 0 = .ok s ∧ (0 : Rat) < 1 / 4 ∧ s.KeepsUp (1 / 4) := by
  intro s
  have opened : ofRates 700 60 (1 / 4) 0 = .ok s := ofRates_eq_ok_iff.2 ⟨by decide +kernel, rfl⟩
  refine ⟨opened, by norm_num, (keeps_up_with_whole_ticks opened (by norm_num)).2.2 ?_⟩
  norm_num

/-- A quarter of a second is twelve and a half of fifty ticks per second. Thirteen ticks are due when the
clock is read just a quarter of a second after the reading before, and they are dropped. -/
theorem timely_reading_dropped :
    let s : Scheduler Rat := ⟨800, 50, 1 / 4, 0, 0, 0⟩
    ofRates 800 50 (1 / 4) 0 = .ok s ∧
      Paced (1 / 4) 0 [.advance (1 / 64), .advance (17 / 64)] ∧
      (Tally.run { scheduler := s } [.advance (1 / 64)]).scheduler.drops (17 / 64) = true ∧
      ¬ s.KeepsUp (1 / 4) := by
  intro s
  have opened : ofRates 800 50 (1 / 4) 0 = .ok s := ofRates_eq_ok_iff.2 ⟨by decide +kernel, rfl⟩
  have paced : Paced (1 / 4) 0 [.advance (1 / 64), .advance (17 / 64)] := by norm_num [Paced]
  have dropped : (Tally.run { scheduler := s } [.advance (1 / 64)]).scheduler.drops (17 / 64) = true := by
    decide +kernel
  refine ⟨opened, paced, dropped, fun keeps => ?_⟩
  have kept := (keeps [.advance (1 / 64)] (17 / 64) paced).1
  rw [dropped] at kept
  contradiction

end Scheduler
end Chip8
