import Chip8.Pacing.Scheduler
import Mathlib.Data.Rat.Floor
import Mathlib.Order.Bounds.Basic

/-! What a scheduler has handed out since its count last started, kept as a tally beside it. Each total
is the greatest count that one of the readings gave, so nothing is handed out twice and no rounding adds
up, however often the clock was read and whichever way it went. -/
namespace Chip8

/-- Whole periods of a rate between two clock readings. -/
def Quantity.beats {τ : Type} [Quantity τ] (rate since now : τ) : Except Error Int :=
  floor (mul (sub now since) rate)

namespace Scheduler
variable {τ : Type} [Quantity τ]

/-- Instructions that belong before a reading, counted from the start. -/
def stepsBy (s : Scheduler τ) : τ → Except Error Int := Quantity.beats s.cpuRate s.start

/-- Timer ticks that belong before a reading, counted from the start. -/
def ticksBy (s : Scheduler τ) : τ → Except Error Int := Quantity.beats s.timerRate s.start

/-- Whether so many ticks are due at a reading that the backlog is dropped. -/
def drops (s : Scheduler τ) (now : τ) : Bool :=
  match s.ticksBy now with
  | .ok ticks => Quantity.isBelow (Quantity.mul s.maxLag s.timerRate) (ticks - s.ticks)
  | .error _ => false

/-- What the counts at a reading are ahead of what has been handed out. -/
def missing (s : Scheduler τ) (steps ticks : Int) : Due :=
  ⟨max 0 (steps - s.steps), max 0 (ticks - s.ticks)⟩

def handOut (s : Scheduler τ) (due : Due) : Scheduler τ :=
  { s with steps := s.steps + due.steps, ticks := s.ticks + due.ticks }

/-- All answers to a call for work: the backlog is dropped, or what is missing is handed out. -/
inductive Answers (s : Scheduler τ) (now : τ) : Scheduler τ → Due → Prop where
  | dropped : s.drops now = true → Answers s now (s.resync now) ⟨0, 0⟩
  | kept {steps ticks : Int} : s.drops now = false →
      s.stepsBy now = .ok steps → s.ticksBy now = .ok ticks →
      Answers s now (s.handOut (s.missing steps ticks)) (s.missing steps ticks)

variable {s t : Scheduler τ} {now : τ} {due : Due}

theorem advance_eq (s : Scheduler τ) (now : τ) : s.advance now = (do
    let steps ← s.stepsBy now
    let ticks ← s.ticksBy now
    if Quantity.isBelow (Quantity.mul s.maxLag s.timerRate) (ticks - s.ticks) then
      return (s.resync now, ⟨0, 0⟩)
    return (s.handOut (s.missing steps ticks), s.missing steps ticks)) := rfl

theorem advance_of_counts {steps ticks : Int} (stepsBy : s.stepsBy now = .ok steps)
    (ticksBy : s.ticksBy now = .ok ticks) :
    s.advance now = .ok (if s.drops now then (s.resync now, ⟨0, 0⟩)
      else (s.handOut (s.missing steps ticks), s.missing steps ticks)) := by
  rw [advance_eq, drops, stepsBy, ticksBy]
  change (if _ then _ else _) = _
  split <;> rfl

/-- There is an answer only where both counts exist. -/
theorem counts_of_advance (answered : s.advance now = .ok (t, due)) :
    ∃ steps ticks, s.stepsBy now = .ok steps ∧ s.ticksBy now = .ok ticks := by
  rw [advance_eq] at answered
  cases stepsBy : s.stepsBy now with
  | error e =>
    rw [stepsBy] at answered
    contradiction
  | ok steps =>
    cases ticksBy : s.ticksBy now with
    | error e =>
      rw [stepsBy, ticksBy] at answered
      contradiction
    | ok ticks => exact ⟨steps, ticks, rfl, rfl⟩

theorem answers_of_advance (answered : s.advance now = .ok (t, due)) : s.Answers now t due := by
  obtain ⟨steps, ticks, stepsBy, ticksBy⟩ := counts_of_advance answered
  rw [advance_of_counts stepsBy ticksBy, Except.ok.injEq] at answered
  cases dropped : s.drops now with
  | true =>
    rw [dropped, if_pos rfl] at answered
    cases answered
    exact .dropped dropped
  | false =>
    rw [dropped, if_neg Bool.false_ne_true] at answered
    cases answered
    exact .kept dropped stepsBy ticksBy

theorem ofRates_eq_ok_iff {cpu timer lag start : τ} :
    ofRates cpu timer lag start = .ok s ↔
      (Quantity.isPositive cpu = true ∧ Quantity.isPositive timer = true) ∧
        s = ⟨cpu, timer, lag, start, 0, 0⟩ := by
  rw [← Bool.and_eq_true, ofRates]
  by_cases positive : (Quantity.isPositive cpu && Quantity.isPositive timer) = true
  · rw [if_pos positive, Except.ok.injEq, eq_comm, and_iff_right positive]
  · rw [if_neg positive]
    exact ⟨nofun, fun both => absurd both.1 positive⟩

/-- What a host asks of a scheduler. -/
inductive Call (τ : Type) where
  | advance (now : τ)
  | resync (now : τ)

end Scheduler

/-- Parts that add up to a total which is the greatest count at any of the readings, if none of them is
negative, and zero without readings. -/
structure Tallied {τ : Type} (count : τ → Except Error Int) (readings : List τ) (parts : List Int)
    (total : Int) : Prop where
  counted : ∀ now ∈ readings, ∃ n, count now = .ok n
  nonneg : ∀ n ∈ parts, 0 ≤ n
  sum : parts.sum = total
  greatest : IsGreatest (insert 0 {n | ∃ now ∈ readings, count now = .ok n}) total

namespace Tallied
variable {τ : Type} {count : τ → Except Error Int} {readings : List τ} {parts : List Int}
  {total n : Int} {now : τ}

theorem empty : Tallied count [] [] 0 :=
  ⟨nofun, nofun, rfl, ⟨Set.mem_insert _ _, by simp⟩⟩

/-- What a reading is ahead of the total brings the total up to it. -/
theorem cons (tallied : Tallied count readings parts total) (counted : count now = .ok n) :
    Tallied count (now :: readings) (max 0 (n - total) :: parts) (total + max 0 (n - total)) := by
  have grown : total + max 0 (n - total) = max total n := by omega
  refine ⟨?_, ?_, ?_, ?_⟩
  · exact List.forall_mem_cons.2 ⟨⟨n, counted⟩, tallied.counted⟩
  · exact List.forall_mem_cons.2 ⟨le_max_left _ _, tallied.nonneg⟩
  · rw [List.sum_cons, tallied.sum, Int.add_comm]
  · have counts : insert 0 {m | ∃ u ∈ now :: readings, count u = .ok m} =
        insert n (insert 0 {m | ∃ u ∈ readings, count u = .ok m}) := by
      ext m
      simp [counted, eq_comm, or_left_comm]
    rw [grown, counts, max_comm]
    exact tallied.greatest.insert n

/-- A reading whose count is reached by no other one decides the total. -/
theorem total_eq (tallied : Tallied count readings parts total) (read : now ∈ readings)
    (counted : count now = .ok n)
    (latest : ∀ u ∈ readings, ∀ m, count u = .ok m → m ≤ n) : total = max 0 n := by
  refine le_antisymm ?_ ?_
  · rcases tallied.greatest.1 with zero | ⟨u, read, same⟩
    · exact zero ▸ le_max_left _ _
    · exact (latest u read total same).trans (le_max_right _ _)
  · refine max_le (tallied.greatest.2 (Set.mem_insert _ _)) ?_
    exact tallied.greatest.2 (Set.mem_insert_of_mem _ ⟨now, read, counted⟩)

end Tallied

/-- A scheduler with the readings that it has answered since its count last started and what it has
handed out at them, the last one first. -/
structure Tally (τ : Type) where
  scheduler : Scheduler τ
  readings : List τ := []
  handed : List Due := []

namespace Tally
variable {τ : Type} [Quantity τ]

/-- A call without an answer changes nothing, and a backlog that is dropped starts the count anew. -/
def advance (r : Tally τ) (now : τ) : Tally τ :=
  match r.scheduler.advance now with
  | .error _ => r
  | .ok (scheduler, due) =>
      if r.scheduler.drops now then { scheduler }
      else ⟨scheduler, now :: r.readings, due :: r.handed⟩

def resync (r : Tally τ) (now : τ) : Tally τ := { scheduler := r.scheduler.resync now }

def call (r : Tally τ) : Scheduler.Call τ → Tally τ
  | .advance now => r.advance now
  | .resync now => r.resync now

def run (r : Tally τ) (calls : List (Scheduler.Call τ)) : Tally τ := calls.foldl call r

variable {r : Tally τ} {now : τ}

theorem advance_of_error {e : Error} (failed : r.scheduler.advance now = .error e) :
    r.advance now = r := by
  simp only [advance, failed]

theorem advance_of_dropped {s : Scheduler τ} {due : Due}
    (answered : r.scheduler.advance now = .ok (s, due)) (dropped : r.scheduler.drops now = true) :
    r.advance now = { scheduler := s } := by
  simp only [advance, answered, if_pos dropped]

theorem advance_of_kept {s : Scheduler τ} {due : Due}
    (answered : r.scheduler.advance now = .ok (s, due)) (kept : r.scheduler.drops now = false) :
    r.advance now = ⟨s, now :: r.readings, due :: r.handed⟩ := by
  simp only [advance, answered, kept, if_neg Bool.false_ne_true]

theorem scheduler_of_answered {s : Scheduler τ} {due : Due}
    (answered : r.scheduler.advance now = .ok (s, due)) : (r.advance now).scheduler = s := by
  cases dropped : r.scheduler.drops now with
  | true => rw [advance_of_dropped answered dropped]
  | false => rw [advance_of_kept answered dropped]

/-- Instructions and ticks that have been handed out are those that the readings count. -/
structure Exact (r : Tally τ) : Prop where
  steps : Tallied r.scheduler.stepsBy r.readings (r.handed.map Due.steps) r.scheduler.steps
  ticks : Tallied r.scheduler.ticksBy r.readings (r.handed.map Due.ticks) r.scheduler.ticks

theorem exact_resync (s : Scheduler τ) (now : τ) : Exact { scheduler := s.resync now } :=
  ⟨.empty, .empty⟩

theorem Exact.advance (exact : r.Exact) (now : τ) : (r.advance now).Exact := by
  cases answered : r.scheduler.advance now with
  | error e => rwa [advance_of_error answered]
  | ok answer =>
    obtain ⟨s, due⟩ := answer
    cases Scheduler.answers_of_advance answered with
    | dropped dropped =>
      rw [advance_of_dropped answered dropped]
      exact exact_resync _ now
    | kept kept stepsBy ticksBy =>
      rw [advance_of_kept answered kept]
      exact ⟨exact.steps.cons stepsBy, exact.ticks.cons ticksBy⟩

theorem Exact.call (exact : r.Exact) : ∀ c : Scheduler.Call τ, (r.call c).Exact
  | .advance now => exact.advance now
  | .resync now => exact_resync _ now

theorem Exact.run (exact : r.Exact) (calls : List (Scheduler.Call τ)) : (r.run calls).Exact :=
  List.foldlRecOn calls Tally.call exact fun _ exact c _ => exact.call c

/-- Calls never change the rates or the allowed lag. -/
theorem settings_call (r : Tally τ) (c : Scheduler.Call τ) :
    (r.call c).scheduler.cpuRate = r.scheduler.cpuRate ∧
      (r.call c).scheduler.timerRate = r.scheduler.timerRate ∧
      (r.call c).scheduler.maxLag = r.scheduler.maxLag := by
  cases c with
  | resync now => exact ⟨rfl, rfl, rfl⟩
  | advance now =>
    rw [call]
    cases answered : r.scheduler.advance now with
    | error e =>
      rw [advance_of_error answered]
      exact ⟨rfl, rfl, rfl⟩
    | ok answer =>
      obtain ⟨s, due⟩ := answer
      cases Scheduler.answers_of_advance answered with
      | dropped dropped =>
        rw [advance_of_dropped answered dropped]
        exact ⟨rfl, rfl, rfl⟩
      | kept kept =>
        rw [advance_of_kept answered kept]
        exact ⟨rfl, rfl, rfl⟩

theorem settings_run (r : Tally τ) (calls : List (Scheduler.Call τ)) :
    (r.run calls).scheduler.cpuRate = r.scheduler.cpuRate ∧
      (r.run calls).scheduler.timerRate = r.scheduler.timerRate ∧
      (r.run calls).scheduler.maxLag = r.scheduler.maxLag := by
  induction calls generalizing r with
  | nil => exact ⟨rfl, rfl, rfl⟩
  | cons c rest ih =>
    obtain ⟨cpu, timer, lag⟩ := r.settings_call c
    rw [← cpu, ← timer, ← lag]
    exact ih (r.call c)

theorem tallied_run {cpu timer lag start : τ} {s : Scheduler τ}
    (opened : Scheduler.ofRates cpu timer lag start = .ok s) (calls : List (Scheduler.Call τ)) :
    let r := run { scheduler := s } calls
    Tallied (Quantity.beats cpu r.scheduler.start) r.readings (r.handed.map Due.steps)
        r.scheduler.steps ∧
      Tallied (Quantity.beats timer r.scheduler.start) r.readings (r.handed.map Due.ticks)
        r.scheduler.ticks := by
  intro r
  obtain ⟨_, rfl⟩ := Scheduler.ofRates_eq_ok_iff.1 opened
  have exact : r.Exact := Exact.run ⟨.empty, .empty⟩ calls
  obtain ⟨cpuRate, timerRate, _⟩ : r.scheduler.cpuRate = cpu ∧ r.scheduler.timerRate = timer ∧ _ :=
    settings_run _ calls
  rw [← cpuRate, ← timerRate]
  exact ⟨exact.steps, exact.ticks⟩

end Tally

/-- A count that is never less at a later one of the readings. -/
def Climbs {τ : Type} [LE τ] (count : τ → Except Error Int) (readings : List τ) : Prop :=
  ∀ u ∈ readings, ∀ v ∈ readings, u ≤ v → ∀ m n, count u = .ok m → count v = .ok n → m ≤ n

/-- Without rounding every count climbs. -/
theorem climbs_rat {rate : Rat} (nonneg : 0 ≤ rate) (since : Rat) (readings : List Rat) :
    Climbs (Quantity.beats rate since) readings := by
  intro u _ v _ before m n counted counted'
  obtain rfl : ⌊(u - since) * rate⌋ = m := Except.ok.inj counted
  obtain rfl : ⌊(v - since) * rate⌋ = n := Except.ok.inj counted'
  exact Int.floor_le_floor (mul_le_mul_of_nonneg_right (sub_le_sub_right before since) nonneg)

/-- Two tallies of a count that climbs have one total if their latest reading is the same. -/
theorem Tallied.total_unique {τ : Type} [LE τ] {count : τ → Except Error Int}
    {readings readings' : List τ} {parts parts' : List Int} {total total' : Int}
    (first : Tallied count readings parts total) (second : Tallied count readings' parts' total')
    (climbs : Climbs count (readings ++ readings')) {now : τ} (read : now ∈ readings)
    (read' : now ∈ readings') (latest : ∀ u ∈ readings ++ readings', u ≤ now) :
    parts.sum = parts'.sum := by
  obtain ⟨n, counted⟩ := first.counted now read
  have below (u : τ) (among : u ∈ readings ++ readings') (m : Int) (count : count u = .ok m) : m ≤ n :=
    climbs u among now (List.mem_append_left _ read) (latest u among) m n count counted
  have total := first.total_eq read counted fun u used => below u (List.mem_append_left _ used)
  have total' := second.total_eq read' counted fun u used => below u (List.mem_append_right _ used)
  rw [first.sum, second.sum, total, total']

/-- Since its count last started a scheduler has handed out no negative amount and in total the greatest
counts at its readings, for instructions as for ticks. If counts climb with the clock, the totals at the
latest reading are the same however often the clock was read before it. -/
theorem work_handed_out_once {τ : Type} [Quantity τ] [LE τ] {cpu timer lag start : τ}
    {s : Scheduler τ} (opened : Scheduler.ofRates cpu timer lag start = .ok s)
    (calls : List (Scheduler.Call τ)) :
    let r := Tally.run { scheduler := s } calls
    let steps := Quantity.beats cpu r.scheduler.start
    let ticks := Quantity.beats timer r.scheduler.start
    Tallied steps r.readings (r.handed.map Due.steps) r.scheduler.steps ∧
      Tallied ticks r.readings (r.handed.map Due.ticks) r.scheduler.ticks ∧
      ∀ others : List (Scheduler.Call τ),
        let q := Tally.run { scheduler := s } others
        q.scheduler.start = r.scheduler.start →
        ∀ now ∈ r.readings, now ∈ q.readings → (∀ u ∈ r.readings ++ q.readings, u ≤ now) →
        Climbs steps (r.readings ++ q.readings) → Climbs ticks (r.readings ++ q.readings) →
        (r.handed.map Due.steps).sum = (q.handed.map Due.steps).sum ∧
          (r.handed.map Due.ticks).sum = (q.handed.map Due.ticks).sum := by
  intro r steps ticks
  obtain ⟨first, first'⟩ := Tally.tallied_run opened calls
  refine ⟨first, first', ?_⟩
  intro others q same now read read' latest climbs climbs'
  obtain ⟨second, second'⟩ : Tallied (Quantity.beats cpu q.scheduler.start) q.readings _ _ ∧
      Tallied (Quantity.beats timer q.scheduler.start) q.readings _ _ :=
    Tally.tallied_run opened others
  rw [same] at second second'
  exact ⟨first.total_unique second climbs read read' latest,
    first'.total_unique second' climbs' read read' latest⟩

/-- The clock is read three times, once going back, or only at the end. -/
theorem work_handed_out_once_thrice :
    let s : Scheduler Rat := ⟨700, 60, 1 / 4, 0, 0, 0⟩
    let r := Tally.run { scheduler := s } [.advance (1 / 30), .advance (1 / 60), .advance (1 / 20)]
    let q := Tally.run { scheduler := s } [.advance (1 / 20)]
    Scheduler.ofRates 700 60 (1 / 4) 0 = .ok s ∧
      r.handed = [⟨12, 1⟩, ⟨0, 0⟩, ⟨23, 2⟩] ∧ q.handed = [⟨35, 3⟩] ∧
      (r.handed.map Due.steps).sum = (q.handed.map Due.steps).sum ∧
      (r.handed.map Due.ticks).sum = (q.handed.map Due.ticks).sum := by
  intro s r q
  have opened : Scheduler.ofRates 700 60 (1 / 4) 0 = .ok s :=
    Scheduler.ofRates_eq_ok_iff.2 ⟨by decide +kernel, rfl⟩
  have read : r.readings = [1 / 20, 1 / 60, 1 / 30] := by decide +kernel
  have read' : q.readings = [1 / 20] := by decide +kernel
  have totals := (work_handed_out_once opened
    [.advance (1 / 30), .advance (1 / 60), .advance (1 / 20)]).2.2 [.advance (1 / 20)]
    (by decide +kernel) (1 / 20) (by decide +kernel) (by decide +kernel) (by decide +kernel)
    (climbs_rat (by decide +kernel) _ _) (climbs_rat (by decide +kernel) _ _)
  exact ⟨opened, by decide +kernel, by decide +kernel, totals⟩

end Chip8
