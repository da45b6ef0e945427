import Chip8.Proofs.Laps

/-! The work of a window's loop between its pauses. Since time last counted anew, it is just what belongs
between that reading and the last one, so no time that was spent paused is made up for. -/
namespace Chip8

/-- A rate whose counts at the readings of a clock start at zero and climb. -/
structure Quantity.Steady {τ : Type} [Quantity τ] [LE τ] (rate : τ) (clock : List τ) : Prop where
  still : ∀ now ∈ clock, beats rate now now = .ok 0
  climbs : ∀ since ∈ clock, Climbs (beats rate since) clock

theorem Quantity.steady_rat {rate : Rat} (nonneg : 0 ≤ rate) (clock : List Rat) : Steady rate clock where
  still now _ := by
    have none : ⌊(now - now) * rate⌋ = 0 := by rw [sub_self, zero_mul, Int.floor_zero]
    exact congrArg Except.ok none
  climbs since _ := climbs_rat nonneg since clock

/-- The total of a steady rate is its count at the latest reading. -/
theorem Tallied.counted_latest {τ : Type} [Quantity τ] [LE τ] {rate since now : τ}
    {clock readings : List τ}
    {parts : List Int} {total : Int}
    (tallied : Tallied (Quantity.beats rate since) readings parts total)
    (steady : Quantity.Steady rate clock) (known : since ∈ clock) (among : readings ⊆ clock)
    (read : now ∈ readings) (after : since ≤ now) (latest : ∀ u ∈ readings, u = now ∨ u ≤ now) :
    Quantity.beats rate since now = .ok total := by
  obtain ⟨n, counted⟩ := tallied.counted now read
  have climbs := steady.climbs since known
  have nonneg : 0 ≤ n := climbs since known now (among read) after 0 n (steady.still since known) counted
  have most : ∀ u ∈ readings, ∀ m, Quantity.beats rate since u = .ok m → m ≤ n := by
    intro u used m count
    rcases latest u used with rfl | before
    · exact (Except.ok.inj (count.symm.trans counted)).le
    · exact climbs u (among used) now (among read) before m n count counted
  rw [counted, tallied.total_eq read counted most, max_eq_right nonneg]

namespace Tally
variable {τ : Type} {r : Tally τ} {now : τ} {past : List τ}

/-- The count started and was taken at readings of the past. -/
structure Within (r : Tally τ) (past : List τ) : Prop where
  start : r.scheduler.start ∈ past
  readings : r.readings ⊆ past

theorem Within.later (within : r.Within past) (more : List τ) : r.Within (past ++ more) :=
  ⟨List.mem_append_left _ within.start, List.subset_append_of_subset_left _ within.readings⟩

theorem within_resync (r : Tally τ) (now : τ) (past : List τ) : (r.resync now).Within (past ++ [now]) :=
  ⟨by simp [resync, Scheduler.resync], List.nil_subset _⟩

theorem Within.advance [Quantity τ] (within : r.Within past) (now : τ) :
    (r.advance now).Within (past ++ [now]) := by
  cases answered : r.scheduler.advance now with
  | error e =>
    rw [advance_of_error answered]
    exact within.later [now]
  | ok answer =>
    obtain ⟨s, due⟩ := answer
    cases Scheduler.answers_of_advance answered with
    | dropped dropped =>
      rw [advance_of_dropped answered dropped]
      exact within_resync r now past
    | kept kept =>
      rw [advance_of_kept answered kept]
      have later := within.later [now]
      exact ⟨later.start, List.cons_subset.2 ⟨by simp, later.readings⟩⟩

/-- Where the clock goes on, a call for work leaves the counts at its reading as the totals. -/
theorem Exact.counted_advance [Quantity τ] [LE τ] {future : List τ} (exact : r.Exact)
    (within : r.Within past) (forward : (past ++ now :: future).Pairwise (· ≤ ·))
    (steadyCpu : Quantity.Steady r.scheduler.cpuRate (past ++ now :: future))
    (steadyTimer : Quantity.Steady r.scheduler.timerRate (past ++ now :: future))
    {s : Scheduler τ} {due : Due} (answered : r.scheduler.advance now = .ok (s, due)) :
    Quantity.beats r.scheduler.cpuRate s.start now = .ok s.steps ∧
      Quantity.beats r.scheduler.timerRate s.start now = .ok s.ticks := by
  have here : now ∈ past ++ now :: future := List.mem_append_right _ List.mem_cons_self
  have advanced := exact.advance now
  cases Scheduler.answers_of_advance answered with
  | dropped dropped => exact ⟨steadyCpu.still now here, steadyTimer.still now here⟩
  | kept kept =>
    rw [advance_of_kept answered kept] at advanced
    have before {u : τ} (old : u ∈ past) : u ≤ now :=
      (List.pairwise_append.1 forward).2.2 u old now List.mem_cons_self
    have counted {rate : τ} {parts : List Int} {total : Int}
        (steady : Quantity.Steady rate (past ++ now :: future))
        (tallied : Tallied (Quantity.beats rate r.scheduler.start) (now :: r.readings) parts total) :
        Quantity.beats rate r.scheduler.start now = .ok total := by
      refine tallied.counted_latest steady (List.mem_append_left _ within.start) ?_ List.mem_cons_self
        (before within.start) fun u used => (List.mem_cons.1 used).imp_right fun old => ?_
      · exact List.cons_subset.2 ⟨here, List.subset_append_of_subset_left _ within.readings⟩
      · exact before (within.readings old)
    exact ⟨counted steadyCpu advanced.steps, counted steadyTimer advanced.ticks⟩

end Tally

namespace Watched
variable {τ : Type} {r : Watched τ} {cpu timer : τ} {past : List τ}

theorem within_handle (within : r.tally.Within past) (e : τ × WindowEvent) :
    (r.handle e).tally.Within (past ++ [e.1]) := by
  unfold handle
  split
  · exact Tally.within_resync r.tally e.1 past
  · exact within.later [e.1]

theorem within_handled (within : r.tally.Within past) (t : Turn τ) :
    (r.handled t).tally.Within (past ++ t.events.map Prod.fst) := by
  unfold handled
  generalize t.events = events
  induction events generalizing r past with
  | nil => simpa using within
  | cons e rest ih => simpa using ih (within_handle within e)

section
variable [Quantity τ]

theorem within_turn (within : r.tally.Within past) (t : Turn τ) :
    (r.turn t).tally.Within (past ++ t.readings) := by
  have handled := within_handled within t
  rw [Turn.readings, ← List.append_assoc]
  cases paused : (r.handled t).window.paused with
  | true =>
    rw [turn_of_paused paused]
    exact handled.later [t.now]
  | false =>
    rw [turn_of_running paused]
    exact handled.advance t.now

/-- While the loop is not paused, the work done is all that the scheduler has handed out. A refused step
leaves work undone, but the pause that it starts ends only when time counts anew. -/
structure OnTime (r : Watched τ) (cpu timer : τ) : Prop where
  scheduler : r.tally.scheduler = r.window.scheduler
  cpuRate : r.window.scheduler.cpuRate = cpu
  timerRate : r.window.scheduler.timerRate = timer
  exact : r.tally.Exact
  steps : r.window.paused = false → (r.done.count .step : Int) = r.window.scheduler.steps
  ticks : r.window.paused = false → (r.done.count .tick : Int) = r.window.scheduler.ticks

theorem onTime_start {w : Window τ} {lag now : τ}
    (opened : Scheduler.ofRates cpu timer lag now = .ok w.scheduler) : (start w).OnTime cpu timer := by
  obtain ⟨_, same⟩ := Scheduler.ofRates_eq_ok_iff.1 opened
  have exact : (start w).tally.Exact := by
    simp only [start, same]
    exact ⟨.empty, .empty⟩
  refine ⟨rfl, ?_, ?_, exact, fun _ => ?_, fun _ => ?_⟩ <;> simp [start, same]

theorem OnTime.handle (onTime : r.OnTime cpu timer) (e : τ × WindowEvent) :
    (r.handle e).OnTime cpu timer := by
  have scheduler := r.window.scheduler_handle e
  cases resyncs : e.2.resyncs with
  | true =>
    -- The work done and the counts both start at zero, paused or not.
    rw [resyncs, if_pos rfl] at scheduler
    rw [Watched.handle, if_pos resyncs]
    refine ⟨?_, ?_, ?_, Tally.exact_resync _ e.1, ?_, ?_⟩
    · rw [Tally.resync, onTime.scheduler, scheduler]
    · rw [scheduler, ← onTime.cpuRate, Scheduler.resync]
    · rw [scheduler, ← onTime.timerRate, Scheduler.resync]
    · exact fun _ => scheduler ▸ rfl
    · exact fun _ => scheduler ▸ rfl
  | false =>
    rw [resyncs, if_neg Bool.false_ne_true] at scheduler
    rw [Watched.handle, if_neg (Bool.not_eq_true _ ▸ resyncs)]
    have paused := r.window.paused_handle resyncs
    refine ⟨?_, ?_, ?_, onTime.exact, ?_, ?_⟩ <;> simp only [scheduler, paused]
    exacts [onTime.scheduler, onTime.cpuRate, onTime.timerRate, onTime.steps, onTime.ticks]

theorem OnTime.handled (onTime : r.OnTime cpu timer) (t : Turn τ) : (r.handled t).OnTime cpu timer :=
  List.foldlRecOn (motive := fun r : Watched τ => r.OnTime cpu timer) _ _ onTime
    fun _ onTime e _ => onTime.handle e

theorem OnTime.pace (onTime : r.OnTime cpu timer) (running : r.window.paused = false) {now : τ}
    (finished : (r.window.pace now).2 = none) : (r.pace now).OnTime cpu timer := by
  obtain ⟨scheduler, due, answered, same, all⟩ := Window.answered_of_finished finished
  rw [← onTime.scheduler] at answered
  have tally := Tally.scheduler_of_answered answered
  obtain ⟨cpuRate, timerRate, _⟩ := r.tally.settings_call (.advance now)
  rw [Tally.call, tally, onTime.scheduler] at cpuRate timerRate
  have counts (going : (r.window.pace now).1.paused = false) :
      ((r.pace now).done.count .step : Int) = scheduler.steps ∧
        ((r.pace now).done.count .tick : Int) = scheduler.ticks := by
    have steps := onTime.steps running
    have ticks := onTime.ticks running
    rw [← onTime.scheduler] at steps ticks
    simp only [Watched.pace, all going, ← onTime.scheduler]
    cases Scheduler.answers_of_advance answered with
    | dropped dropped =>
      rw [if_pos dropped]
      exact ⟨rfl, rfl⟩
    | kept kept =>
      rw [if_neg (Bool.not_eq_true _ ▸ kept), List.count_append, List.count_append,
        (Window.count_work _).1, (Window.count_work _).2]
      simp only [Scheduler.handOut, Scheduler.missing]
      omega
  refine ⟨tally.trans same.symm, ?_, ?_, onTime.exact.advance now, ?_, ?_⟩ <;>
    simp only [Watched.pace, same]
  exacts [cpuRate.trans onTime.cpuRate, timerRate.trans onTime.timerRate,
    fun going => (counts going).1, fun going => (counts going).2]

theorem OnTime.turn (onTime : r.OnTime cpu timer) {t : Turn τ} (finished : (r.window.turn t).2 = none) :
    (r.turn t).OnTime cpu timer := by
  have handled := onTime.handled t
  cases paused : (r.handled t).window.paused with
  | true => rwa [turn_of_paused paused]
  | false =>
    rw [turn_of_running paused]
    refine handled.pace paused ?_
    rw [window_handled] at paused ⊢
    rwa [Window.turn_of_running paused] at finished

theorem OnTime.cleared (onTime : r.OnTime cpu timer) : r.cleared.OnTime cpu timer :=
  ⟨onTime.scheduler, onTime.cpuRate, onTime.timerRate, onTime.exact, onTime.steps, onTime.ticks⟩

end
end Watched

namespace Lap
variable {τ : Type} [Quantity τ] {l : Lap τ}

/-- The work due is performed up to a step that the machine refuses. -/
def Halts (l : Lap τ) (first : List Operation) (v : Window τ) : Prop :=
  l.handled.window.paused = false ∧ ∃ scheduler due rest e,
    l.handled.window.scheduler.advance l.turn.now = .ok (scheduler, due) ∧
      Window.work due = first ++ .step :: rest ∧
      { l.handled.window with scheduler }.performAll first = (v, none) ∧
      v.machine.step.error? = some e

theorem paused_of_halts {first : List Operation} {v : Window τ} (halts : l.Halts first v) :
    l.after.window.machine = v.machine ∧ l.after.window.paused = true ∧ l.error? = none ∧
      l.operations = l.turn.events.filterMap (fun e => e.2.operation?) ++ first ++ [.step] := by
  obtain ⟨running, scheduler, due, rest, e, answered, batch, before, refused⟩ := halts
  obtain ⟨machine, paused, finished, attempts⟩ := Window.pace_of_refused answered batch before refused
  have running' : ¬ l.handled.window.paused = true := Bool.not_eq_true _ ▸ running
  rw [after_of_running running, error?_of_running running, operations, if_neg running', attempts,
    List.append_assoc]
  exact ⟨machine, paused, finished, rfl⟩

/-- After a lap that goes on without a pause, what was done since time last counted anew is what belongs
between that reading and the last one. -/
theorem counted_after [LE τ] {cpu timer : τ} {past future : List τ}
    (onTime : l.before.OnTime cpu timer) (within : l.before.tally.Within past)
    (forward : (past ++ (l.turn.readings ++ future)).Pairwise (· ≤ ·))
    (steadyCpu : Quantity.Steady cpu (past ++ (l.turn.readings ++ future)))
    (steadyTimer : Quantity.Steady timer (past ++ (l.turn.readings ++ future)))
    (finished : l.error? = none) (running : l.after.window.paused = false) :
    let since := l.after.tally.scheduler.start
    Quantity.beats cpu since l.turn.now = .ok (l.after.done.count .step) ∧
      Quantity.beats timer since l.turn.now = .ok (l.after.done.count .tick) := by
  intro since
  have going : l.handled.window.paused = false := by
    by_contra paused
    have paused := Bool.not_eq_false _ ▸ paused
    rw [after_of_paused paused, paused] at running
    contradiction
  have clock : past ++ (l.turn.readings ++ future) =
      (past ++ l.turn.events.map Prod.fst) ++ l.turn.now :: future := by
    simp [Turn.readings]
  rw [clock] at forward steadyCpu steadyTimer
  have after : l.after.OnTime cpu timer := onTime.turn finished
  have handled : l.handled.OnTime cpu timer := onTime.handled l.turn
  obtain ⟨s, due, answered, _⟩ := Window.answered_of_finished (error?_of_running going ▸ finished)
  rw [← handled.scheduler] at answered
  have same : l.after.tally.scheduler = s := by
    rw [after_of_running going]
    exact Tally.scheduler_of_answered answered
  have cpuRate := handled.scheduler ▸ handled.cpuRate
  have timerRate := handled.scheduler ▸ handled.timerRate
  subst cpuRate timerRate
  have totals := handled.exact.counted_advance (Watched.within_handled within l.turn) forward
    steadyCpu steadyTimer answered
  rw [← same] at totals
  rwa [after.steps running, after.ticks running, ← after.scheduler]

end Lap

namespace Window
variable {τ : Type} [Quantity τ]

theorem counted_laps [LE τ] {cpu timer lag start : τ} {turns : List (Turn τ)} {w : Window τ} {l : Lap τ}
    (opened : Scheduler.ofRates cpu timer lag start = .ok w.scheduler)
    (forward : (start :: turns.flatMap Turn.readings).Pairwise (· ≤ ·))
    (steadyCpu : Quantity.Steady cpu (start :: turns.flatMap Turn.readings))
    (steadyTimer : Quantity.Steady timer (start :: turns.flatMap Turn.readings))
    (among : l ∈ (Watched.start w).laps turns) (finished : l.error? = none)
    (running : l.after.window.paused = false) :
    let since := l.after.tally.scheduler.start
    Quantity.beats cpu since l.turn.now = .ok (l.after.done.count .step) ∧
      Quantity.beats timer since l.turn.now = .ok (l.after.done.count .tick) := by
  have first : (Watched.start w).tally.Within [start] := by
    obtain ⟨_, same⟩ := Scheduler.ofRates_eq_ok_iff.1 opened
    exact ⟨by simp [Watched.start, same], List.nil_subset _⟩
  -- Before each lap the readings are split into those of the past and those of the turns to come.
  obtain ⟨rest, onTime, past, read, within⟩ := Watched.before_laps
    (P := fun r later => r.OnTime cpu timer ∧ ∃ past,
      start :: turns.flatMap Turn.readings = past ++ later.flatMap Turn.readings ∧
        r.tally.Within past)
    (fun r t rest ⟨onTime, past, read, within⟩ finished =>
      ⟨(onTime.turn finished).cleared, past ++ t.readings, by simp [read],
        Watched.within_turn within t⟩)
    ⟨Watched.onTime_start opened, [start], rfl, first⟩ among
  rw [read, List.flatMap_cons] at forward steadyCpu steadyTimer
  exact Lap.counted_after onTime within forward steadyCpu steadyTimer finished running

end Window
end Chip8
