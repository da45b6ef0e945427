import Chip8.Host.Window
import Chip8.Proofs.Faultless
import Chip8.Proofs.Redraw

/-! What one turn of a window's loop does to its machine. Events of the user change the machine by resets
and keys alone, and the work that is due by ticks and steps alone, up to the first that fails. -/
namespace Chip8

namespace Operation
variable {σ : Type} {perform : σ → Operation → σ × Option Error} {s : σ} {ops : List Operation}

/-- The operations of a list that are performed, the last of them being the first that fails. -/
def attempted (perform : σ → Operation → σ × Option Error) (s : σ) : List Operation → List Operation
  | [] => []
  | op :: rest => op ::
      match perform s op with
      | (t, none) => attempted perform t rest
      | (_, some _) => []

theorem attempted_of_done (done : (runAll perform s ops).2 = none) : attempted perform s ops = ops := by
  induction ops generalizing s with
  | nil => rfl
  | cons op rest ih =>
    simp only [runAll] at done
    simp only [attempted]
    cases performed : perform s op with
    | mk t e? =>
      rw [performed] at done
      cases e? with
      | none => exact congrArg (op :: ·) (ih done)
      | some e => contradiction

theorem mem_of_mem_attempted {op : Operation} (tried : op ∈ attempted perform s ops) : op ∈ ops := by
  induction ops generalizing s with
  | nil => contradiction
  | cons first rest ih =>
    rcases List.mem_cons.1 tried with rfl | later
    · exact List.mem_cons_self
    · refine List.mem_cons_of_mem _ ?_
      cases performed : perform s first with
      | mk t e? =>
        rw [performed] at later
        cases e? with
        | none => exact ih later
        | some e => contradiction

theorem attempted_of_failed {t u : σ} {first rest : List Operation} {op : Operation} {e : Error}
    (before : runAll perform s first = (t, none)) (failed : perform t op = (u, some e)) :
    attempted perform s (first ++ op :: rest) = first ++ [op] := by
  induction first generalizing s with
  | nil =>
    cases before
    simp only [List.nil_append, attempted, failed]
  | cons next later ih =>
    simp only [runAll] at before
    simp only [List.cons_append, attempted]
    cases performed : perform s next with
    | mk v e? =>
      rw [performed] at before
      cases e? with
      | none => exact congrArg (next :: ·) (ih before)
      | some e => cases before

end Operation

namespace Machine
variable {m : Machine} {op : Operation}

/-- The machine after operations, refused or not. -/
def after (m : Machine) (ops : List Operation) : Machine :=
  ops.foldl (fun m op => (m.apply op).machine) m

theorem after_append (m : Machine) (first second : List Operation) :
    m.after (first ++ second) = (m.after first).after second := List.foldl_append

/-- Only ticks show frames. -/
theorem frame?_of_mem_apply (other : op ≠ .tick) {event : Event}
    (reported : event ∈ (m.apply op).events) : event.frame? = none := by
  have responds := m.responds_apply op
  generalize m.apply op = r at reported responds
  have among {n : Machine} {events : List Event} {error? : Option Error}
      (seen : event ∈ (n.respond events error?).events) : event ∈ events :=
    (List.mem_filter.1 seen).1
  cases responds with
  | ticked => contradiction
  | refused lines => exact List.filterMap_eq_nil_iff.1 (frames_log lines) event (among reported)
  | executed =>
    rcases List.mem_append.1 (among reported) with word | tone
    · exact List.filterMap_eq_nil_iff.1 (frames_wordReport _ _) event word
    · exact List.filterMap_eq_nil_iff.1 (frames_tones _) event tone
  | loaded | reset => rw [List.mem_singleton.1 (among reported)]; rfl
  | keyDown | keyUp => exact absurd (among reported) List.not_mem_nil

end Machine

namespace WindowEvent

/-- The two keys after which time counts anew. -/
def resyncs : WindowEvent → Bool
  | .down key => key = "p" || key = "f5"
  | _ => false

/-- The operation that an event asks the machine for. -/
def operation? : WindowEvent → Option Operation
  | .down key =>
      if key = "f5" then some .reset
      else (keyMap.lookup key).map fun code : Key => .keyDown code
  | .up key => (keyMap.lookup key).map fun code : Key => .keyUp code
  | _ => none

/-- The user asks for nothing but resets and keys. -/
theorem operation?_cases {e : WindowEvent} {op : Operation} (asked : e.operation? = some op) :
    op = .reset ∨ ∃ code : Key, op = .keyDown code ∨ op = .keyUp code := by
  cases e with
  | down key =>
    simp only [operation?] at asked
    split at asked
    · exact .inl (Option.some.inj asked).symm
    · obtain ⟨code, _, rfl⟩ := Option.map_eq_some_iff.1 asked
      exact .inr ⟨code, .inl rfl⟩
  | up key =>
    obtain ⟨code, _, rfl⟩ := Option.map_eq_some_iff.1 asked
    exact .inr ⟨code, .inr rfl⟩
  | quit | other => contradiction

theorem operation?_user {e : WindowEvent} {op : Operation} (asked : e.operation? = some op) :
    op ≠ .step ∧ op ≠ .tick := by
  obtain rfl | ⟨code, rfl | rfl⟩ := operation?_cases asked <;> exact ⟨nofun, nofun⟩

/-- No machine refuses what the user asks for. -/
theorem operation?_accepted {e : WindowEvent} {op : Operation} (asked : e.operation? = some op)
    (m : Machine) : (m.apply op).error? = none := by
  rw [Option.eq_none_iff_forall_ne_some]
  intro failure failed
  obtain rfl | ⟨code, rfl | rfl⟩ := operation?_cases asked
  · contradiction
  all_goals
    have unknown := (Machine.setKey_error?.1 failed).1
    exact unknown ⟨by omega, by omega⟩

end WindowEvent

namespace Window
variable {τ : Type}

theorem present_of_no_frame {w : Window τ} {event : Event} (other : event.frame? = none) :
    ∃ shown, w.present event = .ok shown := by
  cases event with
  | frame => contradiction
  | _ => exact ⟨_, rfl⟩

variable {w : Window τ} {op : Operation}

/-- An operation changes the machine and what is seen, and nothing else of a window. -/
theorem perform_eq (w : Window τ) (op : Operation) :
    ∃ seen, (w.perform op).1 = { w with machine := (w.machine.apply op).machine, seen } := by
  simp only [perform]
  split <;> exact ⟨_, rfl⟩

/-- Where no frame is shown, an operation fails in a window just as on the machine. -/
theorem error_perform (other : op ≠ .tick) : (w.perform op).2 = (w.machine.apply op).error? := by
  have presented : ∀ events : List Event, (∀ event ∈ events, event.frame? = none) →
      ∃ shown, events.mapM w.present = .ok shown := by
    intro events quiet
    induction events with
    | nil => exact ⟨[], rfl⟩
    | cons event rest ih =>
      obtain ⟨first, shown⟩ := present_of_no_frame (w := w) (quiet event List.mem_cons_self)
      obtain ⟨later, rest⟩ := ih fun event among => quiet event (List.mem_cons_of_mem _ among)
      exact ⟨first :: later, by rw [List.mapM_cons, shown, rest]; rfl⟩
  obtain ⟨shown, ok⟩ := presented (w.machine.apply op).events fun event reported =>
    Machine.frame?_of_mem_apply other reported
  simp only [perform, ok]

theorem machine_perform (w : Window τ) (op : Operation) :
    (w.perform op).1.machine = (w.machine.apply op).machine := by
  obtain ⟨seen, same⟩ := w.perform_eq op
  rw [same]

theorem performAll_eq (w : Window τ) (ops : List Operation) :
    ∃ machine seen, (w.performAll ops).1 = { w with machine, seen } := by
  induction ops generalizing w with
  | nil => exact ⟨_, _, rfl⟩
  | cons op rest ih =>
    obtain ⟨seen, same⟩ := w.perform_eq op
    simp only [performAll, Operation.runAll]
    cases performed : w.perform op with
    | mk v e? =>
      rw [performed] at same
      subst same
      cases e? with
      | some e => exact ⟨_, _, rfl⟩
      | none =>
        obtain ⟨machine, seen, later⟩ := ih _
        exact ⟨machine, seen, later⟩

theorem passKey_eq (w : Window τ) (key : String) (operation : Int → Operation) :
    let ops := (keyMap.lookup key).map fun code : Key => operation code
    ∃ seen, w.passKey key operation = { w with machine := w.machine.after ops.toList, seen } := by
  unfold passKey
  cases keyMap.lookup key with
  | none => exact ⟨_, rfl⟩
  | some code => exact w.perform_eq (operation code)

/-- All that an event does: it asks the machine for its operation, two keys let time count anew, and
only these end a pause or start one. -/
theorem handle_eq (w : Window τ) (now : τ) (e : WindowEvent) : ∃ paused running seen,
    w.handle (now, e) =
        { w with
          machine := w.machine.after e.operation?.toList
          scheduler := if e.resyncs then w.scheduler.resync now else w.scheduler
          paused, running, seen } ∧
      (e.resyncs = false → paused = w.paused) := by
  cases e with
  | quit | other => exact ⟨_, _, _, rfl, fun _ => rfl⟩
  | up key =>
    obtain ⟨seen, passed⟩ := w.passKey_eq key .keyUp
    exact ⟨_, _, _, passed, fun _ => rfl⟩
  | down key =>
    by_cases escape : key = "escape"
    · subst escape
      exact ⟨_, _, _, rfl, fun _ => rfl⟩
    by_cases p : key = "p"
    · subst p
      exact ⟨_, _, _, rfl, nofun⟩
    by_cases f5 : key = "f5"
    · subst f5
      obtain ⟨seen, reset⟩ := w.perform_eq .reset
      exact ⟨_, _, _, congrArg (fun v => { v with paused := false }.resync now) reset, nofun⟩
    · have other : (WindowEvent.down key).resyncs = false := by simp [WindowEvent.resyncs, p, f5]
      obtain ⟨seen, passed⟩ := w.passKey_eq key .keyDown
      rw [handle, if_neg escape, if_neg p, if_neg f5, WindowEvent.operation?, if_neg f5, other]
      exact ⟨_, _, _, passed, fun _ => rfl⟩

theorem machine_handle (w : Window τ) (e : τ × WindowEvent) :
    (w.handle e).machine = w.machine.after e.2.operation?.toList := by
  obtain ⟨_, _, _, same, _⟩ := w.handle_eq e.1 e.2
  rw [same]

theorem scheduler_handle (w : Window τ) (e : τ × WindowEvent) :
    (w.handle e).scheduler = if e.2.resyncs then w.scheduler.resync e.1 else w.scheduler := by
  obtain ⟨_, _, _, same, _⟩ := w.handle_eq e.1 e.2
  rw [same]

theorem paused_handle (w : Window τ) {e : τ × WindowEvent} (other : e.2.resyncs = false) :
    (w.handle e).paused = w.paused := by
  obtain ⟨_, _, _, same, kept⟩ := w.handle_eq e.1 e.2
  rw [same]
  exact kept other

theorem machine_performAll (w : Window τ) (ops : List Operation) :
    (w.performAll ops).1.machine = w.machine.after (Operation.attempted perform w ops) := by
  induction ops generalizing w with
  | nil => rfl
  | cons op rest ih =>
    have first := w.machine_perform op
    simp only [performAll, Operation.runAll, Operation.attempted]
    cases performed : w.perform op with
    | mk v e? =>
      rw [performed] at first
      cases e? with
      | none => rw [Machine.after, List.foldl_cons, ← first]; exact ih v
      | some e => exact first

theorem machine_events (w : Window τ) (events : List (τ × WindowEvent)) :
    (events.foldl handle w).machine =
      w.machine.after (events.filterMap fun e => e.2.operation?) := by
  induction events generalizing w with
  | nil => rfl
  | cons e rest ih =>
    rw [List.foldl_cons, ih, machine_handle, ← Machine.after_append]
    cases found : e.2.operation? <;> simp [found]

theorem count_work (due : Due) :
    (work due).count .step = due.steps.toNat ∧ (work due).count .tick = due.ticks.toNat := by
  simp [work, List.count_replicate]

section Pacing
variable [Quantity τ] {now : τ}

/-- The operations that are performed of the work due at a reading. -/
def attempts (w : Window τ) (now : τ) : List Operation :=
  match w.scheduler.advance now with
  | .error _ => []
  | .ok (scheduler, due) => Operation.attempted perform { w with scheduler } (work due)

theorem step_or_tick_of_mem_attempts {op : Operation} (tried : op ∈ w.attempts now) :
    op = .step ∨ op = .tick := by
  unfold attempts at tried
  split at tried
  · contradiction
  · rcases List.mem_append.1 (Operation.mem_of_mem_attempted tried) with tick | step
    · exact .inr (List.eq_of_mem_replicate tick)
    · exact .inl (List.eq_of_mem_replicate step)

/-- All that can come of the work due at a reading. -/
inductive Paces (w : Window τ) (now : τ) : Window τ × Option Error → Prop where
  | unanswered {e : Error} : w.scheduler.advance now = .error e → Paces w now (w, some e)
  | done {scheduler : Scheduler τ} {due : Due} {v : Window τ} :
      w.scheduler.advance now = .ok (scheduler, due) →
      { w with scheduler }.performAll (work due) = (v, none) → Paces w now (v, none)
  | halted {scheduler : Scheduler τ} {due : Due} {v : Window τ} {f : Fault} :
      w.scheduler.advance now = .ok (scheduler, due) →
      { w with scheduler }.performAll (work due) = (v, some (.fault f)) →
      Paces w now ({ v with paused := true }.log .warning "Paused after error, F5 resets", none)
  | failed {scheduler : Scheduler τ} {due : Due} {v : Window τ} {e : Error} :
      w.scheduler.advance now = .ok (scheduler, due) →
      { w with scheduler }.performAll (work due) = (v, some e) → (∀ f, e ≠ .fault f) →
      Paces w now (v, some e)

theorem paces_pace (w : Window τ) (now : τ) : w.Paces now (w.pace now) := by
  cases answered : w.scheduler.advance now with
  | error e =>
    simp only [pace, answered]
    exact .unanswered answered
  | ok answer =>
    obtain ⟨scheduler, due⟩ := answer
    cases performed : { w with scheduler }.performAll (work due) with
    | mk v e? =>
      simp only [pace, answered, performed]
      cases e? with
      | none => exact .done answered performed
      | some e =>
        cases e with
        | fault f => exact .halted answered performed
        | _ => exact .failed answered performed nofun

theorem attempts_of_answered {scheduler : Scheduler τ} {due : Due}
    (answered : w.scheduler.advance now = .ok (scheduler, due)) :
    w.attempts now = Operation.attempted perform { w with scheduler } (work due) := by
  simp only [attempts, answered]

theorem machine_pace (w : Window τ) (now : τ) :
    (w.pace now).1.machine = w.machine.after (w.attempts now) := by
  have performed {scheduler : Scheduler τ} {due : Due} {v : Window τ} {e? : Option Error}
      (answered : w.scheduler.advance now = .ok (scheduler, due))
      (result : { w with scheduler }.performAll (work due) = (v, e?)) :
      v.machine = w.machine.after (w.attempts now) := by
    rw [attempts_of_answered answered, ← machine_performAll { w with scheduler }, result]
  have paces := w.paces_pace now
  generalize w.pace now = result at paces
  cases paces with
  | unanswered failed => simp only [attempts, failed, Machine.after, List.foldl_nil]
  | done answered result | failed answered result => exact performed answered result
  | halted answered result =>
    have machine := performed answered result
    exact machine

/-- A step that is refused leaves the machine that it was tried on, the rest of the work is given up,
and the loop pauses. -/
theorem pace_of_refused {scheduler : Scheduler τ} {due : Due} {first rest : List Operation} {v : Window τ}
    {e : Error} (answered : w.scheduler.advance now = .ok (scheduler, due))
    (batch : work due = first ++ .step :: rest)
    (before : { w with scheduler }.performAll first = (v, none))
    (refused : v.machine.step.error? = some e) :
    (w.pace now).1.machine = v.machine ∧ (w.pace now).1.paused = true ∧ (w.pace now).2 = none ∧
      w.attempts now = first ++ [.step] := by
  obtain ⟨f, rfl⟩ := Machine.fault_of_step_error refused
  have same : (v.perform .step).2 = v.machine.step.error? := error_perform nofun
  have failed : v.perform .step = ((v.perform .step).1, some (.fault f)) :=
    Prod.ext rfl (same.trans refused)
  have machine : (v.perform .step).1.machine = v.machine :=
    (v.machine_perform .step).trans (Machine.machine_apply_of_error refused)
  have performed : { w with scheduler }.performAll (work due) = v.perform .step := by
    rw [performAll] at before
    rw [batch, performAll, Operation.runAll_append_of_done (congrArg Prod.snd before), before]
    simp only [Operation.runAll]
    rw [failed]
  rw [failed] at performed
  have paced : w.pace now = ({ (v.perform .step).1 with paused := true }.log .warning
      "Paused after error, F5 resets", none) := by
    simp only [pace, answered, performed]
  rw [paced, attempts_of_answered answered, batch]
  exact ⟨machine, rfl, rfl, Operation.attempted_of_failed before failed⟩

/-- Where the loop goes on, the scheduler has given an answer, and if it goes on without a pause, then
all the work was done. -/
theorem answered_of_finished (finished : (w.pace now).2 = none) : ∃ scheduler due,
    w.scheduler.advance now = .ok (scheduler, due) ∧ (w.pace now).1.scheduler = scheduler ∧
      ((w.pace now).1.paused = false → w.attempts now = work due) := by
  have kept {scheduler : Scheduler τ} {due : Due} {v : Window τ} {e? : Option Error}
      (result : { w with scheduler }.performAll (work due) = (v, e?)) : v.scheduler = scheduler := by
    obtain ⟨_, _, same⟩ := performAll_eq { w with scheduler } (work due)
    rw [result] at same
    exact congrArg Window.scheduler same
  have paces := w.paces_pace now
  generalize w.pace now = result at finished paces
  cases paces with
  | unanswered | failed => contradiction
  | done answered result =>
    refine ⟨_, _, answered, kept result, fun _ => ?_⟩
    rw [attempts_of_answered answered]
    exact Operation.attempted_of_done (congrArg Prod.snd result)
  | halted answered result =>
    have scheduler := kept result
    exact ⟨_, _, answered, scheduler, nofun⟩

theorem fault_pace (w : Window τ) (now : τ) (f : Fault) : (w.pace now).2 ≠ some (.fault f) := by
  have paces := w.paces_pace now
  generalize w.pace now = result at paces
  cases paces with
  | unanswered failed =>
    intro same
    cases same
    exact (Faultless.advance w.scheduler now).ne_fault f failed
  | done | halted => nofun
  | failed _ _ other =>
    intro same
    exact other f (Option.some.inj same)

theorem turn_of_paused {t : Turn τ} (paused : (t.events.foldl handle w).paused = true) :
    w.turn t = (t.events.foldl handle w, none) :=
  if_pos paused

theorem turn_of_running {t : Turn τ} (running : (t.events.foldl handle w).paused = false) :
    w.turn t = (t.events.foldl handle w).pace t.now :=
  if_neg (Bool.not_eq_true _ ▸ running)

theorem fault_turn (w : Window τ) (t : Turn τ) (f : Fault) : (w.turn t).2 ≠ some (.fault f) := by
  cases paused : (t.events.foldl handle w).paused with
  | true =>
    rw [turn_of_paused paused]
    nofun
  | false =>
    rw [turn_of_running paused]
    exact fault_pace _ _ f

end Pacing

end Window
end Chip8
