import Chip8.Proofs.Turns

/-! Runs of a window's loop, one lap for each turn. Beside the window stand a tally of its scheduler and
the work done since time last counted anew. While the loop runs, this work is all that belongs between
the two readings, so the time of a pause is never made up for. -/
namespace Chip8

namespace Turn
variable {τ : Type}

/-- The clock readings of a turn in their order. -/
def readings (t : Turn τ) : List τ := t.events.map Prod.fst ++ [t.now]

/-- All turns of a loop. In the last one the user quits, at the same time as the one before. -/
def script (clock : τ) : List (Turn τ) → List (Turn τ)
  | [] => [.atOnce clock [.quit]]
  | t :: rest => t :: script t.now rest

end Turn

/-- A window with a tally of its scheduler and the operations that it has performed as work since the
tally started. -/
structure Watched (τ : Type) where
  window : Window τ
  tally : Tally τ
  done : List Operation

namespace Watched
variable {τ : Type}

def start (w : Window τ) : Watched τ := ⟨w, { scheduler := w.scheduler }, []⟩

def handle (r : Watched τ) (e : τ × WindowEvent) : Watched τ :=
  if e.2.resyncs then ⟨r.window.handle e, r.tally.resync e.1, []⟩
  else { r with window := r.window.handle e }

/-- The window when the events of a turn have been handled. -/
def handled (r : Watched τ) (t : Turn τ) : Watched τ := t.events.foldl handle r

/-- What was seen in a turn is not seen again in the next. -/
def cleared (r : Watched τ) : Watched τ := { r with window := { r.window with seen := #[] } }

theorem window_handle (r : Watched τ) (e : τ × WindowEvent) :
    (r.handle e).window = r.window.handle e := by
  unfold handle
  split <;> rfl

theorem window_handled (r : Watched τ) (t : Turn τ) :
    (r.handled t).window = t.events.foldl Window.handle r.window := by
  unfold handled
  generalize t.events = events
  induction events generalizing r with
  | nil => rfl
  | cons e rest ih => rw [List.foldl_cons, List.foldl_cons, ih, window_handle]

variable [Quantity τ]

def pace (r : Watched τ) (now : τ) : Watched τ where
  window := (r.window.pace now).1
  tally := r.tally.advance now
  done := if r.window.scheduler.drops now then [] else r.done ++ r.window.attempts now

def turn (r : Watched τ) (t : Turn τ) : Watched τ :=
  if (r.handled t).window.paused then r.handled t else (r.handled t).pace t.now

variable {r : Watched τ} {t : Turn τ}

theorem turn_of_paused (paused : (r.handled t).window.paused = true) : r.turn t = r.handled t :=
  if_pos paused

theorem turn_of_running (running : (r.handled t).window.paused = false) :
    r.turn t = (r.handled t).pace t.now :=
  if_neg (Bool.not_eq_true _ ▸ running)

theorem window_turn (r : Watched τ) (t : Turn τ) :
    (r.turn t).window = (r.window.turn t).1 := by
  cases paused : (r.handled t).window.paused with
  | true =>
    rw [turn_of_paused paused]
    rw [window_handled] at paused ⊢
    rw [Window.turn_of_paused paused]
  | false =>
    rw [turn_of_running paused, pace, window_handled]
    rw [window_handled] at paused
    rw [Window.turn_of_running paused]

end Watched

/-- A turn of a loop with the window before it. -/
structure Lap (τ : Type) where
  before : Watched τ
  turn : Turn τ

namespace Lap
variable {τ : Type} [Quantity τ]

/-- The window when the work is found due. -/
def handled (l : Lap τ) : Watched τ := l.before.handled l.turn

def after (l : Lap τ) : Watched τ := l.before.turn l.turn

/-- The error that leaves the loop, if there is one. -/
def error? (l : Lap τ) : Option Error := (l.before.window.turn l.turn).2

/-- What the machine is asked for: the user's operations, then those of the work due. -/
def operations (l : Lap τ) : List Operation :=
  l.turn.events.filterMap (fun e => e.2.operation?) ++
    if l.handled.window.paused then [] else l.handled.window.attempts l.turn.now

end Lap

namespace Watched
variable {τ : Type} [Quantity τ]

/-- The laps of a loop, up to the one in which the user quits or an error leaves it. -/
def laps (r : Watched τ) : List (Turn τ) → List (Lap τ)
  | [] => []
  | t :: rest =>
      let l : Lap τ := ⟨r, t⟩
      l :: match l.error? with
        | some _ => []
        | none => if l.after.window.running then laps l.after.cleared rest else []

end Watched

namespace Lap
variable {τ : Type} [Quantity τ] {l : Lap τ}

theorem machine_after (l : Lap τ) :
    l.after.window.machine = l.before.window.machine.after l.operations := by
  have events : l.handled.window.machine =
      l.before.window.machine.after (l.turn.events.filterMap fun e => e.2.operation?) := by
    rw [handled, Watched.window_handled, Window.machine_events]
  rw [operations, Machine.after_append, ← events]
  cases paused : l.handled.window.paused with
  | true =>
    rw [after, Watched.turn_of_paused paused]
    rfl
  | false =>
    rw [after, Watched.turn_of_running paused]
    exact Window.machine_pace _ _

theorem fault_lap (l : Lap τ) (f : Fault) : l.error? ≠ some (.fault f) := Window.fault_turn _ _ f

/-- A paused lap asks the machine for nothing but what the user asks for. -/
theorem operations_of_paused (paused : l.handled.window.paused = true) {op : Operation}
    (asked : op ∈ l.operations) : op ≠ .step ∧ op ≠ .tick := by
  rw [operations, if_pos paused, List.append_nil] at asked
  obtain ⟨e, _, found⟩ := List.mem_filterMap.1 asked
  exact WindowEvent.operation?_user found

end Lap

/-- A run of a loop gives the machines after its finished laps and ends as its last lap does. -/
theorem Window.play_eq {τ : Type} [Quantity τ] (r : Watched τ) (clock : τ) (turns : List (Turn τ)) :
    let laps := r.laps (Turn.script clock turns)
    (r.window.play clock turns).turns.map WindowRecord.machine =
        (laps.filter fun l => l.error?.isNone).map (fun l => l.after.window.machine) ∧
      (r.window.play clock turns).result = (laps.findSome? Lap.error?).elim (.ok ()) .error := by
  induction turns generalizing r clock with
  | nil =>
    cases turned : r.window.turn (.atOnce clock [.quit]) with
    | mk v e? =>
      have window : (r.turn (.atOnce clock [.quit])).window = v := by rw [r.window_turn, turned]
      have error : Lap.error? ⟨r, .atOnce clock [.quit]⟩ = e? := congrArg Prod.snd turned
      cases e? <;>
        simp [play, stop, turned, Turn.script, Watched.laps, error, Lap.after, window]
  | cons t rest ih =>
    cases turned : r.window.turn t with
    | mk v e? =>
      have window : (r.turn t).window = v := by rw [r.window_turn, turned]
      have error : Lap.error? ⟨r, t⟩ = e? := congrArg Prod.snd turned
      have later : (r.turn t).cleared.window = { v with seen := #[] } := by
        rw [Watched.cleared, window]
      have ih := ih (r.turn t).cleared t.now
      rw [later] at ih
      cases e? with
      | some e => simp [play, stop, turned, Turn.script, Watched.laps, error]
      | none =>
        cases running : v.running with
        | true =>
          simpa [play, turned, Turn.script, Watched.laps, error, Lap.after, window, running] using ih
        | false =>
          simp [play, stop, turned, Turn.script, Watched.laps, error, Lap.after, window, running]

/-- No fault of an instruction leaves a window. -/
theorem Window.faultless_run {τ : Type} [Quantity τ] (settings : WindowSettings τ) (machine : Machine)
    (mixer : Mixer) (start : τ) (turns : List (Turn τ)) :
    Faultless (run settings machine mixer start turns).result := by
  have outcome := setUp_outcome settings machine mixer start
  unfold run
  cases opened : setUp settings machine mixer start with
  | error failure =>
    rw [opened] at outcome
    exact outcome
  | ok w =>
    have ended : (w.play start turns).result = _ := (play_eq (Watched.start w) start turns).2
    change Faultless (w.play start turns).result
    rw [ended]
    cases found : ((Watched.start w).laps (Turn.script start turns)).findSome? Lap.error? with
    | none => trivial
    | some e =>
      obtain ⟨l, _, failed⟩ := List.exists_of_findSome?_eq_some found
      exact fun f same => l.fault_lap f (same ▸ failed)

namespace Watched
variable {τ : Type} [Quantity τ] {r : Watched τ} {l : Lap τ}

/-- What holds before the first turn and is kept by every turn that ends without an error holds before
each of the laps. -/
theorem before_laps {P : Watched τ → List (Turn τ) → Prop} {turns : List (Turn τ)}
    (kept : ∀ r t rest, P r (t :: rest) → Lap.error? ⟨r, t⟩ = none → P (r.turn t).cleared rest)
    (first : P r turns) (among : l ∈ r.laps turns) : ∃ rest, P l.before (l.turn :: rest) := by
  induction turns generalizing r with
  | nil => contradiction
  | cons t rest ih =>
    rcases List.mem_cons.1 among with rfl | later
    · exact ⟨rest, first⟩
    · cases failed : Lap.error? ⟨r, t⟩ with
      | some e =>
        rw [failed] at later
        contradiction
      | none =>
        simp only [failed] at later
        split at later
        · exact ih (kept r t rest first failed) later
        · contradiction

/-- The laps after the first of them are those of the window that it leaves. -/
theorem laps_of_cons {turns : List (Turn τ)} {tail : List (Lap τ)} (split : r.laps turns = l :: tail) :
    l.before = r ∧ ∃ later, tail = l.after.cleared.laps later := by
  cases turns with
  | nil => contradiction
  | cons t rest =>
    obtain ⟨rfl, rfl⟩ := List.cons.inj split
    refine ⟨rfl, ?_⟩
    cases Lap.error? ⟨r, t⟩ with
    | some e => exact ⟨[], rfl⟩
    | none =>
      cases (Lap.after ⟨r, t⟩).window.running with
      | false => exact ⟨[], rfl⟩
      | true => exact ⟨rest, rfl⟩

theorem laps_of_append {turns : List (Turn τ)} {first tail : List (Lap τ)}
    (split : r.laps turns = first ++ l :: tail) : ∃ later, tail = l.after.cleared.laps later := by
  induction first generalizing r turns with
  | nil => exact (laps_of_cons split).2
  | cons m rest ih =>
    obtain ⟨_, later, same⟩ := laps_of_cons split
    exact ih same.symm

end Watched

namespace Lap
variable {τ : Type}

/-- None of the events of a lap is a key after which time counts anew. -/
def Quiet (l : Lap τ) : Prop := ∀ e ∈ l.turn.events, e.2.resyncs = false

theorem paused_handled {l : Lap τ} (quiet : l.Quiet) :
    l.handled.window.paused = l.before.window.paused := by
  rw [handled, Watched.window_handled]
  refine List.foldlRecOn (motive := fun w : Window τ => w.paused = l.before.window.paused) _ _ rfl ?_
  intro w same e among
  rw [w.paused_handle (quiet e among), same]

variable [Quantity τ] {l : Lap τ}

theorem after_of_paused (paused : l.handled.window.paused = true) : l.after = l.handled :=
  Watched.turn_of_paused paused

theorem after_of_running (running : l.handled.window.paused = false) :
    l.after = l.handled.pace l.turn.now :=
  Watched.turn_of_running running

theorem error?_of_running (running : l.handled.window.paused = false) :
    l.error? = (l.handled.window.pace l.turn.now).2 := by
  rw [handled, Watched.window_handled] at running ⊢
  rw [error?, Window.turn_of_running running]

end Lap

/-- A pause lasts until one of two keys ends it. -/
theorem Watched.paused_until {τ : Type} [Quantity τ] {r : Watched τ} {turns : List (Turn τ)}
    {between tail : List (Lap τ)} {l : Lap τ} (paused : r.window.paused = true)
    (split : r.laps turns = between ++ l :: tail) (quiet : ∀ m ∈ between, m.Quiet) (last : l.Quiet) :
    l.handled.window.paused = true := by
  induction between generalizing r turns with
  | nil => rw [Lap.paused_handled last, (laps_of_cons split).1, paused]
  | cons m rest ih =>
    obtain ⟨rfl, later, same⟩ := laps_of_cons split
    obtain ⟨still, quiet⟩ := List.forall_mem_cons.1 quiet
    have paused : m.handled.window.paused = true := (Lap.paused_handled still).trans paused
    rw [Lap.after_of_paused paused] at same
    exact ih (r := m.handled.cleared) paused same.symm quiet

end Chip8
