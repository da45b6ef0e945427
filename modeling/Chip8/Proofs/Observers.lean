import Chip8.Log.Console
import Chip8.Proofs.Run

/-! Observers watch a machine and do not act on it. What an operation does and reports is settled without
them, and each is told of its own part. So machines that differ in their observers go through the same
states, and each observer has seen what one that is told of everything would have seen, less what it does
not listen for. -/
namespace Chip8

namespace Observer

/-- An observer that is told of everything. -/
def attentive : Observer := ⟨.debug, true, true, true⟩

/-- What an observer is told of: log messages from its level up, and the kinds that it listens for. -/
inductive Hears (o : Observer) : Event → Prop where
  | log {level : Level} (text : String) : o.level.rank ≤ level.rank → Hears o (.log level text)
  | frame (picture : Grid) : o.frames = true → Hears o (.frame picture)
  | tone (milliseconds : Int) : o.tones = true → Hears o (.tone milliseconds)
  | unknown (word : UnknownWord) : o.unknowns = true → Hears o (.unknown word)

variable {o : Observer} {e : Event}

theorem sees_iff : o.sees e = true ↔ o.Hears e := by
  constructor
  · intro seen
    cases e with
    | log level text => exact .log text (of_decide_eq_true seen)
    | frame picture => exact .frame picture seen
    | tone milliseconds => exact .tone milliseconds seen
    | unknown word => exact .unknown word seen
  · rintro (⟨_, loud⟩ | ⟨_, listens⟩ | ⟨_, listens⟩ | ⟨_, listens⟩)
    · exact decide_eq_true loud
    all_goals exact listens

instance : Decidable (o.Hears e) := decidable_of_iff _ sees_iff

theorem sees_attentive (e : Event) : attentive.sees e = true := by
  cases e with
  | log level text => exact decide_eq_true (Nat.zero_le level.rank)
  | _ => rfl

end Observer

namespace Machine
variable {m : Machine}

/-- The same machine with another observer. -/
def watchedBy (m : Machine) (o : Observer) : Machine := { m with observer := o }

theorem watchedBy_of_observer {o : Observer} (same : m.observer = o) : m.watchedBy o = m := by
  subst same
  rfl

/-- An operation leads to one machine, one list of reports and one outcome, whoever watches. -/
theorem apply_watchedBy (m : Machine) (op : Operation) :
    ∃ (n : Machine) (reports : List Event) (error? : Option Error),
      ∀ o, (m.watchedBy o).apply op = (n.watchedBy o).respond reports error? := by
  cases op with
  | load program =>
    by_cases fits : program.length ≤ maxProgramSize
    · let memory := m.state.memory.writeBlock programStart program
      exact ⟨{ m with state := { m.state with memory }, program }, _, _, fun _ => load_of_fits fits⟩
    · exact ⟨m, _, _, fun _ => load_of_tooLong (Nat.lt_of_not_le fits)⟩
  | step =>
    cases checked : m.acceptedWord with
    | error f =>
      exact ⟨m, haltReport m.state f, _, fun o => step_of_refused (m := m.watchedBy o) checked⟩
    | ok word =>
      let tones := m.state.cycle.tone.toList.map Event.tone
      exact ⟨m.executed, wordReport word m.state.pc.toNat ++ tones, _,
        fun o => step_of_accepted (m := m.watchedBy o) checked⟩
  | tick =>
    let frames := if m.state.redraw then [Event.frame m.state.display] else []
    exact ⟨{ m with state := m.state.tick }, frames, none, fun _ => rfl⟩
  | keyDown code | keyUp code =>
    by_cases known : 0 ≤ code ∧ code < 16
    · exact ⟨{ m with state := m.state.setKey ⟨code.toNat, by omega⟩ _ }, _, _,
        fun _ => setKey_of_known known⟩
    · exact ⟨m, _, _, fun _ => setKey_of_unknown known⟩
  | reset => exact ⟨m.reset.machine, _, _, fun _ => rfl⟩

end Machine

namespace Session
variable {o : Observer} {s full : Session}

/-- A session beside the same session with an observer that is told of everything. -/
structure Overhears (o : Observer) (s full : Session) : Prop where
  machine : s.machine = full.machine.watchedBy o
  attentive : full.machine.observer = .attentive
  seen : s.seen.toList = full.seen.toList.filter o.sees

theorem overhears_start (m : Machine) (o : Observer) :
    (start (m.watchedBy o)).Overhears o (start (m.watchedBy .attentive)) :=
  ⟨rfl, rfl, rfl⟩

theorem Overhears.apply (overhears : s.Overhears o full) (op : Operation) :
    (s.machine.apply op).error? = (full.machine.apply op).error? ∧
      (s.machine.apply op).machine = (full.machine.apply op).machine.watchedBy o ∧
      (full.machine.apply op).machine.observer = .attentive ∧
      (s.machine.apply op).events = (full.machine.apply op).events.filter o.sees := by
  obtain ⟨n, reports, error?, same⟩ := full.machine.apply_watchedBy op
  have heard : s.machine.apply op = (n.watchedBy o).respond reports error? :=
    overhears.machine ▸ same o
  have all : full.machine.apply op = (n.watchedBy .attentive).respond reports error? := by
    rw [← same, Machine.watchedBy_of_observer overhears.attentive]
  have reported : ((n.watchedBy .attentive).respond reports error?).events = reports :=
    List.filter_eq_self.2 fun e _ => Observer.sees_attentive e
  rw [heard, all, reported]
  exact ⟨rfl, rfl, rfl, rfl⟩

theorem Overhears.next (overhears : s.Overhears o full) (op : Operation) :
    (s.next op).Overhears o (full.next op) := by
  obtain ⟨_, machine, attentive, events⟩ := overhears.apply op
  refine ⟨machine, attentive, ?_⟩
  rw [seen_next, seen_next, List.filter_append, overhears.seen, events]

theorem Overhears.run (overhears : s.Overhears o full) (ops : List Operation) :
    (s.run ops).Overhears o (full.run ops) := by
  induction ops generalizing s full with
  | nil => exact overhears
  | cons op rest ih => exact ih (overhears.next op)

end Session

namespace Console
variable {o : Observer}

/-- The lines that a console prints for a report of a machine. -/
def lines (c : Console) (elapsed : Float) : Event → List String
  | .log level text => c.print elapsed level.name text
  | _ => []

/-- A console with an observer's level and no clock. -/
def plain (c : Console) (level : Level) : Console :=
  { c with threshold := level, timestamps := false }

theorem admits_name (c : Console) (level : Level) :
    c.admits level.name = decide (c.threshold.rank ≤ level.rank) := by
  rw [admits, Level.ofName?_name]
  rfl

theorem header_plain (c : Console) (level level' : Level) (elapsed elapsed' : Float) (label : String) :
    (c.plain level).header elapsed label = (c.plain level').header elapsed' label := by
  simp only [header, plain, Bool.false_eq_true, if_false]
  rfl

/-- What a console with a level leaves out are the messages that the observer is not told of. -/
theorem lines_plain (c : Console) (elapsed elapsed' : Float) (e : Event) :
    (c.plain o.level).lines elapsed e =
      if o.sees e then (c.plain .debug).lines elapsed' e else [] := by
  cases e with
  | log level text =>
    have all : (c.plain .debug).admits level.name = true :=
      (admits_name _ level).trans (decide_eq_true (Nat.zero_le _))
    have heard : (c.plain o.level).admits level.name = o.sees (.log level text) := admits_name _ level
    simp only [lines, print, all, heard, if_true, c.header_plain o.level .debug elapsed elapsed']
  | _ => exact (ite_self _).symm

theorem flatMap_lines_plain (c : Console) (elapsed elapsed' : Float) (reports : List Event) :
    reports.flatMap ((c.plain o.level).lines elapsed) =
      (reports.filter o.sees).flatMap ((c.plain .debug).lines elapsed') := by
  induction reports with
  | nil => rfl
  | cons e rest ih =>
    rw [List.flatMap_cons, lines_plain c elapsed elapsed', ih, List.filter_cons]
    split
    · rfl
    · rfl

end Console

/-- Two machines that differ in their observers have the same state, count and program after the same
operations, and the next one fails for both or for neither, with the same error. An observer has seen
just what it listens for of all that there was to see. What a console prints of that is what a console
with the observer's level prints of everything. -/
theorem observers_only_watch (seed : Seed) (strict : Bool) (ops : List Operation) :
    let s (o : Observer) := (Session.start (.powerOn seed strict o)).run ops
    let all := (s .attentive).seen.toList
    (∀ o p, (s o).machine.state = (s p).machine.state ∧ (s o).machine.count = (s p).machine.count ∧
        (s o).machine.program = (s p).machine.program ∧
        ∀ op, ((s o).machine.apply op).error? = ((s p).machine.apply op).error?) ∧
      ∀ o, (s o).seen.toList = all.filter (fun e => o.Hears e) ∧
        ∀ (c : Console) (elapsed elapsed' : Float),
          (s o).seen.toList.flatMap ((c.plain .debug).lines elapsed) =
            all.flatMap ((c.plain o.level).lines elapsed') := by
  intro s all
  have overhears (o : Observer) : (s o).Overhears o (s .attentive) :=
    (Session.overhears_start (.powerOn seed strict .attentive) o).run ops
  have error? (o : Observer) (op : Operation) :
      ((s o).machine.apply op).error? = ((s .attentive).machine.apply op).error? :=
    ((overhears o).apply op).1
  have errors (o p : Observer) (op : Operation) :
      ((s o).machine.apply op).error? = ((s p).machine.apply op).error? :=
    (error? o op).trans (error? p op).symm
  refine ⟨fun o p => ⟨?_, ?_, ?_, errors o p⟩, fun o => ⟨?_, ?_⟩⟩
  · rw [(overhears o).machine, (overhears p).machine]
    rfl
  · rw [(overhears o).machine, (overhears p).machine]
    rfl
  · rw [(overhears o).machine, (overhears p).machine]
    rfl
  · rw [(overhears o).seen]
    refine List.filter_congr fun e _ => ?_
    rw [Bool.eq_iff_iff, Observer.sees_iff, decide_eq_true_iff]
  · intro c elapsed elapsed'
    rw [(overhears o).seen, c.flatMap_lines_plain elapsed' elapsed]

end Chip8
