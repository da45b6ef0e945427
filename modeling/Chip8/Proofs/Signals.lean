import Chip8.Proofs.Decoding
import Chip8.Proofs.History
import Chip8.Proofs.Invariant

/-! The tones and the skipped words that listeners hear of. Both are read off the words that have run,
without the decoder: each word that asks for a tone gives one, each that is skipped is reported once,
and nothing else gives either. -/
namespace Chip8

namespace Event

/-- Whether an event tells what an instruction has done for a listener other than the log. -/
def isSignal : Event → Bool
  | .tone _ | .unknown _ => true
  | _ => false

def tone? : Event → Option Int
  | .tone milliseconds => some milliseconds
  | _ => none

def unknown? : Event → Option UnknownWord
  | .unknown word => some word
  | _ => none

end Event

namespace Executed

/-- The word that was fetched. -/
def word (e : Executed) : Nat := e.before.word.toNat

/-- The length in milliseconds of the tone that a word FX18 asks for, from the register before it. -/
def tone? (e : Executed) : Option Int :=
  if e.word / 0x1000 = 0xF ∧ e.word % 0x100 = 0x18 then
    some ((e.before.registers.get (.ofNat (e.word / 0x100))).toNat * 1000 / 60 : Nat)
  else none

/-- The report for a word FXNN whose last byte selects nothing. -/
def unknown? (e : Executed) : Option UnknownWord :=
  if e.word / 0x1000 = 0xF ∧
      e.word % 0x100 ∉ [0x07, 0x0A, 0x15, 0x18, 0x1E, 0x29, 0x33, 0x55, 0x65] then
    some ⟨UInt8.ofNat (e.word % 0x100), e.before.pc.toNat, e.word⟩
  else none

end Executed

theorem Instruction.requestTone_of_writes {i : Instruction} (written : .tone ∈ i.writes) :
    ∃ x, i = .misc .requestTone x := by
  cases i with
  | misc op x => cases op <;> simp [writes, MiscOp.writes] at written ⊢
  | _ => simp [writes] at written

namespace State
variable {s : State}

theorem tone_cycle (silent : s.tone = none) : s.cycle.tone = Executed.tone? ⟨s, s.instruction⟩ := by
  have decoded {x : Reg} : s.instruction = .misc .requestTone x ↔ _ :=
    Instruction.ofInt_eq_misc_iff s.word.toNat_lt
  by_cases asks : s.word.toNat / 0x1000 = 0xF ∧ s.word.toNat % 0x100 = 0x18
  · rw [Executed.tone?, Executed.word, if_pos asks, cycle_eq, decoded.2 ⟨asks, rfl⟩]
    rfl
  · rw [Executed.tone?, Executed.word, if_neg asks, cycle_eq, ← silent]
    refine execute_unwritten (p := .tone) s.passWord s.instruction fun written => asks ?_
    obtain ⟨x, tone⟩ := Instruction.requestTone_of_writes written
    exact (decoded.1 tone).1

theorem unknown?_word :
    Instruction.unknown? s.word.toNat s.pc.toNat = Executed.unknown? ⟨s, s.instruction⟩ := by
  have decoded {nn : UInt8} : Instruction.ofInt s.word.toNat = .unknownMisc nn ↔ _ :=
    Instruction.ofInt_eq_unknownMisc_iff s.word.toNat_lt
  by_cases skipped : s.word.toNat / 0x1000 = 0xF ∧
      s.word.toNat % 0x100 ∉ [0x07, 0x0A, 0x15, 0x18, 0x1E, 0x29, 0x33, 0x55, 0x65]
  · rw [Executed.unknown?, Executed.word, if_pos skipped, Instruction.unknown?,
      decoded.2 ⟨⟨skipped.1, MiscOp.forall_ne_code_iff.2 skipped.2⟩, rfl⟩]
  · rw [Executed.unknown?, Executed.word, if_neg skipped, Instruction.unknown?]
    split
    · next nn unknown =>
      obtain ⟨⟨top, other⟩, _⟩ := decoded.1 unknown
      exact absurd ⟨top, MiscOp.forall_ne_code_iff.1 other⟩ skipped
    · rfl

end State

namespace Machine
variable {m : Machine} {op : Operation}

theorem isSignal_of_idle (idle : m.executes? op = none) {event : Event}
    (reported : event ∈ (m.apply op).events) : event.isSignal = false := by
  have responds := m.responds_apply op
  generalize m.apply op = r at reported responds
  have among {n : Machine} {events : List Event} {error? : Option Error}
      (seen : event ∈ (n.respond events error?).events) : event ∈ events :=
    (List.mem_filter.1 seen).1
  cases responds with
  | refused lines =>
    obtain ⟨line, _, rfl⟩ := List.mem_map.1 (among reported)
    rfl
  | executed accepted =>
    rw [executes?_of_accepted accepted] at idle
    contradiction
  | ticked =>
    have frame := among reported
    cases due : m.state.redraw with
    | true => rw [if_pos due, List.mem_singleton] at frame; rw [frame]; rfl
    | false => simp [due] at frame
  | loaded | reset => rw [List.mem_singleton.1 (among reported)]; rfl
  | keyDown | keyUp => exact absurd (among reported) List.not_mem_nil

/-- Signals of one sort come from the instruction that an operation runs, if it runs one. -/
theorem filterMap_apply {α : Type} {f : Event → Option α} {g : Executed → Option α}
    (sort : ∀ event a, f event = some a → event.isSignal = true ∧ m.observer.sees event = true)
    (given : ∀ word, m.acceptedWord = .ok word →
      (wordReport word m.state.pc.toNat ++ m.state.cycle.tone.toList.map Event.tone).filterMap f =
        (g ⟨m.state, m.state.instruction⟩).toList) :
    (m.apply op).events.filterMap f = (m.executes? op).toList.filterMap g := by
  cases executes : m.executes? op with
  | none =>
    refine List.filterMap_eq_nil_iff.2 fun event reported => ?_
    have other := isSignal_of_idle executes reported
    refine Option.eq_none_iff_forall_ne_some.2 fun a found => ?_
    rw [(sort event a found).1] at other
    contradiction
  | some e =>
    obtain ⟨rfl, rfl, word, accepted⟩ := accepted_of_executes? executes
    have listened (event : Event) (a : α) (found : f event = some a) :
        m.executed.observer.sees event = true := (sort event a found).2
    rw [apply, step_of_accepted accepted, filterMap_respond listened, given word accepted]
    cases found : g ⟨m.state, m.state.instruction⟩ <;> simp [found]

theorem tones_wordReport (word address : Int) :
    (wordReport word address).filterMap Event.tone? = [] := by
  unfold wordReport
  cases Instruction.unknown? word address <;> rfl

/-- Tones and skipped words have a listener, and no tone is left over from before. -/
structure Attended (m : Machine) : Prop where
  tones : m.observer.tones = true
  unknowns : m.observer.unknowns = true
  delivered : m.state.tone = none

theorem Attended.apply (attended : m.Attended) (op : Operation) : (m.apply op).machine.Attended := by
  have observer := (m.responds_apply op).settings.2.2
  exact ⟨observer ▸ attended.tones, observer ▸ attended.unknowns,
    (m.responds_apply op).moves.tone attended.delivered⟩

theorem Attended.tones_apply (attended : m.Attended) (op : Operation) :
    (m.apply op).events.filterMap Event.tone? =
      (m.executes? op).toList.filterMap Executed.tone? := by
  refine filterMap_apply (fun event tone given => ?_) fun word _ => ?_
  · cases event <;> first | exact ⟨rfl, attended.tones⟩ | contradiction
  · rw [List.filterMap_append, tones_wordReport, State.tone_cycle attended.delivered]
    cases Executed.tone? ⟨m.state, m.state.instruction⟩ <;> rfl

theorem Attended.unknowns_apply (attended : m.Attended) (op : Operation) :
    (m.apply op).events.filterMap Event.unknown? =
      (m.executes? op).toList.filterMap Executed.unknown? := by
  refine filterMap_apply (fun event skipped given => ?_) fun word accepted => ?_
  · cases event <;> first | exact ⟨rfl, attended.unknowns⟩ | contradiction
  · have tones : (m.state.cycle.tone.toList.map Event.tone).filterMap Event.unknown? = [] := by
      cases m.state.cycle.tone <;> rfl
    rw [List.filterMap_append, tones, List.append_nil, ← State.unknown?_word,
      ← word_of_accepted accepted]
    unfold wordReport
    cases Instruction.unknown? word m.state.pc.toNat <;> rfl

theorem executed_of_unknown (delivered : m.state.tone = none) {nn : UInt8}
    (unknown : m.state.instruction = .unknownMisc nn) :
    m.executed =
      { m with state := { m.state with pc := m.state.pc + 2 }, count := m.count + 1 } := by
  have cycle : m.state.cycle = m.state.passWord := by rw [State.cycle_eq, unknown]; rfl
  have clear : m.state.passWord.clearTone = m.state.passWord := by
    rw [State.clearTone, ← delivered]
    rfl
  rw [executed, cycle, clear]
  rfl

/-- A word that is reported is passed over and does nothing else. -/
theorem Attended.step_of_unknown (attended : m.Attended) {word : UnknownWord}
    (reported : .unknown word ∈ m.step.events) :
    m.step.machine =
      { m with state := { m.state with pc := m.state.pc + 2 }, count := m.count + 1 } := by
  have reported : word ∈ (m.apply .step).events.filterMap Event.unknown? :=
    List.mem_filterMap.2 ⟨_, reported, rfl⟩
  rw [attended.unknowns_apply, List.mem_filterMap] at reported
  obtain ⟨e, ran, skipped⟩ := reported
  obtain ⟨_, rfl, _, accepted⟩ := accepted_of_executes? (Option.mem_toList.1 ran)
  have unknown : Instruction.unknown? m.state.word.toNat m.state.pc.toNat = some word :=
    State.unknown?_word.trans skipped
  unfold Instruction.unknown? at unknown
  split at unknown
  · next nn decoded =>
    rw [step_of_accepted accepted]
    exact executed_of_unknown attended.delivered decoded
  · contradiction

end Machine

namespace Session

/-- The durations that a listener for tones was given, oldest first. -/
def tones (s : Session) : List Int := s.seen.toList.filterMap Event.tone?

/-- The skipped words that a listener for them was told of, oldest first. -/
def unknowns (s : Session) : List UnknownWord := s.seen.toList.filterMap Event.unknown?

variable {s : Session}

theorem attended_run (attended : s.machine.Attended) (ops : List Operation) :
    (s.run ops).machine.Attended :=
  run_invariant (P := fun s => s.machine.Attended) (fun _ op attended => attended.apply op) attended ops

/-- From power-on, with listeners for tones and skipped words, the tones are those that the words FX18
which have run ask for, and the reports those of the words FXNN without a meaning that have run, each
once and in order. What is reported does nothing else but pass over the word. An operation that runs no
instruction gives neither. -/
theorem signals_are_exact (seed : Seed) (strict : Bool) (observer : Observer)
    (tones : observer.tones = true) (unknowns : observer.unknowns = true) (ops : List Operation) :
    let m := Machine.powerOn seed strict observer
    let s := (start m).run ops
    s.tones = (m.history ops).filterMap Executed.tone? ∧
      s.unknowns = (m.history ops).filterMap Executed.unknown? ∧
      (∀ word, .unknown word ∈ s.machine.step.events →
        s.machine.step.machine =
          { s.machine with
            state := { s.machine.state with pc := s.machine.state.pc + 2 }
            count := s.machine.count + 1 }) ∧
      ∀ op, (op = .step → s.machine.step.error? ≠ none) →
        ∀ event ∈ (s.machine.apply op).events, event.isSignal = false := by
  intro m s
  have attended : m.Attended := ⟨tones, unknowns, rfl⟩
  have keeps (n : Machine) (op : Operation) (attended : n.Attended) : (n.apply op).machine.Attended :=
    attended.apply op
  refine ⟨?_, ?_, fun word reported => ?_, fun op idle event reported => ?_⟩
  · exact filterMap_seen_run (s := start m) keeps
      (fun _ op attended => attended.tones_apply op) attended ops
  · exact filterMap_seen_run (s := start m) keeps
      (fun _ op attended => attended.unknowns_apply op) attended ops
  · exact (attended_run (s := start m) attended ops).step_of_unknown reported
  · exact Machine.isSignal_of_idle (Machine.executes?_eq_none_iff.2 idle) reported

/-- A tone of no length, one of three sixtieths of a second, and a word without a meaning. -/
theorem signals_are_exact_three :
    let observer : Observer := { level := default, tones := true, unknowns := true }
    let ops : List Operation := [.load [0xF0, 0x18, 0x60, 0x03, 0xF0, 0x18, 0xF0, 0xFF],
      .step, .step, .tick, .step, .keyDown 16, .step]
    let s := (start (Machine.powerOn default true observer)).run ops
    observer.tones = true ∧ observer.unknowns = true ∧
      s.tones = [0, 50] ∧ s.unknowns = [⟨0xFF, 0x206, 0xF0FF⟩] := by
  intro observer ops s
  obtain ⟨tones, unknowns, _⟩ := signals_are_exact default true observer rfl rfl ops
  exact ⟨rfl, rfl, tones.trans (by decide +kernel), unknowns.trans (by decide +kernel)⟩

end Session
end Chip8
