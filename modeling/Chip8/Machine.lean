import Chip8.Admission
import Chip8.Error
import Chip8.Event
import Chip8.Execution
import Chip8.Log.Dump

/-! A machine: a state together with its program, its settings and its observer. An operation
that is refused leaves the machine as it was. -/
namespace Chip8

structure Machine where
  seed : Seed
  strict : Bool
  observer : Observer
  program : List UInt8
  /-- Instructions executed since power-on or the last reset. -/
  count : Nat
  state : State

/-- What an operation leaves behind: the machine, what its observer saw and the error that
refused the operation, if any. -/
structure Response where
  machine : Machine
  events : List Event := []
  error? : Option Error := none

namespace Machine

def powerOn (seed : Seed) (strict : Bool) (observer : Observer) : Machine :=
  ⟨seed, strict, observer, [], 0, .powerOn seed⟩

instance : Inhabited Machine := ⟨powerOn default true default⟩

/-- A response that passes on the events with a listener. -/
def respond (m : Machine) (events : List Event) (error? : Option Error := none) : Response :=
  ⟨m, events.filter m.observer.sees, error?⟩

def load (m : Machine) (program : List UInt8) : Response :=
  match m.state.load program with
  | .ok state =>
      let size := program.length
      respond { m with state, program } [.log .info s!"Loaded {size} byte program"]
  | .error f => m.respond [] (some (.fault f))

/-- Power-on state with the program that was loaded last. -/
def reset (m : Machine) : Response :=
  let state := State.powerOn m.seed
  let memory := state.memory.writeBlock programStart m.program
  respond { m with state := { state with memory }, count := 0 } [.log .info "Machine reset"]

/-- The word at the program counter and the instruction it stands for, if it may run. -/
def acceptedWord (m : Machine) : Except Fault Int := do
  let address : Int := m.state.pc.toNat
  let word : Int := m.state.word.toNat
  checkFetch address
  Instruction.check word address m.state m.strict
  return word

def haltReport (s : State) (f : Fault) : List Event :=
  (haltMessages f.text (some s)).map (.log .error)

def wordReport (word address : Int) : List Event :=
  let skipped :=
    match Instruction.unknown? word address with
    | some u => [.log .debug u.text, .unknown u]
    | none => []
  .log .debug (describeWordAt address word) :: skipped

/-- The machine past an instruction whose tone has been handed out. -/
def executed (m : Machine) : Machine :=
  { m with state := m.state.cycle.clearTone, count := m.count + 1 }

def step (m : Machine) : Response :=
  match m.acceptedWord with
  | .error f => m.respond (haltReport m.state f) (some (.fault f))
  | .ok word =>
      let tones := m.state.cycle.tone.toList.map Event.tone
      m.executed.respond (wordReport word m.state.pc.toNat ++ tones)

/-- Advances the delay timer and shows the screen if it has changed. -/
def tick (m : Machine) : Response :=
  respond { m with state := m.state.tick } (if m.state.redraw then [.frame m.state.display] else [])

def setKey (m : Machine) (code : Int) (down : Bool) : Response :=
  if h : 0 ≤ code ∧ code < 16 then
    respond { m with state := m.state.setKey ⟨code.toNat, by omega⟩ down } []
  else m.respond [] (some (.noSuchKey code))

end Machine

inductive Operation where
  | load (program : List UInt8)
  | step
  | tick
  | keyDown (code : Int)
  | keyUp (code : Int)
  | reset
deriving DecidableEq

def Machine.apply (m : Machine) : Operation → Response
  | .load program => m.load program
  | .step => m.step
  | .tick => m.tick
  | .keyDown code => m.setKey code true
  | .keyUp code => m.setKey code false
  | .reset => m.reset

/-- Performs operations in order up to the first that fails. -/
def Operation.runAll {σ : Type} (perform : σ → Operation → σ × Option Error) (s : σ) :
    List Operation → σ × Option Error
  | [] => (s, none)
  | op :: rest =>
      match perform s op with
      | (s, none) => runAll perform s rest
      | (s, some e) => (s, some e)

theorem Operation.runAll_append {σ : Type} (perform : σ → Operation → σ × Option Error) (s : σ)
    (first second : List Operation) :
    runAll perform s (first ++ second) =
      match runAll perform s first with
      | (t, none) => runAll perform t second
      | failed => failed := by
  induction first generalizing s with
  | nil => rfl
  | cons op rest ih =>
    simp only [List.cons_append, runAll]
    cases perform s op with
    | mk t e? => cases e? with
      | none => exact ih t
      | some e => rfl

theorem Operation.runAll_append_of_done {σ : Type} {perform : σ → Operation → σ × Option Error}
    {s : σ} {first : List Operation} (done : (runAll perform s first).2 = none)
    (second : List Operation) :
    runAll perform s (first ++ second) = runAll perform (runAll perform s first).1 second := by
  rw [runAll_append]
  cases result : runAll perform s first with
  | mk t e? =>
    obtain rfl : e? = none := by rwa [result] at done
    rfl

/-- What comes after an operation that fails is not performed. -/
theorem Operation.runAll_append_of_failed {σ : Type} {perform : σ → Operation → σ × Option Error}
    {s : σ} {first : List Operation} {e : Error} (failed : (runAll perform s first).2 = some e)
    (second : List Operation) : runAll perform s (first ++ second) = runAll perform s first := by
  rw [runAll_append]
  cases result : runAll perform s first with
  | mk t e? =>
    obtain rfl : e? = some e := by rwa [result] at failed
    rfl

namespace Machine

/-- An instruction that is refused leaves the machine as it was. -/
theorem step_of_refused {m : Machine} {f : Fault} (refused : m.acceptedWord = .error f) :
    m.step = m.respond (haltReport m.state f) (some (.fault f)) := by
  simp only [step, refused]

theorem step_of_accepted {m : Machine} {word : Int} (accepted : m.acceptedWord = .ok word) :
    m.step = m.executed.respond
      (wordReport word m.state.pc.toNat ++ m.state.cycle.tone.toList.map Event.tone) := by
  simp only [step, accepted]

theorem load_of_fits {m : Machine} {program : List UInt8} (fits : program.length ≤ maxProgramSize) :
    m.load program =
      let memory := m.state.memory.writeBlock programStart program
      let size := program.length
      respond { m with state := { m.state with memory }, program }
        [.log .info s!"Loaded {size} byte program"] := by
  simp only [load, State.load, if_neg (Nat.not_lt.2 fits)]

theorem load_of_tooLong {m : Machine} {program : List UInt8}
    (long : maxProgramSize < program.length) :
    m.load program = m.respond []
      (some (.fault ⟨.programTooLong program.length, { address := some programStart }⟩)) := by
  simp only [load, State.load, if_pos long]

theorem setKey_of_known {m : Machine} {code : Int} {down : Bool} (known : 0 ≤ code ∧ code < 16) :
    m.setKey code down =
      respond { m with state := m.state.setKey ⟨code.toNat, by omega⟩ down } [] :=
  dif_pos known

theorem setKey_of_unknown {m : Machine} {code : Int} {down : Bool}
    (unknown : ¬ (0 ≤ code ∧ code < 16)) :
    m.setKey code down = m.respond [] (some (.noSuchKey code)) :=
  dif_neg unknown

end Machine
end Chip8
