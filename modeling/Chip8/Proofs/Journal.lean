import Chip8.Proofs.Footprint
import Chip8.Proofs.Response

/-! The instructions that a machine has run since power-on or its last reset, kept beside the
machine, and what a host may do to a machine between two of them. -/
namespace Chip8

/-- An instruction that has run and the state from which its word was fetched. -/
structure Executed where
  before : State
  instruction : Instruction

/-- The instructions that have run, the last one first. -/
abbrev Journal := List Executed

/-- Something that runs instructions, with those it has run. -/
structure Recorded (α : Type) where
  now : α
  journal : Journal

/-- What a host does to a machine: it performs operations and may switch the strict checks on or
off between them. -/
inductive Move where
  | perform (op : Operation)
  | setStrict (strict : Bool)
deriving DecidableEq

/-- The parts of a state that a host changes without running an instruction. -/
def Part.host : List Part := [memory, delay, keypad, redraw]

namespace Machine

def move (m : Machine) : Move → Machine
  | .perform op => (m.apply op).machine
  | .setStrict strict => { m with strict }

def moveAll (m : Machine) (moves : List Move) : Machine := moves.foldl move m

/-- A machine at which a host can arrive from power-on. -/
def Reached (m : Machine) : Prop :=
  ∃ seed strict observer moves, m = (powerOn seed strict observer).moveAll moves

/-- The journal after a move: an accepted step is added to it, and a reset starts a new one. -/
def record (m : Machine) (journal : Journal) : Move → Journal
  | .perform .step =>
      match m.acceptedWord with
      | .ok word => ⟨m.state, .ofInt word⟩ :: journal
      | .error _ => journal
  | .perform .reset => []
  | _ => journal

/-- All that a move can do to a machine: run the accepted instruction, start anew, or change parts
that belong to the host. -/
inductive Moves (m : Machine) : Move → Machine → Prop where
  | executed {word : Int} : m.acceptedWord = .ok word → Moves m (.perform .step) m.executed
  | reset : Moves m (.perform .reset) m.reset.machine
  | host {move : Move} {n : Machine} : move ≠ .perform .reset →
      (∀ journal, m.record journal move = journal) →
      (∀ p ∉ Part.host, n.state.Same m.state p) → n.count = m.count → Moves m move n

variable {m : Machine}

theorem instruction_of_accepted {word : Int} (accepted : m.acceptedWord = .ok word) :
    .ofInt word = m.state.instruction := by
  rw [word_of_accepted accepted, State.instruction]

theorem stackRefusal?_of_accepted {word : Int} (accepted : m.acceptedWord = .ok word) :
    m.state.instruction.stackRefusal? m.state = none := by
  rw [acceptedWord_within (within_of_accepted accepted)] at accepted
  cases checked : m.state.instruction.refusal? m.state m.strict with
  | none => exact (Option.or_eq_none_iff.1 checked).1
  | some cause =>
    rw [checked] at accepted
    contradiction

theorem record_step {word : Int} (accepted : m.acceptedWord = .ok word) (journal : Journal) :
    m.record journal (.perform .step) = ⟨m.state, m.state.instruction⟩ :: journal := by
  simp only [record, accepted, instruction_of_accepted accepted]

theorem record_of_refuses {op : Operation} {e : Error} (refuses : m.Refuses op e)
    (journal : Journal) : m.record journal (.perform op) = journal := by
  cases op with
  | step =>
    obtain ⟨f, _, refused⟩ := acceptedWord_of_refuses refuses
    simp only [record, refused]
  | reset => nomatch refuses
  | _ => rfl

theorem Responds.moves {op : Operation} {r : Response} (responds : m.Responds op r) :
    m.Moves (.perform op) r.machine := by
  cases responds with
  | refused lines refuses =>
    refine .host ?_ (record_of_refuses refuses) (fun p _ => .refl _ p) rfl
    rintro ⟨⟩
    nomatch refuses
  | executed accepted => exact .executed accepted
  | reset => exact .reset
  | loaded | ticked | keyDown | keyUp =>
    refine .host nofun (fun _ => rfl) (fun p kept => ?_) rfl
    cases p <;> first | rfl | exact absurd (by decide) kept

theorem moves_move (m : Machine) (move : Move) : m.Moves move (m.move move) := by
  cases move with
  | perform op => exact (m.responds_apply op).moves
  | setStrict strict => exact .host nofun (fun _ => rfl) (fun p _ => .refl _ p) rfl

theorem Reached.invariant {P : Machine → Prop} (reached : m.Reached)
    (initial : ∀ seed strict observer, P (powerOn seed strict observer))
    (preserves : ∀ {k : Machine} {move : Move} {n : Machine}, k.Moves move n → P k → P n) : P m := by
  obtain ⟨seed, strict, observer, moves, rfl⟩ := reached
  exact List.foldlRecOn moves move (initial seed strict observer)
    fun k holds move _ => preserves (k.moves_move move) holds

end Machine

namespace Recorded

/-- Nothing has run yet. -/
def start {α : Type} (a : α) : Recorded α := ⟨a, []⟩

def move (r : Recorded Machine) (move : Move) : Recorded Machine :=
  ⟨r.now.move move, r.now.record r.journal move⟩

def run (r : Recorded Machine) (moves : List Move) : Recorded Machine := moves.foldl move r

theorem run_invariant {P : Recorded Machine → Prop} {r : Recorded Machine} (initial : P r)
    (preserves : ∀ {r : Recorded Machine} {move : Move} {n : Machine},
      r.now.Moves move n → P r → P ⟨n, r.now.record r.journal move⟩)
    (moves : List Move) : P (r.run moves) :=
  List.foldlRecOn moves move initial
    fun r holds move _ => preserves (r.now.moves_move move) holds

theorem now_run (r : Recorded Machine) (moves : List Move) :
    (r.run moves).now = r.now.moveAll moves := by
  induction moves generalizing r with
  | nil => rfl
  | cons first rest ih => exact ih (r.move first)

theorem reached_run (seed : Seed) (strict : Bool) (observer : Observer) (moves : List Move) :
    ((start (Machine.powerOn seed strict observer)).run moves).now.Reached :=
  ⟨seed, strict, observer, moves, now_run _ moves⟩

end Recorded
end Chip8
