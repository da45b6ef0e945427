import Chip8.Proofs.Journal

/-! The random bytes that programs get. The source is a key that is split in two for each byte, one half
to draw the byte from and one to carry on. Only the instruction that asks for a byte touches it, once
whatever its mask, so that the bytes form one stream for each seed, of which a program takes the next
byte each time. -/
namespace Chip8

namespace Random

/-- The half of a key that is carried on and the half that a byte is drawn from. -/
def split (r : Random) : Random × Random :=
  (⟨Threefry.block r.key ⟨0, 0⟩⟩, ⟨Threefry.block r.key ⟨0, 1⟩⟩)

/-- The byte that a half gives. -/
def draw (half : Random) : UInt8 :=
  let bits := Threefry.block half.split.2.key ⟨0, 0⟩
  (bits.fst ^^^ bits.snd).toUInt8

theorem next_eq (r : Random) : r.next = r.split.1 := rfl

theorem byte_eq (r : Random) : r.byte = r.split.2.draw := rfl

/-- The key of a seed after a number of splits. -/
def carried (seed : Seed) : Nat → Random
  | 0 => ofSeed seed
  | n + 1 => (carried seed n).split.1

/-- The stream of bytes of a seed. -/
def stream (seed : Seed) (n : Nat) : UInt8 := (carried seed n).split.2.draw

end Random

/-- Whether an instruction asks for a random byte. -/
def Instruction.isRandom : Instruction → Bool
  | random .. => true
  | _ => false

/-- The number of random bytes that have been asked for. -/
def Journal.draws (j : Journal) : Nat := j.countP (·.instruction.isRandom)

theorem State.random_execute (s : State) (i : Instruction) :
    (s.execute i).random = if i.isRandom then s.random.next else s.random := by
  cases i with
  | random => rfl
  | misc op x =>
    have unwritten : .random ∉ op.writes := by cases op <;> decide
    exact execute_unwritten (p := .random) s (.misc op x) unwritten
  | _ => exact execute_unwritten (p := .random) s _ (by simp [Instruction.writes])

namespace Machine
variable {m n : Machine} {move : Move} {j : Journal}

theorem seed_move (m : Machine) (move : Move) : (m.move move).seed = m.seed := by
  cases move with
  | perform op => exact (m.responds_apply op).settings.1
  | setStrict => rfl

/-- A move takes the source along with the journal. -/
theorem Moves.random (moves : m.Moves move n)
    (drawn : m.state.random = .carried m.seed j.draws) :
    n.state.random = .carried m.seed (m.record j move).draws := by
  cases moves with
  | executed accepted =>
    have next : m.executed.state.random = _ := m.state.passWord.random_execute m.state.instruction
    rw [record_step accepted, next, Journal.draws, List.countP_cons]
    cases m.state.instruction.isRandom with
    | true =>
      have advanced : m.state.random.next = .carried m.seed (j.draws + 1) := by
        rw [Random.next_eq, drawn]
        rfl
      exact advanced
    | false => exact drawn
  | reset => rfl
  | host _ unrecorded same =>
    have kept : n.state.random = m.state.random := same .random (by decide)
    rw [kept, unrecorded, drawn]

/-- Whether the next step is accepted and asks for a random byte under a mask. -/
def Asks (m : Machine) (x : Reg) (mask : UInt8) : Prop :=
  m.step.error? = none ∧ m.state.instruction = .random x mask

theorem Asks.registers {x : Reg} {mask : UInt8} (asks : m.Asks x mask) :
    m.step.machine.state.registers = m.state.registers.set x (m.state.random.byte &&& mask) := by
  obtain ⟨accepted, random⟩ := asks
  obtain ⟨word, accepted⟩ := accepted_iff.1 accepted
  have cycle : m.state.cycle = m.state.passWord.setRandom x mask := by
    rw [State.cycle_eq, random]
    rfl
  have state : m.step.machine.state = m.state.cycle.clearTone := by
    rw [step_of_accepted accepted]
    rfl
  rw [state, cycle]
  rfl

end Machine

namespace Recorded

theorem random_run (seed : Seed) (strict : Bool) (observer : Observer) (moves : List Move) :
    let r := (start (Machine.powerOn seed strict observer)).run moves
    r.now.seed = seed ∧ r.now.state.random = .carried seed r.journal.draws := by
  have initial : (start (Machine.powerOn seed strict observer)).now.state.random = .carried seed 0 :=
    rfl
  refine List.foldlRecOn moves Recorded.move
    (motive := fun r => r.now.seed = seed ∧ r.now.state.random = .carried seed r.journal.draws)
    (And.intro rfl initial) ?_
  rintro r ⟨rfl, drawn⟩ move _
  exact ⟨r.now.seed_move move, (r.now.moves_move move).random drawn⟩

theorem registers_run_step (seed : Seed) (strict : Bool) (observer : Observer) (moves : List Move) :
    let r := (start (Machine.powerOn seed strict observer)).run moves
    ∀ x mask, r.now.Asks x mask →
      r.now.step.machine.state.registers =
        r.now.state.registers.set x (Random.stream seed r.journal.draws &&& mask) := by
  intro r x mask asks
  rw [asks.registers, Random.byte_eq, (random_run seed strict observer moves).2]
  rfl

/-- After any moves from power-on the key of the seed has been split once for each random byte that has
been asked for since the last reset. The next to be asked for is the byte of the seed's stream at that
place, and so it is the same in all runs from this seed that have asked for as many. -/
theorem random_stream_of_seed (seed : Seed) (strict : Bool) (observer : Observer)
    (moves : List Move) :
    let r := (start (Machine.powerOn seed strict observer)).run moves
    r.now.state.random = .carried seed r.journal.draws ∧
      (∀ x mask, r.now.Asks x mask →
        r.now.step.machine.state.registers =
          r.now.state.registers.set x (Random.stream seed r.journal.draws &&& mask)) ∧
      ∀ (strict' : Bool) (observer' : Observer) (moves' : List Move),
        let other := (start (Machine.powerOn seed strict' observer')).run moves'
        other.journal.draws = r.journal.draws →
        ∀ x mask y mask', r.now.Asks x mask → other.now.Asks y mask' →
          ∃ byte, r.now.step.machine.state.registers.get x = byte &&& mask ∧
            other.now.step.machine.state.registers.get y = byte &&& mask' := by
  intro r
  refine ⟨(random_run seed strict observer moves).2,
    registers_run_step seed strict observer moves, ?_⟩
  intro strict' observer' moves' other same x mask y mask' asks asks'
  refine ⟨Random.stream seed r.journal.draws, ?_, ?_⟩
  · rw [registers_run_step seed strict observer moves x mask asks, Registers.get_set_self]
  · rw [registers_run_step seed strict' observer' moves' y mask' asks', Registers.get_set_self, same]

/-- Two programs that ask for their second byte, one of them after a mask of zero, a tick and a key. -/
theorem random_stream_of_seed_second :
    let moves : List Move := [.perform (.load [0xC0, 0x0F, 0xC1, 0xFF]), .perform .step]
    let moves' : List Move := [.perform (.load [0x6A, 0x07, 0xC2, 0x00, 0xC3, 0xF0]), .perform .step,
      .perform .tick, .perform (.keyDown 3), .perform .step]
    let r := (start (Machine.powerOn default true default)).run moves
    let other := (start (Machine.powerOn default false default)).run moves'
    r.now.Asks 1 0xFF ∧ other.now.Asks 3 0xF0 ∧ other.journal.draws = r.journal.draws ∧
      ∃ byte, r.now.step.machine.state.registers.get 1 = byte &&& 0xFF ∧
        other.now.step.machine.state.registers.get 3 = byte &&& 0xF0 := by
  intro moves moves' r other
  have asks : r.now.Asks 1 0xFF := ⟨by decide +kernel, by decide +kernel⟩
  have asks' : other.now.Asks 3 0xF0 := ⟨by decide +kernel, by decide +kernel⟩
  have same : other.journal.draws = r.journal.draws := by decide +kernel
  refine ⟨asks, asks', same, ?_⟩
  unfold r other
  exact (random_stream_of_seed default true default moves).2.2 false default moves' same
    1 0xFF 3 0xF0 asks asks'

end Recorded
end Chip8
