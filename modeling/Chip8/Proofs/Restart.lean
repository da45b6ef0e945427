import Chip8.Proofs.Response
import Chip8.Proofs.Run

/-! What a reset leaves of the past. A machine keeps its seed, its strictness and its observer for good,
and of its history the program that was loaded last. Nothing else enters the state after a reset, which
is that of a new machine with this program, and so nothing else can show from then on. -/
namespace Chip8

namespace Operation

/-- The program that an operation loads. One that is too long is not loaded. -/
def program? : Operation → Option (List UInt8)
  | load program => if program.length ≤ maxProgramSize then some program else none
  | _ => none

/-- The program that was loaded last, which is empty before the first. -/
def lastProgram (ops : List Operation) : List UInt8 := (ops.filterMap program?).getLastD []

end Operation

namespace Machine
variable {m n : Machine} {op : Operation}

/-- A new machine of the same kind. -/
def renewed (m : Machine) : Machine := powerOn m.seed m.strict m.observer

/-- The responses to operations in order, whether some of them are refused or not. -/
def responses (m : Machine) : List Operation → List Response
  | [] => []
  | op :: rest => m.apply op :: (m.apply op).machine.responses rest

theorem renewed_apply (m : Machine) (op : Operation) : (m.apply op).machine.renewed = m.renewed := by
  obtain ⟨seed, strict, observer⟩ := (m.responds_apply op).settings
  rw [renewed, seed, strict, observer, renewed]

theorem Responds.program {r : Response} (responds : m.Responds op r) :
    r.machine.program = op.program?.getD m.program := by
  cases responds with
  | refused lines refuses =>
    cases refuses with
    | tooLong program long => rw [Operation.program?, if_neg (Nat.not_le.2 long)]; rfl
    | _ => rfl
  | loaded text fits => rw [Operation.program?, if_pos fits]; rfl
  | _ => rfl

theorem program_fits_apply (fits : m.program.length ≤ maxProgramSize) (op : Operation) :
    (m.apply op).machine.program.length ≤ maxProgramSize := by
  have responds := m.responds_apply op
  generalize m.apply op = r at responds
  cases responds with
  | loaded _ small => exact small
  | _ => exact fits

/-- A reset leads where a new machine gets by loading the program. -/
theorem machine_reset (fits : m.program.length ≤ maxProgramSize) :
    m.reset.machine = (m.renewed.load m.program).machine := by
  rw [load_of_fits fits]
  rfl

theorem reset_congr (kind : m.renewed = n.renewed) (program : m.program = n.program) :
    m.reset = n.reset := by
  have same : m.seed = n.seed ∧ m.strict = n.strict ∧ m.observer = n.observer := by
    simp only [renewed, powerOn, mk.injEq] at kind
    exact ⟨kind.1, kind.2.1, kind.2.2.1⟩
  obtain ⟨seed, strict, observer⟩ := same
  simp only [reset, seed, strict, observer, program]

end Machine

namespace Session
variable {s : Session}

theorem renewed_run (s : Session) (ops : List Operation) :
    (s.run ops).machine.renewed = s.machine.renewed := by
  induction ops generalizing s with
  | nil => rfl
  | cons op rest ih => exact (ih (s.next op)).trans (s.machine.renewed_apply op)

theorem program_run (s : Session) (ops : List Operation) :
    (s.run ops).machine.program = (ops.filterMap Operation.program?).getLastD s.machine.program := by
  induction ops generalizing s with
  | nil => rfl
  | cons op rest ih =>
    have later : (s.run (op :: rest)).machine.program = _ := ih (s.next op)
    rw [later, machine_next, (s.machine.responds_apply op).program, List.filterMap_cons]
    cases op.program? with
    | none => rfl
    | some program => rw [List.getLastD_cons]; rfl

theorem program_fits_run (fits : s.machine.program.length ≤ maxProgramSize) (ops : List Operation) :
    (s.run ops).machine.program.length ≤ maxProgramSize :=
  run_invariant (P := fun s => s.machine.program.length ≤ maxProgramSize)
    (fun _ op fits => Machine.program_fits_apply fits op) fits ops

end Session

/-- Whatever has been done to a machine, a reset leads where a new one gets by loading the program that
was loaded last. Two machines of the same seed, strictness and observer that have loaded the same program
last respond in the same way to a reset and to all that follows it. -/
theorem reset_erases_history (seed : Seed) (strict : Bool) (observer : Observer) :
    let new := Machine.powerOn seed strict observer
    let after ops := ((Session.start new).run ops).machine
    (∀ ops, (after ops).reset.error? = none ∧ (after ops).reset.machine.count = 0 ∧
      (new.load (Operation.lastProgram ops)).error? = none ∧
      (after ops).reset.machine = (new.load (Operation.lastProgram ops)).machine) ∧
    ∀ first second, Operation.lastProgram first = Operation.lastProgram second →
      ∀ rest,
        (after first).responses (.reset :: rest) = (after second).responses (.reset :: rest) := by
  intro new after
  have kind (ops : List Operation) : (after ops).renewed = new := (Session.start new).renewed_run ops
  have program (ops : List Operation) : (after ops).program = Operation.lastProgram ops :=
    (Session.start new).program_run ops
  have fits (ops : List Operation) : (after ops).program.length ≤ maxProgramSize :=
    Session.program_fits_run (s := Session.start new) (Nat.zero_le _) ops
  refine ⟨fun ops => ⟨rfl, rfl, ?_, ?_⟩, fun first second same rest => ?_⟩
  · rw [← program ops, Machine.load_of_fits (fits ops)]
    rfl
  · rw [Machine.machine_reset (fits ops), kind ops, program ops]
  · have reset : (after first).reset = (after second).reset :=
      Machine.reset_congr ((kind first).trans (kind second).symm)
        ((program first).trans (same.trans (program second).symm))
    simp only [Machine.responses, Machine.apply, reset]

/-- One machine has run another program before and has refused one that is too long since. -/
theorem reset_erases_history_twins :
    let program : List UInt8 := [0xC0, 0xFF, 0xF0, 0x18]
    let first : List Operation := [.load [0xC1, 0x0F, 0xA2, 0x06], .step, .keyDown 3, .load program,
      .load (List.replicate (maxProgramSize + 1) 0), .step]
    let second : List Operation := [.load program, .step, .step, .tick]
    let after ops := ((Session.start (Machine.powerOn default true default)).run ops).machine
    Operation.lastProgram first = program ∧ Operation.lastProgram second = program ∧
      (after first).responses [.reset, .step, .step] =
        (after second).responses [.reset, .step, .step] := by
  intro program first second after
  have last : Operation.lastProgram first = program := by decide +kernel
  have last' : Operation.lastProgram second = program := by decide +kernel
  exact ⟨last, last', (reset_erases_history default true default).2 first second
    (last.trans last'.symm) [.step, .step]⟩

end Chip8
