import Chip8.Proofs.Journal
import Chip8.Proofs.Run

/-! The strict checks refuse steps and do nothing else. As long as a machine refuses no step, a lenient
one beside it answers every operation in the same way. What a lenient machine refuses, a strict one
refuses for the same reason, since it makes its further checks last. -/
namespace Chip8

theorem Instruction.Refused.of_lenient {i : Instruction} {s : State} {cause : Cause}
    (refused : i.Refused s false cause) (strict : Bool) : i.Refused s strict cause := by
  cases refused with
  | emptyStack empty => exact .emptyStack empty
  | fullStack target full => exact .fullStack target full
  | blockPastEnd _ checked => contradiction

/-- The same machine without the strict checks. -/
def Machine.lenient (m : Machine) : Machine := { m with strict := false }

def Response.lenient (r : Response) : Response := { r with machine := r.machine.lenient }

def Session.lenient (s : Session) : Session := { s with machine := s.machine.lenient }

namespace Machine
variable {m : Machine} {op : Operation}

theorem Refuses.of_lenient {e : Error} (refuses : m.lenient.Refuses op e) : m.Refuses op e := by
  cases refuses with
  | tooLong program long => exact .tooLong program long
  | noFetch past => exact .noFetch (m := m) past
  | instruction cause within refused =>
    exact .instruction (m := m) cause within (refused.of_lenient m.strict)
  | keyDown code unknown => exact .keyDown code unknown
  | keyUp code unknown => exact .keyUp code unknown

theorem error?_of_lenient {e : Error} (failed : (m.lenient.apply op).error? = some e) :
    (m.apply op).error? = some e :=
  apply_error?.2 (apply_error?.1 failed).of_lenient

theorem step_lenient (accepted : m.step.error? = none) : m.lenient.step = m.step.lenient := by
  have lenient : m.lenient.step.error? = none := by
    cases failed : m.lenient.step.error? with
    | none => rfl
    | some e =>
      have refused : (m.apply .step).error? = some e := error?_of_lenient failed
      rw [apply, accepted] at refused
      contradiction
  obtain ⟨word, accepted⟩ := accepted_iff.1 accepted
  obtain ⟨other, lenient⟩ := accepted_iff.1 lenient
  have same : other = word := (word_of_accepted lenient).trans (word_of_accepted accepted).symm
  rw [step_of_accepted accepted, step_of_accepted lenient, same]
  rfl

/-- Unless it is a step that is refused, the strict checks make no difference to an operation. -/
theorem apply_lenient (accepted : op = .step → m.step.error? = none) :
    m.lenient.apply op = (m.apply op).lenient := by
  cases op with
  | step => exact step_lenient (accepted rfl)
  | tick | reset => rfl
  | load program =>
    by_cases fits : program.length ≤ maxProgramSize
    · rw [apply, apply, load_of_fits fits, load_of_fits fits]
      rfl
    · have long := Nat.lt_of_not_le fits
      rw [apply, apply, load_of_tooLong long, load_of_tooLong long]
      rfl
  | keyDown code | keyUp code =>
    by_cases known : 0 ≤ code ∧ code < 16
    · rw [apply, apply, setKey_of_known known, setKey_of_known known]
      rfl
    · rw [apply, apply, setKey_of_unknown known, setKey_of_unknown known]
      rfl

end Machine

namespace Session
variable {s : Session}

theorem next_lenient {op : Operation} (accepted : op = .step → s.machine.step.error? = none) :
    s.lenient.next op = (s.next op).lenient := by
  have same := Machine.apply_lenient accepted
  simp only [next, perform, lenient, same]
  rfl

theorem run_lenient {ops : List Operation}
    (accepted : ∀ n, ops[n]? = some .step → (s.run (ops.take n)).machine.step.error? = none) :
    s.lenient.run ops = (s.run ops).lenient := by
  induction ops generalizing s with
  | nil => rfl
  | cons op rest ih =>
    have first : s.lenient.next op = (s.next op).lenient :=
      next_lenient fun step => accepted 0 (by rw [step]; rfl)
    calc s.lenient.run (op :: rest) = (s.lenient.next op).run rest := rfl
      _ = (s.next op).lenient.run rest := by rw [first]
      _ = (s.run (op :: rest)).lenient := ih fun n step => accepted (n + 1) step

end Session

/-- Take a machine and the same one without strict checks. As long as the first refuses no step, both
have the same state, count, program and events after every operation and fail in the same way, if at
all. And whatever state they are in, a step that the lenient one refuses is refused by both with the
same error. -/
theorem strict_checks_only_refuse (m : Machine) :
    (∀ ops : List Operation,
      let careful n := (Session.start m).run (ops.take n)
      let lenient n := (Session.start m.lenient).run (ops.take n)
      (∀ n, ops[n]? = some .step → (careful n).machine.step.error? = none) →
      ∀ n, (lenient n).machine.state = (careful n).machine.state ∧
        (lenient n).machine.count = (careful n).machine.count ∧
        (lenient n).machine.program = (careful n).machine.program ∧
        (lenient n).seen = (careful n).seen ∧
        ∀ op, ops[n]? = some op →
          ((lenient n).machine.apply op).error? = ((careful n).machine.apply op).error?) ∧
    ∀ e, m.lenient.step.error? = some e → m.step.error? = some e := by
  have refused (e : Error) (failed : m.lenient.step.error? = some e) :
      (m.apply .step).error? = some e := Machine.error?_of_lenient failed
  refine ⟨?_, refused⟩
  intro ops careful lenient accepted n
  have together : lenient n = (careful n).lenient := by
    refine Session.run_lenient (s := Session.start m) fun k step => ?_
    rw [List.getElem?_take] at step
    split at step
    · next before =>
      rw [List.take_take, Nat.min_eq_left (Nat.le_of_lt before)]
      exact accepted k step
    · contradiction
  rw [together]
  refine ⟨rfl, rfl, rfl, rfl, fun op next => ?_⟩
  have errors := congrArg Response.error? <|
    Machine.apply_lenient (m := (careful n).machine) fun step => accepted n (step ▸ next)
  exact errors

end Chip8
