import Chip8.Proofs.Journal
import Chip8.Proofs.Run

/-! The instructions that a session runs, the first one first. A history says what a program has done
in all of a session, where a journal starts anew with every reset. -/
namespace Chip8

namespace Machine

/-- The instruction that an operation runs, if it is a step that is accepted. -/
def executes? (m : Machine) : Operation → Option Executed
  | .step =>
      match m.acceptedWord with
      | .ok word => some ⟨m.state, .ofInt word⟩
      | .error _ => none
  | _ => none

/-- The instructions that operations run, whether some of them are refused or not. -/
def history (m : Machine) : List Operation → List Executed
  | [] => []
  | op :: rest => (m.executes? op).toList ++ (m.apply op).machine.history rest

variable {m : Machine} {op : Operation}

theorem executes?_of_accepted {word : Int} (accepted : m.acceptedWord = .ok word) :
    m.executes? .step = some ⟨m.state, m.state.instruction⟩ := by
  simp only [executes?, accepted, instruction_of_accepted accepted]

theorem executes?_of_refused {f : Fault} (refused : m.acceptedWord = .error f) :
    m.executes? .step = none := by
  simp only [executes?, refused]

theorem executes?_eq_none_iff : m.executes? op = none ↔ (op = .step → m.step.error? ≠ none) := by
  cases op with
  | step =>
    cases checked : m.acceptedWord with
    | ok word => simp [executes?_of_accepted checked, accepted_iff.2 ⟨word, checked⟩]
    | error f => simp [executes?_of_refused checked, step_of_refused checked, respond]
  | _ => simp [executes?]

/-- An operation that runs an instruction is an accepted step. -/
theorem accepted_of_executes? {e : Executed} (executes : m.executes? op = some e) :
    op = .step ∧ e = ⟨m.state, m.state.instruction⟩ ∧ ∃ word, m.acceptedWord = .ok word := by
  cases op with
  | step =>
    cases checked : m.acceptedWord with
    | ok word =>
      rw [executes?_of_accepted checked, Option.some.injEq] at executes
      exact ⟨rfl, executes.symm, word, rfl⟩
    | error f =>
      rw [executes?_of_refused checked] at executes
      contradiction
  | _ => contradiction

end Machine

namespace Session

theorem history_append (s : Session) (first second : List Operation) :
    s.machine.history (first ++ second) =
      s.machine.history first ++ (s.run first).machine.history second := by
  induction first generalizing s with
  | nil => rfl
  | cons op rest ih =>
    have later : (s.next op).machine.history (rest ++ second) = _ := ih (s.next op)
    rw [machine_next] at later
    simp only [List.cons_append, Machine.history, later, List.append_assoc]
    rfl

/-- What an operation reports of the instruction that it runs adds up over a session, if it is the same
as long as a property of machines holds that operations keep. -/
theorem filterMap_seen_run {α : Type} {f : Event → Option α} {g : Executed → Option α}
    {P : Machine → Prop} (keeps : ∀ m op, P m → P (m.apply op).machine)
    (reports : ∀ m op, P m → (m.apply op).events.filterMap f = (m.executes? op).toList.filterMap g)
    {s : Session} (initial : P s.machine) (ops : List Operation) :
    (s.run ops).seen.toList.filterMap f =
      s.seen.toList.filterMap f ++ (s.machine.history ops).filterMap g := by
  induction ops generalizing s with
  | nil => simp [run, Machine.history]
  | cons op rest ih =>
    have first : (s.machine.apply op).events.filterMap f = _ := reports s.machine op initial
    calc (s.run (op :: rest)).seen.toList.filterMap f
        = (s.next op).seen.toList.filterMap f ++
            ((s.next op).machine.history rest).filterMap g := ih (keeps s.machine op initial)
      _ = s.seen.toList.filterMap f ++ (s.machine.history (op :: rest)).filterMap g := by
        rw [seen_next, List.filterMap_append, first, List.append_assoc, ← List.filterMap_append]
        rfl

end Session
end Chip8
