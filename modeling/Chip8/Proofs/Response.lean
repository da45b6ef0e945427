import Chip8.Proofs.Refusal

/-! All responses to an operation: a refusal, which leaves the machine as it was, or the effect of the
operation. What holds of every response is shown by cases on these. -/
namespace Chip8.Machine

theorem toNat_lt_of_known {code : Int} (known : 0 ≤ code ∧ code < 16) : code.toNat < 16 := by
  omega

inductive Responds (m : Machine) : Operation → Response → Prop where
  | refused {op : Operation} {e : Error} (lines : List (Level × String)) : m.Refuses op e →
      Responds m op (m.respond (lines.map fun (level, text) => .log level text) (some e))
  | executed {word : Int} : m.acceptedWord = .ok word →
      Responds m .step (m.executed.respond
        (wordReport word m.state.pc.toNat ++ m.state.cycle.tone.toList.map Event.tone))
  | loaded {program : List UInt8} (text : String) : program.length ≤ maxProgramSize →
      Responds m (.load program) (respond
        { m with
          state := { m.state with memory := m.state.memory.writeBlock programStart program }
          program }
        [.log .info text])
  | ticked : Responds m .tick m.tick
  | keyDown {code : Int} (known : 0 ≤ code ∧ code < 16) : Responds m (.keyDown code)
      (respond { m with state := m.state.setKey ⟨code.toNat, toNat_lt_of_known known⟩ true } [])
  | keyUp {code : Int} (known : 0 ≤ code ∧ code < 16) : Responds m (.keyUp code)
      (respond { m with state := m.state.setKey ⟨code.toNat, toNat_lt_of_known known⟩ false } [])
  | reset : Responds m .reset m.reset

variable {m : Machine} {op : Operation}

theorem responds_of_refuses {e : Error} (refuses : m.Refuses op e) :
    m.Responds op (m.apply op) := by
  obtain ⟨lines, response⟩ := unchanged_of_refuses refuses
  rw [response]
  exact .refused lines refuses

theorem responds_apply (m : Machine) (op : Operation) : m.Responds op (m.apply op) := by
  cases op with
  | tick => exact .ticked
  | reset => exact .reset
  | step =>
    cases checked : m.acceptedWord with
    | error f => exact responds_of_refuses (refuses_of_acceptedWord checked)
    | ok word =>
      rw [apply, step_of_accepted checked]
      exact .executed checked
  | load program =>
    by_cases fits : program.length ≤ maxProgramSize
    · rw [apply, load_of_fits fits]
      exact .loaded _ fits
    · exact responds_of_refuses (.tooLong program (Nat.lt_of_not_le fits))
  | keyDown code =>
    by_cases known : 0 ≤ code ∧ code < 16
    · rw [apply, setKey_of_known known]
      exact .keyDown known
    · exact responds_of_refuses (.keyDown code known)
  | keyUp code =>
    by_cases known : 0 ≤ code ∧ code < 16
    · rw [apply, setKey_of_known known]
      exact .keyUp known
    · exact responds_of_refuses (.keyUp code known)

/-- What reaches the observer of the events that it listens for is all of them. -/
theorem filterMap_respond {α : Type} {f : Event → Option α}
    (listened : ∀ e a, f e = some a → m.observer.sees e = true) (events : List Event)
    (error? : Option Error) :
    (m.respond events error?).events.filterMap f = events.filterMap f := by
  have heard : (fun e => if m.observer.sees e = true then f e else none) = f := by
    funext e
    cases found : f e with
    | none => exact ite_self none
    | some a => rw [listened e a found, if_pos rfl]
  rw [respond, List.filterMap_filter, heard]

/-- Operations never change the seed, the strictness or the observer. -/
theorem Responds.settings {r : Response} (responds : m.Responds op r) :
    r.machine.seed = m.seed ∧ r.machine.strict = m.strict ∧ r.machine.observer = m.observer := by
  cases responds <;> exact ⟨rfl, rfl, rfl⟩

end Chip8.Machine
