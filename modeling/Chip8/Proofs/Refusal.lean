import Chip8.Machine
import Mathlib.Logic.Function.Iterate

/-! When a machine refuses an operation and what that leaves behind: the same machine, a fault that
names the instruction, and log lines only. -/
namespace Chip8

namespace State
variable {s : State}

/-- The instruction at the program counter. -/
def instruction (s : State) : Instruction := .ofInt s.word.toNat

theorem cycle_eq (s : State) : s.cycle = s.passWord.execute s.instruction := rfl

theorem following_toNat (within : s.pc.toNat + 1 < memorySize) :
    (s.pc + 1).toNat = s.pc.toNat + 1 := by
  unfold memorySize at within
  rw [UInt16.toNat_add]
  simp only [UInt16.reduceToNat]
  omega

/-- The word whose two bytes are at the program counter, the high one first. -/
def bytesAtPc (s : State) (within : s.pc.toNat + 1 < memorySize) : Nat :=
  256 * (s.memory.bytes.get ⟨s.pc.toNat, Nat.lt_of_succ_lt within⟩).toNat +
    (s.memory.bytes.get ⟨s.pc.toNat + 1, within⟩).toNat

theorem toNat_word (within : s.pc.toNat + 1 < memorySize) : s.word.toNat = s.bytesAtPc within := by
  rw [word, Memory.toNat_readWord, following_toNat within, Memory.read_eq_getElem _ within,
    Memory.read_eq_getElem _ (Nat.lt_of_succ_lt within)]
  rfl

end State

/-- What keeps a fetched instruction from running. -/
inductive Instruction.Refused (s : State) (strict : Bool) : Instruction → Cause → Prop where
  | emptyStack : s.stack.depth = 0 → Refused s strict .ret .emptyStack
  | fullStack (target : Fin 4096) : stackSize ≤ s.stack.depth →
      Refused s strict (.call target) .fullStack
  | blockPastEnd (i : Instruction) : strict = true → 0 < i.blockLength →
      memorySize < s.index.toNat + i.blockLength →
      Refused s strict i (.blockPastEnd s.index i.blockLength)

namespace Instruction
variable {i : Instruction} {s : State} {strict : Bool} {cause : Cause}

theorem stackRefusal?_eq_none (block : 0 < i.blockLength) : i.stackRefusal? s = none := by
  cases i with
  | ret | call => contradiction
  | _ => rfl

theorem refused_of_refusal? (refused : i.refusal? s strict = some cause) :
    i.Refused s strict cause := by
  rw [refusal?, Option.or_eq_some_iff] at refused
  rcases refused with stack | ⟨_, block⟩
  · cases i with
    | ret =>
      obtain ⟨empty, rfl⟩ : s.stack.depth = 0 ∧ Cause.emptyStack = cause := by
        simpa [stackRefusal?] using stack
      exact .emptyStack empty
    | call target =>
      obtain ⟨full, rfl⟩ : stackSize ≤ s.stack.depth ∧ Cause.fullStack = cause := by
        simpa [stackRefusal?] using stack
      exact .fullStack target full
    | _ => contradiction
  · cases strict with
    | false => contradiction
    | true =>
      obtain ⟨⟨some, past⟩, rfl⟩ :
          (0 < i.blockLength ∧ memorySize < s.index.toNat + i.blockLength) ∧
            Cause.blockPastEnd s.index i.blockLength = cause := by
        simpa [blockRefusal?] using block
      exact .blockPastEnd i rfl some past

theorem refusal?_eq_some_iff : i.refusal? s strict = some cause ↔ i.Refused s strict cause := by
  refine ⟨refused_of_refusal?, ?_⟩
  rintro (empty | ⟨target, full⟩ | ⟨_, rfl, some, past⟩)
  · simp [refusal?, stackRefusal?, empty]
  · simp [refusal?, stackRefusal?, full]
  · simp [refusal?, stackRefusal?_eq_none some, blockRefusal?, some, past]

end Instruction

namespace Machine
variable {m : Machine}

theorem acceptedWord_past (past : memorySize ≤ m.state.pc.toNat + 1) :
    m.acceptedWord = .error ⟨.fetchPastEnd, { address := some m.state.pc.toNat }⟩ := by
  have past : (m.state.pc.toNat : Int) + 1 ≥ memorySize := by omega
  simp only [acceptedWord, checkFetch, if_pos past]
  rfl

theorem acceptedWord_within (within : m.state.pc.toNat + 1 < memorySize) :
    m.acceptedWord =
      match m.state.instruction.refusal? m.state m.strict with
      | some cause => .error ⟨cause, ⟨some m.state.pc.toNat, some (m.state.bytesAtPc within)⟩⟩
      | none => .ok (m.state.bytesAtPc within) := by
  have fetched : ¬ (m.state.pc.toNat : Int) + 1 ≥ memorySize := by omega
  rw [← State.toNat_word within]
  simp only [acceptedWord, checkFetch, if_neg fetched, Instruction.check, State.instruction]
  cases (Instruction.ofInt m.state.word.toNat).refusal? m.state m.strict <;> rfl

theorem accepted_iff : m.step.error? = none ↔ ∃ word, m.acceptedWord = .ok word := by
  cases checked : m.acceptedWord with
  | ok word => simp [step_of_accepted checked, respond]
  | error f => simp [step_of_refused checked, respond]

theorem within_of_accepted {word : Int} (accepted : m.acceptedWord = .ok word) :
    m.state.pc.toNat + 1 < memorySize := by
  by_contra past
  rw [acceptedWord_past (Nat.not_lt.1 past)] at accepted
  contradiction

theorem word_of_accepted {word : Int} (accepted : m.acceptedWord = .ok word) :
    word = m.state.word.toNat := by
  have within := within_of_accepted accepted
  rw [acceptedWord_within within] at accepted
  split at accepted
  · contradiction
  · rw [State.toNat_word within, Except.ok.inj accepted]

/-- Why an operation is refused. The fault of an instruction gives its address and, once it is
fetched, its word. -/
inductive Refuses (m : Machine) : Operation → Error → Prop where
  | tooLong (program : List UInt8) : maxProgramSize < program.length →
      Refuses m (.load program)
        (.fault ⟨.programTooLong program.length, { address := some programStart }⟩)
  | noFetch : memorySize ≤ m.state.pc.toNat + 1 →
      Refuses m .step (.fault ⟨.fetchPastEnd, { address := some m.state.pc.toNat }⟩)
  | instruction (cause : Cause) (within : m.state.pc.toNat + 1 < memorySize) :
      m.state.instruction.Refused m.state m.strict cause →
      Refuses m .step
        (.fault ⟨cause, ⟨some m.state.pc.toNat, some (m.state.bytesAtPc within)⟩⟩)
  | keyDown (code : Int) : ¬ (0 ≤ code ∧ code < 16) → Refuses m (.keyDown code) (.noSuchKey code)
  | keyUp (code : Int) : ¬ (0 ≤ code ∧ code < 16) → Refuses m (.keyUp code) (.noSuchKey code)

theorem refuses_of_acceptedWord {f : Fault} (refused : m.acceptedWord = .error f) :
    m.Refuses .step (.fault f) := by
  by_cases within : m.state.pc.toNat + 1 < memorySize
  · rw [acceptedWord_within within] at refused
    cases checked : m.state.instruction.refusal? m.state m.strict with
    | none => simp only [checked, reduceCtorEq] at refused
    | some cause =>
      simp only [checked, Except.error.injEq] at refused
      subst refused
      exact .instruction cause within (Instruction.refusal?_eq_some_iff.1 checked)
  · have past : memorySize ≤ m.state.pc.toNat + 1 := Nat.not_lt.1 within
    rw [acceptedWord_past past, Except.error.injEq] at refused
    subst refused
    exact .noFetch past

theorem acceptedWord_of_refuses {e : Error} (refuses : m.Refuses .step e) :
    ∃ f, e = .fault f ∧ m.acceptedWord = .error f := by
  cases refuses with
  | noFetch past => exact ⟨_, rfl, acceptedWord_past past⟩
  | instruction cause within refused =>
    refine ⟨_, rfl, ?_⟩
    rw [acceptedWord_within within, Instruction.refusal?_eq_some_iff.2 refused]

theorem step_error? {e : Error} : m.step.error? = some e ↔ m.Refuses .step e := by
  constructor
  · intro failed
    cases checked : m.acceptedWord with
    | error f =>
      rw [step_of_refused checked] at failed
      cases failed
      exact refuses_of_acceptedWord checked
    | ok word =>
      rw [step_of_accepted checked] at failed
      contradiction
  · intro refuses
    obtain ⟨f, rfl, refused⟩ := acceptedWord_of_refuses refuses
    rw [step_of_refused refused]
    rfl

/-- Nothing but a fault makes a step fail. -/
theorem fault_of_step_error {e : Error} (failed : m.step.error? = some e) : ∃ f, e = .fault f := by
  obtain ⟨f, fault, _⟩ := acceptedWord_of_refuses (step_error?.1 failed)
  exact ⟨f, fault⟩

theorem load_error? {program : List UInt8} {e : Error} :
    (m.load program).error? = some e ↔ maxProgramSize < program.length ∧
      e = .fault ⟨.programTooLong program.length, { address := some programStart }⟩ := by
  constructor
  · intro failed
    by_cases long : maxProgramSize < program.length
    · rw [load_of_tooLong long] at failed
      exact ⟨long, (Option.some.inj failed).symm⟩
    · rw [load_of_fits (Nat.not_lt.1 long)] at failed
      contradiction
  · rintro ⟨long, rfl⟩
    rw [load_of_tooLong long]
    rfl

theorem setKey_error? {code : Int} {down : Bool} {e : Error} :
    (m.setKey code down).error? = some e ↔ ¬ (0 ≤ code ∧ code < 16) ∧ e = .noSuchKey code := by
  constructor
  · intro failed
    by_cases known : 0 ≤ code ∧ code < 16
    · rw [setKey_of_known known] at failed
      contradiction
    · rw [setKey_of_unknown known] at failed
      exact ⟨known, (Option.some.inj failed).symm⟩
  · rintro ⟨unknown, rfl⟩
    rw [setKey_of_unknown unknown]
    rfl

theorem apply_error? {op : Operation} {e : Error} :
    (m.apply op).error? = some e ↔ m.Refuses op e := by
  cases op with
  | step => exact step_error?
  | load program =>
    refine load_error?.trans ⟨?_, ?_⟩
    · rintro ⟨long, rfl⟩
      exact .tooLong program long
    · rintro ⟨_, long⟩
      exact ⟨long, rfl⟩
  | keyDown code =>
    refine setKey_error?.trans ⟨?_, ?_⟩
    · rintro ⟨unknown, rfl⟩
      exact .keyDown code unknown
    · rintro (_ | _ | _ | ⟨_, unknown⟩)
      exact ⟨unknown, rfl⟩
  | keyUp code =>
    refine setKey_error?.trans ⟨?_, ?_⟩
    · rintro ⟨unknown, rfl⟩
      exact .keyUp code unknown
    · rintro (_ | _ | _ | _ | ⟨_, unknown⟩)
      exact ⟨unknown, rfl⟩
  | tick | reset =>
    constructor
    · intro failed
      contradiction
    · intro refuses
      nomatch refuses

/-- A refused operation leaves the machine as it was and reports nothing but log lines. -/
theorem unchanged_of_refuses {op : Operation} {e : Error} (refuses : m.Refuses op e) :
    ∃ lines : List (Level × String),
      m.apply op = m.respond (lines.map fun (level, text) => .log level text) (some e) := by
  -- A halt report consists of log lines.
  have logged (f : Fault) : ∃ lines : List (Level × String),
      haltReport m.state f = lines.map fun (level, text) => .log level text :=
    ⟨(haltMessages f.text (some m.state)).map (.error, ·), by rw [List.map_map]; rfl⟩
  cases refuses with
  | tooLong program long => exact ⟨[], load_of_tooLong long⟩
  | noFetch past =>
    obtain ⟨lines, same⟩ := logged ⟨.fetchPastEnd, { address := some m.state.pc.toNat }⟩
    exact ⟨lines, same ▸ step_of_refused (acceptedWord_past past)⟩
  | instruction cause within refused =>
    obtain ⟨f, fault, unaccepted⟩ := acceptedWord_of_refuses (.instruction cause within refused)
    obtain ⟨lines, same⟩ := logged f
    rw [fault]
    exact ⟨lines, same ▸ step_of_refused unaccepted⟩
  | keyDown code unknown | keyUp code unknown => exact ⟨[], setKey_of_unknown unknown⟩

theorem machine_apply_of_error {op : Operation} {e : Error}
    (failed : (m.apply op).error? = some e) : (m.apply op).machine = m := by
  obtain ⟨lines, response⟩ := unchanged_of_refuses (apply_error?.1 failed)
  exact congrArg Response.machine response

/-- An operation fails exactly for the reasons given. Then the machine is as it was, its observer
has seen log lines only, and trying again any number of times gives the same response. -/
theorem failure_is_atomic (m : Machine) (op : Operation) (e : Error) :
    ((m.apply op).error? = some e ↔ m.Refuses op e) ∧
      ((m.apply op).error? = some e →
        (m.apply op).machine = m ∧
        (∀ event ∈ (m.apply op).events, ∃ level text, event = .log level text) ∧
        ∀ n, ((fun k : Machine => (k.apply op).machine)^[n] m).apply op = m.apply op) := by
  refine ⟨apply_error?, fun failed => ?_⟩
  obtain ⟨lines, response⟩ := unchanged_of_refuses (apply_error?.1 failed)
  have same : (m.apply op).machine = m := congrArg Response.machine response
  refine ⟨same, ?_, ?_⟩
  · intro event seen
    rw [response] at seen
    obtain ⟨⟨level, text⟩, _, rfl⟩ := List.mem_map.1 (List.mem_filter.1 seen).1
    exact ⟨level, text, rfl⟩
  · intro n
    rw [Function.iterate_fixed same n]

/-- A machine about to store four registers of which three fit. -/
def overhanging : Machine :=
  { powerOn default true default with
    state := { State.powerOn default with
      memory := Memory.zero.writeBlock programStart [0xF3, 0x55]
      index := 0xFFD } }

theorem overhanging_refused : overhanging.step.error? =
    some (.fault ⟨.blockPastEnd 0xFFD 4, ⟨some 0x200, some 0xF355⟩⟩) := by
  decide +kernel

theorem failure_is_atomic_overhanging :
    (overhanging.apply .step).error? =
        some (.fault ⟨.blockPastEnd 0xFFD 4, ⟨some 0x200, some 0xF355⟩⟩) ∧
      (overhanging.apply .step).machine = overhanging := by
  have failed := overhanging_refused
  exact ⟨failed, ((failure_is_atomic overhanging .step _).2 failed).1⟩

end Machine
end Chip8
