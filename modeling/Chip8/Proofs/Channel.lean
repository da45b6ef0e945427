import Chip8.Proofs.Signals

/-! Ways by which a host can reach a program besides loading it. Timer ticks change the delay and the
redraw flag, keys change the keypad, and few instructions read these parts. As long as none of those
runs, neither when such operations come nor how many of them makes a difference to anything else. -/
namespace Chip8

/-- The parts that a machine inspects around an instruction, to fetch it, to check it and to hand out
its tone. -/
def Part.inspected : List Part := [memory, pc, index, stack, tone]

/-- Whether an instruction is of the form FX07. -/
def Instruction.readsDelay : Instruction → Bool
  | misc .readDelay _ => true
  | _ => false

/-- Whether an instruction is of the form EX9E, EXA1 or FX0A. -/
def Instruction.readsKeys : Instruction → Bool
  | skipHeld _ | skipReleased _ | misc .awaitKey _ => true
  | _ => false

theorem Instruction.ignores_of_readsDelay {i : Instruction} (unread : i.readsDelay = false) :
    i.Ignores [.delay, .redraw] := by
  cases i with
  | misc op x => cases op <;> first | contradiction | simp [Ignores, reads, MiscOp.reads]
  | _ => simp [Ignores, reads]

theorem Instruction.ignores_of_readsKeys {i : Instruction} (unread : i.readsKeys = false) :
    i.Ignores [.keypad] := by
  cases i with
  | misc op x => cases op <;> first | contradiction | simp [Ignores, reads, MiscOp.reads]
  | skipHeld | skipReleased => contradiction
  | _ => simp [Ignores, reads]

namespace Machine

/-- Machines that differ in some parts of their states at most. -/
structure Alike (hidden : List Part) (m n : Machine) : Prop where
  machine : n = { m with state := n.state }
  state : ∀ p ∉ hidden, m.state.Same n.state p

variable {hidden : List Part} {k m n : Machine}

theorem Alike.refl (m : Machine) : m.Alike hidden m := ⟨rfl, fun p _ => .refl _ p⟩

theorem Alike.symm (alike : m.Alike hidden n) : n.Alike hidden m where
  machine := by rw [alike.machine]
  state p visible := (alike.state p visible).symm

theorem Alike.trans (first : k.Alike hidden m) (second : m.Alike hidden n) : k.Alike hidden n where
  machine := by rw [second.machine, first.machine]
  state p visible := (first.state p visible).trans (second.state p visible)

end Machine

/-- Operations of one kind, the parts that they change and the instructions that read these. -/
structure Channel where
  own : Operation → Bool
  parts : List Part
  reads : Instruction → Bool
  own_step : own .step = false
  confined (m : Machine) {op : Operation} : own op = true → m.Alike parts (m.apply op).machine
  uninspected : ∀ p ∈ Part.inspected, p ∉ parts
  ignores {i : Instruction} : reads i = false → i.Ignores parts

namespace Channel

/-- Timer ticks, of which programs hear by FX07. -/
def ticks : Channel where
  own op := op = .tick
  parts := [.delay, .redraw]
  reads := Instruction.readsDelay
  own_step := rfl
  confined m op own := by
    obtain rfl : op = .tick := of_decide_eq_true own
    exact ⟨rfl, fun p visible => by cases p <;> first | rfl | exact absurd (by decide) visible⟩
  uninspected := by decide
  ignores := Instruction.ignores_of_readsDelay

/-- Keys that go down or up, of which programs hear by EX9E, EXA1 and FX0A. -/
def keys : Channel where
  own
    | .keyDown _ | .keyUp _ => true
    | _ => false
  parts := [.keypad]
  reads := Instruction.readsKeys
  own_step := rfl
  confined m op own := by
    have responds := m.responds_apply op
    generalize m.apply op = r at responds
    cases responds with
    | refused => exact ⟨rfl, fun p _ => .refl _ p⟩
    | keyDown | keyUp =>
      exact ⟨rfl, fun p visible => by cases p <;> first | rfl | exact absurd (by decide) visible⟩
    | _ => contradiction
  uninspected := by decide
  ignores := Instruction.ignores_of_readsKeys

/-- The operations that are not the channel's own. -/
def others (c : Channel) (ops : List Operation) : List Operation := ops.filter fun op => !c.own op

variable {c : Channel} {op : Operation} {ops : List Operation}

theorem others_cons_of_own (own : c.own op = true) : c.others (op :: ops) = c.others ops :=
  List.filter_cons_of_neg (by simp [own])

theorem others_cons_of_other (other : c.own op = false) :
    c.others (op :: ops) = op :: c.others ops :=
  List.filter_cons_of_pos (by simp [other])

theorem others_eq_nil_iff : c.others ops = [] ↔ ∀ op ∈ ops, c.own op = true := by
  simp [others]

end Channel

namespace Machine
variable {c : Channel} {m n : Machine} {op : Operation}

theorem Alike.inspected (alike : m.Alike c.parts n) {p : Part} (inspected : p ∈ Part.inspected) :
    m.state.Same n.state p :=
  alike.state p (c.uninspected p inspected)

theorem Alike.instruction (alike : m.Alike c.parts n) : m.state.instruction = n.state.instruction := by
  have memory : m.state.memory = n.state.memory := alike.inspected (p := .memory) (by decide)
  have pc : m.state.pc = n.state.pc := alike.inspected (p := .pc) (by decide)
  rw [State.instruction, State.instruction, State.word, State.word, memory, pc]

theorem Alike.acceptedWord (alike : m.Alike c.parts n) : m.acceptedWord = n.acceptedWord := by
  have memory : m.state.memory = n.state.memory := alike.inspected (p := .memory) (by decide)
  have pc : m.state.pc = n.state.pc := alike.inspected (p := .pc) (by decide)
  have index : m.state.index = n.state.index := alike.inspected (p := .index) (by decide)
  have stack : m.state.stack = n.state.stack := alike.inspected (p := .stack) (by decide)
  have strict : m.strict = n.strict := by rw [alike.machine]
  have refusal (i : Instruction) : i.refusal? m.state m.strict = i.refusal? n.state n.strict := by
    simp only [Instruction.refusal?, Instruction.stackRefusal?, Instruction.blockRefusal?, index,
      stack, strict]
  simp only [Machine.acceptedWord, Instruction.check, refusal, State.word, memory, pc]

theorem Alike.cycle (alike : m.Alike c.parts n) (unread : c.reads m.state.instruction = false)
    {p : Part} (visible : p ∉ c.parts) : m.state.cycle.Same n.state.cycle p := by
  have started : ∀ q ∉ c.parts, m.state.passWord.Same n.state.passWord q := by
    intro q seen
    have same := alike.state q seen
    cases q with
    | pc => exact congrArg (· + 2) same
    | _ => exact same
  rw [State.cycle_eq, State.cycle_eq, ← alike.instruction]
  exact State.execute_ignoring (c.ignores unread) started visible

theorem Alike.executed (alike : m.Alike c.parts n)
    (unread : c.reads m.state.instruction = false) : m.executed.Alike c.parts n.executed where
  machine := by
    rw [alike.machine]
    rfl
  state p visible := by
    have ran := alike.cycle unread visible
    cases p with
    | tone => rfl
    | _ => exact ran

theorem Alike.refuses (alike : m.Alike c.parts n) {e : Error} (refuses : m.Refuses op e) :
    n.Refuses op e := by
  cases op with
  | step =>
    obtain ⟨f, rfl, refused⟩ := acceptedWord_of_refuses refuses
    exact refuses_of_acceptedWord (alike.acceptedWord ▸ refused)
  | load program =>
    cases refuses with
    | tooLong _ long => exact .tooLong program long
  | keyDown code =>
    cases refuses with
    | keyDown _ unknown => exact .keyDown code unknown
  | keyUp code =>
    cases refuses with
    | keyUp _ unknown => exact .keyUp code unknown
  | tick | reset => nomatch refuses

theorem Alike.error? (alike : m.Alike c.parts n) (op : Operation) :
    (m.apply op).error? = (n.apply op).error? :=
  Option.ext fun _ =>
    (apply_error?.trans ⟨alike.refuses, alike.symm.refuses⟩).trans apply_error?.symm

/-- Machines that are alike stay so through an operation, unless it runs an instruction that reads what
they differ in. -/
theorem Alike.apply (alike : m.Alike c.parts n)
    (unread : ∀ e, m.executes? op = some e → c.reads e.instruction = false) :
    (m.apply op).machine.Alike c.parts (n.apply op).machine := by
  have responds := m.responds_apply op
  generalize m.apply op = r at responds
  cases responds with
  | refused lines refuses =>
    obtain ⟨_, same⟩ := unchanged_of_refuses (alike.refuses refuses)
    rw [same]
    exact alike
  | executed accepted =>
    rw [Machine.apply, step_of_accepted (alike.acceptedWord ▸ accepted)]
    exact alike.executed (unread _ (executes?_of_accepted accepted))
  | @loaded program _ fits =>
    rw [Machine.apply, load_of_fits fits]
    refine ⟨by rw [alike.machine]; rfl, fun p visible => ?_⟩
    have same := alike.state p visible
    cases p with
    | memory => exact congrArg (fun memory : Memory => memory.writeBlock programStart program) same
    | _ => exact same
  | ticked =>
    refine ⟨by rw [alike.machine]; rfl, fun p visible => ?_⟩
    have same := alike.state p visible
    cases p with
    | delay => exact congrArg (fun delay : UInt8 => if delay > 0 then delay - 1 else delay) same
    | redraw => rfl
    | _ => exact same
  | @keyDown code known | @keyUp code known =>
    rw [Machine.apply, setKey_of_known known]
    refine ⟨by rw [alike.machine]; rfl, fun p visible => ?_⟩
    have same := alike.state p visible
    cases p with
    | keypad =>
      exact congrArg (fun keypad : Keypad => keypad.set ⟨code.toNat, toNat_lt_of_known known⟩ _) same
    | _ => exact same
  | reset =>
    refine ⟨by rw [alike.machine]; rfl, fun p _ => ?_⟩
    have same : (n.apply .reset).machine.state = m.reset.machine.state := by rw [alike.machine]; rfl
    rw [same]
    exact State.Same.refl _ p

theorem Alike.ran (alike : m.Alike c.parts n) {e : Executed} (ran : m.executes? op = some e) :
    n.executes? op = some ⟨n.state, e.instruction⟩ := by
  obtain ⟨rfl, rfl, _, accepted⟩ := accepted_of_executes? ran
  rw [alike.instruction]
  exact executes?_of_accepted (alike.acceptedWord ▸ accepted)

theorem filter_isSignal_of_idle (idle : m.executes? op = none) :
    (m.apply op).events.filter Event.isSignal = [] := by
  refine List.filter_eq_nil_iff.2 fun event reported => ?_
  rw [isSignal_of_idle idle reported]
  exact Bool.false_ne_true

theorem Alike.signals (alike : m.Alike c.parts n)
    (unread : ∀ e, m.executes? op = some e → c.reads e.instruction = false) :
    (m.apply op).events.filter Event.isSignal = (n.apply op).events.filter Event.isSignal := by
  cases runs : m.executes? op with
  | none =>
    have idle : n.executes? op = none := by
      refine Option.eq_none_iff_forall_ne_some.2 fun e ran => ?_
      rw [alike.symm.ran ran] at runs
      contradiction
    rw [filter_isSignal_of_idle runs, filter_isSignal_of_idle idle]
  | some e =>
    obtain ⟨rfl, rfl, word, accepted⟩ := accepted_of_executes? runs
    have pc : m.state.pc = n.state.pc := alike.inspected (p := .pc) (by decide)
    have tone : m.state.cycle.tone = n.state.cycle.tone :=
      alike.cycle (p := .tone) (unread _ runs) (c.uninspected .tone (by decide))
    have observer : m.executed.observer = n.executed.observer := by rw [alike.machine]; rfl
    rw [Machine.apply, Machine.apply, step_of_accepted accepted,
      step_of_accepted (alike.acceptedWord ▸ accepted), pc, tone]
    simp only [respond, observer]

end Machine

namespace Session
variable {c : Channel} {s t u : Session} {op : Operation}

/-- The tones and the skipped words that listeners were told of, oldest first. -/
def signals (s : Session) : List Event := s.seen.toList.filter Event.isSignal

/-- Sessions whose machines are alike and which have given the same signals. -/
structure Alike (c : Channel) (s t : Session) : Prop where
  machine : s.machine.Alike c.parts t.machine
  signals : s.signals = t.signals

theorem Alike.refl (s : Session) : s.Alike c s := ⟨.refl _, rfl⟩

theorem Alike.symm (alike : s.Alike c t) : t.Alike c s := ⟨alike.machine.symm, alike.signals.symm⟩

theorem Alike.trans (first : s.Alike c t) (second : t.Alike c u) : s.Alike c u :=
  ⟨first.machine.trans second.machine, first.signals.trans second.signals⟩

theorem signals_next (s : Session) (op : Operation) :
    (s.next op).signals = s.signals ++ (s.machine.apply op).events.filter Event.isSignal := by
  rw [signals, seen_next, List.filter_append]
  rfl

theorem executes?_of_own (own : c.own op = true) : s.machine.executes? op = none := by
  refine Machine.executes?_eq_none_iff.2 ?_
  rintro rfl
  rw [c.own_step] at own
  contradiction

theorem alike_next (s : Session) (own : c.own op = true) : s.Alike c (s.next op) where
  machine := c.confined s.machine own
  signals := by
    rw [signals_next, Machine.filter_isSignal_of_idle (executes?_of_own own), List.append_nil]

theorem Alike.next (alike : s.Alike c t)
    (unread : ∀ e, s.machine.executes? op = some e → c.reads e.instruction = false) :
    (s.next op).Alike c (t.next op) where
  machine := alike.machine.apply unread
  signals := by rw [signals_next, signals_next, alike.signals, alike.machine.signals unread]

theorem mem_history_cons {e : Executed} {rest : List Operation} :
    e ∈ s.machine.history (op :: rest) ↔
      s.machine.executes? op = some e ∨ e ∈ (s.next op).machine.history rest := by
  simp only [Machine.history, List.mem_append, Option.mem_toList]
  rfl

/-- The channel's own operations change nothing else and run nothing. -/
theorem alike_run_own (s : Session) {ops : List Operation} (own : ∀ op ∈ ops, c.own op = true) :
    s.Alike c (s.run ops) ∧ s.machine.history ops = [] := by
  induction ops generalizing s with
  | nil => exact ⟨.refl s, rfl⟩
  | cons op rest ih =>
    obtain ⟨first, later⟩ := List.forall_mem_cons.1 own
    obtain ⟨alike, silent⟩ := ih (s.next op) later
    refine ⟨(s.alike_next first).trans alike, ?_⟩
    simp only [Machine.history, executes?_of_own first]
    exact silent

/-- Runs that differ in the channel's own operations stay alike, and the second reads the channel no more
than the first. -/
theorem Alike.run (alike : s.Alike c t) {first second : List Operation}
    (same : c.others first = c.others second)
    (unread : ∀ e ∈ s.machine.history first, c.reads e.instruction = false) :
    (s.run first).Alike c (t.run second) ∧
      ∀ e ∈ t.machine.history second, c.reads e.instruction = false := by
  induction first generalizing s t second with
  | nil =>
    obtain ⟨kept, silent⟩ := alike_run_own t (Channel.others_eq_nil_iff.1 same.symm)
    exact ⟨alike.trans kept, by simp [silent]⟩
  | cons op rest ih =>
    have later : ∀ e ∈ (s.next op).machine.history rest, c.reads e.instruction = false :=
      fun e member => unread e (mem_history_cons.2 (.inr member))
    cases own : c.own op with
    | true =>
      rw [Channel.others_cons_of_own own] at same
      exact ih ((s.alike_next own).symm.trans alike) same later
    | false =>
      rw [Channel.others_cons_of_other own] at same
      -- The second run performs the operation too, after some of the channel's own.
      obtain ⟨before, after, rfl, skipped, _, same⟩ := List.filter_eq_cons_iff.1 same.symm
      have own : ∀ op ∈ before, c.own op = true := by simpa using skipped
      obtain ⟨kept, silent⟩ := alike_run_own t own
      have met := alike.trans kept
      have head : ∀ e, s.machine.executes? op = some e → c.reads e.instruction = false :=
        fun e ran => unread e (mem_history_cons.2 (.inl ran))
      obtain ⟨last, quiet⟩ := ih (met.next head) same.symm later
      have split : t.run (before ++ op :: after) = ((t.run before).next op).run after := by
        simp only [Session.run, List.foldl_append, List.foldl_cons]
      refine ⟨split ▸ last, fun e member => ?_⟩
      rw [history_append, silent, List.nil_append, mem_history_cons] at member
      rcases member with ran | member
      · exact head ⟨s.machine.state, e.instruction⟩ (met.symm.machine.ran ran)
      · exact quiet e member

theorem history_take_subset (s : Session) (ops : List Operation) (n : Nat) :
    s.machine.history (ops.take n) ⊆ s.machine.history ops := by
  intro e member
  rw [← List.take_append_drop n ops, history_append]
  exact List.mem_append_left _ member

end Session

/-- Programs hear of a channel by its readers only. Take two runs from the same machine that differ in
the channel's own operations. If no reader runs in the first, none runs in the second, and at
corresponding points the machines differ in the channel's parts at most, they have given the same
signals, and they refuse the same operations with the same errors. -/
def Channel.HeardByReading (c : Channel) : Prop :=
  ∀ (m : Machine) (first second : List Operation), c.others first = c.others second →
    (∀ e ∈ m.history first, c.reads e.instruction = false) →
    (∀ e ∈ m.history second, c.reads e.instruction = false) ∧
      ∀ k l, c.others (first.take k) = c.others (second.take l) →
        let s := (Session.start m).run (first.take k)
        let t := (Session.start m).run (second.take l)
        s.machine.Alike c.parts t.machine ∧ s.signals = t.signals ∧
          ∀ op, (s.machine.apply op).error? = (t.machine.apply op).error?

theorem Channel.heardByReading (c : Channel) : c.HeardByReading := by
  intro m first second same unread
  have start : (Session.start m).Alike c (Session.start m) := .refl _
  refine ⟨(start.run same unread).2, fun k l same => ?_⟩
  have unread : ∀ e ∈ m.history (first.take k), c.reads e.instruction = false :=
    fun e member => unread e ((Session.start m).history_take_subset first k member)
  obtain ⟨⟨machine, signals⟩, _⟩ := start.run same unread
  exact ⟨machine, signals, machine.error?⟩

/-- Timer ticks reach a program through FX07 only, and keys through EX9E, EXA1 and FX0A only. -/
theorem ticks_and_keys_heard_by_reading :
    Channel.ticks.HeardByReading ∧ Channel.keys.HeardByReading :=
  ⟨Channel.ticks.heardByReading, Channel.keys.heardByReading⟩

/-- A program that sets the delay and goes on. Ticks in between leave the machine with another delay and
otherwise as it would be without them. -/
theorem ticks_and_keys_heard_by_reading_countdown :
    let m := Machine.powerOn default true default
    let load : Operation := .load [0x60, 0x05, 0xF0, 0x15, 0x61, 0x01]
    let first : List Operation := [load, .step, .step, .step]
    let second : List Operation := [.tick, load, .step, .step, .tick, .tick, .step]
    let s := (Session.start m).run first
    let t := (Session.start m).run second
    Channel.ticks.others first = Channel.ticks.others second ∧
      (∀ e ∈ m.history first, e.instruction.readsDelay = false) ∧
      s.machine.state.delay = 5 ∧ t.machine.state.delay = 3 ∧
      s.machine.Alike [.delay, .redraw] t.machine := by
  intro m load first second s t
  have same : Channel.ticks.others first = Channel.ticks.others second := by decide
  have unread : ∀ e ∈ m.history first, e.instruction.readsDelay = false := by decide +kernel
  have alike := (ticks_and_keys_heard_by_reading.1 m first second same unread).2 4 7 same
  exact ⟨same, unread, by decide +kernel, by decide +kernel, alike.1⟩

end Chip8
