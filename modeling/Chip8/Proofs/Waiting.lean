import Chip8.Proofs.Channel
import Mathlib.Logic.Function.Iterate

/-! A program that waits for a key runs FX0A again and again. Until a key goes down this changes nothing but
the number of instructions, whatever timer ticks and released keys come in between. Then the lowest of the
held keys ends the wait. -/
namespace Chip8

theorem Keypad.lowest?_of_held {k : Keypad} {key : Key} (held : k.isHeld key = true) :
    ∃ least, k.lowest? = some least ∧ k.isHeld least = true ∧
      ∀ other, k.isHeld other = true → least ≤ other := by
  have ascending : (List.finRange 16).Pairwise (· < ·) := List.pairwise_lt_finRange 16
  cases found : k.lowest? with
  | none =>
    rw [lowest?_eq_none_iff.1 found key] at held
    contradiction
  | some least =>
    obtain ⟨down, before, after, split, earlier⟩ := List.find?_eq_some_iff_append.1 found
    refine ⟨least, rfl, down, fun other down => ?_⟩
    have among : other ∈ before ++ least :: after := split ▸ List.mem_finRange other
    rw [split, List.pairwise_append, List.pairwise_cons] at ascending
    rcases List.mem_append.1 among with first | last
    · have up := earlier other first
      rw [down] at up
      contradiction
    · rcases List.mem_cons.1 last with rfl | later
      · exact Nat.le_refl _
      · exact Nat.le_of_lt (ascending.2.1.1 other later)

namespace Machine
variable {m n : Machine} {x : Reg}

/-- Whether the next word is FX0A. -/
structure Awaits (m : Machine) (x : Reg) : Prop where
  within : m.state.pc.toNat + 1 < memorySize
  word : (m.state.word.toNat : Int) = wordOf 0xF x 0 0xA

theorem Awaits.congr (awaits : m.Awaits x) (memory : n.state.memory = m.state.memory)
    (pc : n.state.pc = m.state.pc) : n.Awaits x where
  within := pc ▸ awaits.within
  word := by rw [State.word, memory, pc, ← State.word, awaits.word]

theorem Awaits.instruction (awaits : m.Awaits x) : m.state.instruction = .misc .awaitKey x := by
  rw [State.instruction, awaits.word]
  exact Instruction.ofInt_wordOf_misc .awaitKey x rfl

/-- FX0A is never refused, and it gives no tone and no report of a skipped word. -/
theorem Awaits.step (awaits : m.Awaits x) (silent : m.state.tone = none) :
    m.step = respond { m with state := m.state.passWord.awaitKey x, count := m.count + 1 }
      [.log .debug (describeWordAt m.state.pc.toNat m.state.word.toNat)] := by
  have instruction := awaits.instruction
  have accepted : m.acceptedWord = .ok m.state.word.toNat := by
    rw [acceptedWord_within awaits.within, State.toNat_word awaits.within, instruction]
    simp [Instruction.refusal?, Instruction.stackRefusal?, Instruction.blockRefusal?,
      Instruction.blockLength]
  have cycle : m.state.cycle = m.state.passWord.awaitKey x := by
    rw [State.cycle_eq, instruction]
    rfl
  have tone : m.state.cycle.tone = none := by
    rw [cycle, State.awaitKey_eq]
    exact silent
  have state : m.state.cycle.clearTone = m.state.passWord.awaitKey x := by
    rw [← cycle, State.clearTone, ← tone]
  have report : wordReport m.state.word.toNat m.state.pc.toNat =
      [.log .debug (describeWordAt m.state.pc.toNat m.state.word.toNat)] := by
    have known : Instruction.unknown? m.state.word.toNat m.state.pc.toNat = none := by
      rw [Instruction.unknown?, ← State.instruction, instruction]
    rw [wordReport, known]
  rw [step_of_accepted accepted, tone, report, executed, state]
  rfl

/-- Without a held key the program counter goes back, and all that a step leaves is one more in the count. -/
theorem Awaits.step_released (awaits : m.Awaits x) (silent : m.state.tone = none)
    (released : ∀ key, m.state.keypad.isHeld key = false) :
    m.step = respond { m with count := m.count + 1 }
      [.log .debug (describeWordAt m.state.pc.toNat m.state.word.toNat)] := by
  have lowest : m.state.passWord.keypad.lowest? = none := Keypad.lowest?_eq_none_iff.2 released
  have back : m.state.pc + 2 - 2 = m.state.pc := UInt16.add_sub_cancel _ _
  have state : m.state.passWord.awaitKey x = m.state := by
    rw [State.awaitKey, lowest, State.passWord, back]
  rw [awaits.step silent, state]

theorem Awaits.step_held (awaits : m.Awaits x) (silent : m.state.tone = none) {key : Key}
    (lowest : m.state.keypad.lowest? = some key) :
    m.step = respond
      { m with
        state := { m.state with
          registers := m.state.registers.set x (UInt8.ofNat key)
          pc := m.state.pc + 2 }
        count := m.count + 1 }
      [.log .debug (describeWordAt m.state.pc.toNat m.state.word.toNat)] := by
  have lowest : m.state.passWord.keypad.lowest? = some key := lowest
  have state : m.state.passWord.awaitKey x = { m.state with
      registers := m.state.registers.set x (UInt8.ofNat key)
      pc := m.state.pc + 2 } := by
    rw [State.awaitKey, lowest]
    rfl
  rw [awaits.step silent, state]

theorem filter_isSignal_log (m : Machine) (level : Level) (text : String) :
    (m.respond [.log level text]).events.filter Event.isSignal = [] := by
  refine List.filter_eq_nil_iff.2 fun event reported => ?_
  rw [List.mem_singleton.1 (List.mem_filter.1 reported).1]
  exact Bool.false_ne_true

end Machine

/-- Operations that do not end a wait for a key. -/
def Operation.keepsWaiting : Operation → Bool
  | .step | .tick | .keyUp _ => true
  | _ => false

namespace Machine
variable {m : Machine} {x : Reg} {op : Operation}

/-- The machine after timer ticks and after steps that have done nothing but count. -/
def idled (m : Machine) (ticks steps : Nat) : Machine :=
  { m with state := State.tick^[ticks] m.state, count := m.count + steps }

theorem idled_idled (m : Machine) (ticks steps ticks' steps' : Nat) :
    (m.idled ticks steps).idled ticks' steps' = m.idled (ticks' + ticks) (steps + steps') := by
  simp only [idled, Function.iterate_add_apply, Nat.add_assoc]

/-- A machine at FX0A between operations, with no key held. -/
structure Waits (m : Machine) (x : Reg) : Prop where
  awaits : m.Awaits x
  released : ∀ key, m.state.keypad.isHeld key = false
  silent : m.state.tone = none

theorem Waits.keyUp (waits : m.Waits x) (code : Int) : (m.apply (.keyUp code)).machine = m := by
  by_cases known : 0 ≤ code ∧ code < 16
  · have keypad := Keypad.set_eq_self (waits.released ⟨code.toNat, toNat_lt_of_known known⟩)
    rw [apply, setKey_of_known known, State.setKey, keypad]
    rfl
  · rw [apply, setKey_of_unknown known]
    rfl

theorem Waits.apply (waits : m.Waits x) (idle : op.keepsWaiting = true) :
    (m.apply op).machine =
      m.idled (if op == .tick then 1 else 0) (if op == .step then 1 else 0) := by
  cases op with
  | step => rw [Machine.apply, waits.awaits.step_released waits.silent waits.released]; rfl
  | tick => rfl
  | keyUp code => exact waits.keyUp code
  | load | keyDown | reset => contradiction

theorem Waits.idled (waits : m.Waits x) (ticks steps : Nat) : (m.idled ticks steps).Waits x := by
  induction ticks generalizing m with
  | zero => exact ⟨waits.awaits.congr rfl rfl, waits.released, waits.silent⟩
  | succ n ih =>
    have ticked : m.tick.machine.Waits x := ⟨waits.awaits.congr rfl rfl, waits.released, waits.silent⟩
    exact ih ticked

/-- A key that goes down. A code that names no key is refused and changes nothing. -/
theorem apply_keyDown (m : Machine) (code : Int) : ∃ keypad : Keypad,
    (m.apply (.keyDown code)).machine = { m with state := { m.state with keypad } } ∧
    ∀ key : Key, keypad.isHeld key = true ↔
      m.state.keypad.isHeld key = true ∨ (key.val : Int) = code := by
  by_cases known : 0 ≤ code ∧ code < 16
  · refine ⟨m.state.keypad.set ⟨code.toNat, toNat_lt_of_known known⟩ true, ?_, fun key => ?_⟩
    · rw [Machine.apply, setKey_of_known known]
      rfl
    · have same : (⟨code.toNat, toNat_lt_of_known known⟩ : Key) = key ↔ (key.val : Int) = code := by
        simp only [Fin.ext_iff]
        omega
      rw [Keypad.isHeld_set, ← same]
      split
      · next pressed => simp [pressed]
      · next other => simp [other]
  · refine ⟨m.state.keypad, ?_, fun key => ?_⟩
    · rw [Machine.apply, setKey_of_unknown known]
      rfl
    · have other : (key.val : Int) ≠ code := by omega
      rw [or_iff_left other]

theorem Waits.signals (waits : m.Waits x) (op : Operation) :
    (m.apply op).events.filter Event.isSignal = [] := by
  by_cases step : op = .step
  · subst step
    rw [Machine.apply, waits.awaits.step_released waits.silent waits.released]
    exact filter_isSignal_log _ _ _
  · exact filter_isSignal_of_idle (executes?_eq_none_iff.2 fun step' => absurd step' step)

end Machine

namespace Session
variable {s : Session} {x : Reg} {ops : List Operation}

/-- However long a wait is, of its operations only the number of ticks and that of steps counts. -/
theorem waits_run (waits : s.machine.Waits x) (idle : ∀ op ∈ ops, op.keepsWaiting = true) :
    (s.run ops).machine = s.machine.idled (ops.count .tick) (ops.count .step) ∧
      (s.run ops).signals = s.signals := by
  induction ops generalizing s with
  | nil => exact ⟨rfl, rfl⟩
  | cons op rest ih =>
    obtain ⟨first, later⟩ := List.forall_mem_cons.1 idle
    have next : (s.next op).machine = s.machine.idled _ _ := waits.apply first
    have still : (s.next op).machine.Waits x := next ▸ waits.idled _ _
    obtain ⟨machine, signals⟩ := ih still later
    constructor
    · calc (s.run (op :: rest)).machine
          = (s.next op).machine.idled (rest.count .tick) (rest.count .step) := machine
        _ = s.machine.idled ((op :: rest).count .tick) ((op :: rest).count .step) := by
          rw [next, Machine.idled_idled, List.count_cons, List.count_cons, Nat.add_comm (rest.count .step)]
    · calc (s.run (op :: rest)).signals
          = (s.next op).signals := signals
        _ = s.signals := by rw [signals_next, waits.signals op, List.append_nil]

/-- Keys that go down one after another. -/
theorem run_keyDown (s : Session) (codes : List Int) : ∃ keypad : Keypad,
    (s.run (codes.map .keyDown)).machine =
      { s.machine with state := { s.machine.state with keypad } } ∧
    ∀ key : Key, keypad.isHeld key = true ↔
      s.machine.state.keypad.isHeld key = true ∨ (key.val : Int) ∈ codes := by
  induction codes generalizing s with
  | nil =>
    refine ⟨s.machine.state.keypad, rfl, fun key => ?_⟩
    rw [or_iff_left List.not_mem_nil]
  | cons code rest ih =>
    obtain ⟨first, pressed, down⟩ := s.machine.apply_keyDown code
    obtain ⟨keypad, machine, held⟩ := ih (s.next (.keyDown code))
    rw [machine_next, pressed] at machine held
    refine ⟨keypad, machine, fun key => ?_⟩
    rw [held, down, List.mem_cons, or_assoc]

end Session

theorem State.iterate_tick (s : State) (ticks : Nat) :
    tick^[ticks] s =
      { s with delay := (tick^[ticks] s).delay, redraw := (tick^[ticks] s).redraw } := by
  induction ticks with
  | zero => rfl
  | succ n ih =>
    rw [Function.iterate_succ_apply']
    generalize tick^[n] s = t at ih
    rw [ih]
    rfl

/-- A wait for a key has no side effects. As long as no key is held, a machine at FX0A stays there through
any steps, ticks and released keys: ticks count the delay down and acknowledge redraws, steps are accepted
and counted, and nothing else happens. Once keys have gone down, the next step puts the lowest of them into
register `x` and goes on to the next word, and changes nothing else. -/
theorem waits_for_lowest_key {m : Machine} (reached : m.Reached) {x : Reg} (awaits : m.Awaits x)
    (released : ∀ key, m.state.keypad.isHeld key = false) {ops : List Operation}
    (idle : ∀ op ∈ ops, op.keepsWaiting = true) :
    let s := (Session.start m).run ops
    let n := s.machine
    n = { m with state := State.tick^[ops.count .tick] m.state, count := m.count + ops.count .step } ∧
    n.state = { m.state with delay := n.state.delay, redraw := n.state.redraw } ∧
    n.step.error? = none ∧ s.signals = [] ∧
    ∀ codes : List Int, (∃ key : Key, (key.val : Int) ∈ codes) →
      let k := (s.run (codes.map .keyDown)).machine
      k = { n with state := { n.state with keypad := k.state.keypad } } ∧
      (∀ key, k.state.keypad.isHeld key = true ↔ (key.val : Int) ∈ codes) ∧
      k.step.error? = none ∧ k.step.events.filter Event.isSignal = [] ∧
      ∃ lowest : Key, k.state.keypad.isHeld lowest = true ∧
        (∀ key, k.state.keypad.isHeld key = true → lowest ≤ key) ∧
        k.step.machine = { k with
          state := { k.state with
            registers := k.state.registers.set x (UInt8.ofNat lowest)
            pc := k.state.pc + 2 }
          count := k.count + 1 } := by
  intro s n
  have waits : m.Waits x := ⟨awaits, released, reached.tone⟩
  obtain ⟨machine, signals⟩ : n = m.idled _ _ ∧ s.signals = _ := Session.waits_run waits idle
  have still : n.Waits x := machine ▸ waits.idled _ _
  refine ⟨machine, ?_, ?_, signals, ?_⟩
  · rw [machine]
    exact m.state.iterate_tick _
  · rw [still.awaits.step_released still.silent still.released]
    rfl
  · intro codes some k
    obtain ⟨keypad, pressed, held⟩ : ∃ keypad : Keypad, k = _ ∧ _ := s.run_keyDown codes
    have down (key : Key) : k.state.keypad.isHeld key = true ↔ (key.val : Int) ∈ codes := by
      have up : ¬ n.state.keypad.isHeld key = true := by rw [still.released key]; exact Bool.false_ne_true
      rw [pressed]
      exact (held key).trans (or_iff_right up)
    have here : k.Awaits x := still.awaits.congr (by rw [pressed]) (by rw [pressed])
    have silent : k.state.tone = none := by rw [pressed]; exact still.silent
    obtain ⟨key, listed⟩ := some
    obtain ⟨lowest, found, least⟩ := Keypad.lowest?_of_held ((down key).2 listed)
    have step := here.step_held silent found
    refine ⟨?_, down, ?_, ?_, lowest, least.1, least.2, ?_⟩
    · rw [pressed]
    · rw [step]
      rfl
    · rw [step]
      exact Machine.filter_isSignal_log _ _ _
    · rw [step]
      rfl

/-- A program of one FX0A, through which a second goes by with a key that was not held. Of the two keys that
then go down the lower one is taken. -/
theorem waits_for_lowest_key_pressed :
    let m := (Machine.powerOn default true default).moveAll [.perform (.load [0xF3, 0x0A])]
    let ops : List Operation := [.step, .tick, .keyUp 9, .step, .step]
    let codes : List Int := [0xB, 16, 0x7]
    let s := (Session.start m).run ops
    let k := (s.run (codes.map .keyDown)).machine
    m.Reached ∧ m.Awaits 3 ∧ (∀ key, m.state.keypad.isHeld key = false) ∧
      (∀ op ∈ ops, op.keepsWaiting = true) ∧ (∃ key : Key, (key.val : Int) ∈ codes) ∧
      s.machine.count = 3 ∧ s.machine.state.pc = 0x200 ∧
      k.step.machine.state.registers.get 3 = 7 ∧ k.step.machine.state.pc = 0x202 := by
  intro m ops codes s k
  have reached : m.Reached := ⟨default, true, default, _, rfl⟩
  have awaits : m.Awaits 3 := ⟨by decide +kernel, by decide +kernel⟩
  have released : ∀ key, m.state.keypad.isHeld key = false := by decide +kernel
  have idle : ∀ op ∈ ops, op.keepsWaiting = true := by decide
  have some : ∃ key : Key, (key.val : Int) ∈ codes := ⟨7, by decide⟩
  obtain ⟨waited, same, _, _, press⟩ := waits_for_lowest_key reached awaits released idle
  obtain ⟨pressed, down, _, _, lowest, held, least, step⟩ := press codes some
  have pc : s.machine.state.pc = 0x200 := by rw [same]; rfl
  have pc' : k.state.pc = 0x200 := (congrArg (fun n : Machine => n.state.pc) pressed).trans pc
  have seven : lowest = 7 := by
    have below : lowest.val ≤ 7 := least 7 ((down 7).2 (by decide))
    have listed : (lowest.val : Int) ∈ [0xB, 16, 0x7] := (down lowest).1 held
    rw [Fin.ext_iff]
    simp at listed ⊢
    omega
  refine ⟨reached, awaits, released, idle, some, ?_, pc, ?_, ?_⟩
  · rw [waited]
    rfl
  · rw [step, seven, Registers.get_set_self]
    rfl
  · rw [step, pc']
    rfl

end Chip8
