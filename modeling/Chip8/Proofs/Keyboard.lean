import Chip8.Proofs.Laps

/-! The keypad of a machine in a window. A key is held just as long as the host key that it stands for: the
last event of that key decides, unless the machine was reset after it. Nothing else moves the keypad, neither
instructions nor pauses nor errors. -/
namespace Chip8

/-- The host key that stands for a key. -/
def hostKey (c : Key) : String := keyNames[c]

theorem lookup_keyMap_eq_some_iff {key : String} {c : Key} :
    keyMap.lookup key = some c ↔ key = hostKey c := by
  constructor
  · intro found
    have named : ∀ entry ∈ keyMap, entry.1 = hostKey entry.2 := by decide +kernel
    obtain ⟨before, after, split, _⟩ := List.lookup_eq_some_iff.1 found
    exact named (key, c) (by rw [split]; exact List.mem_append_right _ List.mem_cons_self)
  · rintro rfl
    have found : ∀ c, keyMap.lookup (hostKey c) = some c := by decide +kernel
    exact found c

theorem hostKey_injective {c d : Key} (same : hostKey c = hostKey d) : c = d := by
  have found := lookup_keyMap_eq_some_iff.2 same
  rwa [lookup_keyMap_eq_some_iff.2 rfl, Option.some.injEq] at found

namespace WindowEvent

def isOf (key : String) : WindowEvent → Bool
  | .down k | .up k => k = key
  | _ => false

/-- The last event of a host key since the user last pressed F5. -/
def lastOf? (key : String) (events : List WindowEvent) : Option WindowEvent :=
  (events.reverse.takeWhile (· ≠ .down "f5")).find? (isOf key)

theorem lastOf?_concat (key : String) (events : List WindowEvent) (e : WindowEvent) :
    lastOf? key (events ++ [e]) =
      if e = .down "f5" then none else if e.isOf key then some e else lastOf? key events := by
  simp only [lastOf?, List.reverse_concat, List.takeWhile_cons, ne_eq, decide_not, Bool.not_eq_true',
    decide_eq_false_iff_not]
  by_cases f5 : e = .down "f5"
  · simp [f5]
  · rw [if_pos f5, if_neg f5, List.find?_cons]
    cases e.isOf key <;> rfl

end WindowEvent

namespace Machine
variable (m : Machine)

theorem keypad_keyDown (c : Key) :
    (m.apply (.keyDown c)).machine.state.keypad = m.state.keypad.set c true := by
  rw [apply, setKey_of_known ⟨by omega, by omega⟩]
  rfl

theorem keypad_keyUp (c : Key) :
    (m.apply (.keyUp c)).machine.state.keypad = m.state.keypad.set c false := by
  rw [apply, setKey_of_known ⟨by omega, by omega⟩]
  rfl

/-- No instruction and no tick of the timer moves the keypad, be it refused or not. -/
theorem keypad_work {op : Operation} (work : op = .step ∨ op = .tick) :
    (m.apply op).machine.state.keypad = m.state.keypad := by
  have responds := m.responds_apply op
  generalize m.apply op = r at responds
  cases responds with
  | refused | ticked => rfl
  | executed =>
    have unwritten (i : Instruction) : .keypad ∉ i.writes := by
      cases i with
      | misc op x => cases op <;> simp [Instruction.writes, MiscOp.writes]
      | _ => simp [Instruction.writes]
    exact State.execute_unwritten (p := .keypad) m.state.passWord _ (unwritten _)
  | loaded | keyDown | keyUp | reset => simp at work

theorem keypad_after {ops : List Operation} (work : ∀ op ∈ ops, op = .step ∨ op = .tick) :
    (m.after ops).state.keypad = m.state.keypad := by
  refine List.foldlRecOn (motive := fun n : Machine => n.state.keypad = m.state.keypad) ops _ rfl ?_
  intro n same op among
  rw [n.keypad_work (work op among), same]

/-- An operation on the key that a host key stands for, if any, moves no other key. -/
theorem isHeld_lookup {operation : Int → Operation} {down : Bool}
    (moves : ∀ (m : Machine) (c : Key),
      (m.apply (operation c)).machine.state.keypad = m.state.keypad.set c down) (key : String) (c : Key) :
    (m.after ((keyMap.lookup key).map fun code : Key => operation code).toList).state.keypad.isHeld c =
      if key = hostKey c then down else m.state.keypad.isHeld c := by
  cases found : keyMap.lookup key with
  | none =>
    have other : key ≠ hostKey c := fun same => by
      rw [lookup_keyMap_eq_some_iff.2 same] at found
      contradiction
    rw [if_neg other]
    rfl
  | some code =>
    obtain rfl := lookup_keyMap_eq_some_iff.1 found
    have moved : (m.after [operation code]).state.keypad = m.state.keypad.set code down := moves m code
    rw [Option.map_some, Option.toList_some, moved, Keypad.isHeld_set]
    by_cases same : code = c
    · rw [if_pos same, if_pos (congrArg hostKey same)]
    · rw [if_neg same, if_neg fun keys => same (hostKey_injective keys)]

end Machine

namespace Window
variable {τ : Type}

/-- What an event does to a key. -/
theorem isHeld_handle (w : Window τ) (now : τ) (e : WindowEvent) (c : Key) :
    (w.handle (now, e)).machine.state.keypad.isHeld c =
      if e = .down "f5" then false
      else if e.isOf (hostKey c) then decide (e = .down (hostKey c))
      else w.machine.state.keypad.isHeld c := by
  rw [w.machine_handle]
  cases e with
  | quit | other => rfl
  | up key =>
    rw [WindowEvent.operation?, w.machine.isHeld_lookup Machine.keypad_keyUp]
    by_cases same : key = hostKey c <;> simp [WindowEvent.isOf, same]
  | down key =>
    by_cases f5 : key = "f5"
    · rw [f5]
      exact Keypad.isHeld_released c
    · have other : WindowEvent.down key ≠ .down "f5" := fun same => f5 (WindowEvent.down.inj same)
      rw [WindowEvent.operation?, if_neg f5, if_neg other, w.machine.isHeld_lookup Machine.keypad_keyDown]
      by_cases same : key = hostKey c <;> simp [WindowEvent.isOf, same]

end Window

/-- A keypad on which the keys are held whose host keys went down last. -/
def Keypad.Follows (k : Keypad) (events : List WindowEvent) : Prop :=
  ∀ c, k.isHeld c = true ↔ WindowEvent.lastOf? (hostKey c) events = some (.down (hostKey c))

theorem Keypad.follows_nil {k : Keypad} (released : ∀ c, k.isHeld c = false) : k.Follows [] := by
  intro c
  rw [released c]
  exact ⟨nofun, nofun⟩

/-- The user's events of a turn. -/
def Turn.made {τ : Type} (t : Turn τ) : List WindowEvent := t.events.map Prod.snd

namespace Window
variable {τ : Type} {w : Window τ} {past : List WindowEvent}

theorem follows_handle (follows : w.machine.state.keypad.Follows past) (e : τ × WindowEvent) :
    (w.handle e).machine.state.keypad.Follows (past ++ [e.2]) := by
  intro c
  rw [WindowEvent.lastOf?_concat, isHeld_handle]
  split
  · simp
  · split
    · simp
    · exact follows c

theorem follows_events (follows : w.machine.state.keypad.Follows past) (events : List (τ × WindowEvent)) :
    (events.foldl handle w).machine.state.keypad.Follows (past ++ events.map Prod.snd) := by
  induction events generalizing w past with
  | nil => simpa using follows
  | cons e rest ih => simpa using ih (follows_handle follows e)

end Window

namespace Lap
variable {τ : Type} {l : Lap τ} {past : List WindowEvent}

theorem follows_handled (follows : l.before.window.machine.state.keypad.Follows past) :
    l.handled.window.machine.state.keypad.Follows (past ++ l.turn.made) := by
  rw [handled, Watched.window_handled]
  exact Window.follows_events follows l.turn.events

theorem keypad_after [Quantity τ] (l : Lap τ) :
    l.after.window.machine.state.keypad = l.handled.window.machine.state.keypad := by
  cases paused : l.handled.window.paused with
  | true => rw [after_of_paused paused]
  | false =>
    have machine : (l.handled.pace l.turn.now).window.machine = _ :=
      l.handled.window.machine_pace l.turn.now
    rw [after_of_running paused, machine]
    exact Machine.keypad_after _ fun op => Window.step_or_tick_of_mem_attempts

end Lap

/-- In every lap the keypad follows the events of the turns up to it. -/
theorem Watched.follows_laps {τ : Type} [Quantity τ] {r : Watched τ} {turns : List (Turn τ)}
    {past : List WindowEvent} {i : Nat} {l : Lap τ} (follows : r.window.machine.state.keypad.Follows past)
    (lap : (r.laps turns)[i]? = some l) :
    l.handled.window.machine.state.keypad.Follows (past ++ (turns.take (i + 1)).flatMap Turn.made) := by
  induction turns generalizing r past i with
  | nil => contradiction
  | cons t rest ih =>
    have handled := Lap.follows_handled (l := ⟨r, t⟩) follows
    cases i with
    | zero =>
      obtain rfl : ⟨r, t⟩ = l := Option.some.inj lap
      simpa using handled
    | succ i =>
      rw [laps, List.getElem?_cons_succ] at lap
      split at lap
      · contradiction
      · split at lap
        · have after : (Lap.after ⟨r, t⟩).window.machine.state.keypad.Follows (past ++ t.made) :=
            Lap.keypad_after ⟨r, t⟩ ▸ handled
          simpa using ih (r := (Lap.after ⟨r, t⟩).cleared) after lap
        · contradiction

namespace Window
variable {τ : Type} [Quantity τ]

/-- A window opens on the state that its machine is in. -/
theorem state_setUp {settings : WindowSettings τ} {machine : Machine} {mixer : Mixer} {now : τ}
    {w : Window τ} (opened : setUp settings machine mixer now = .ok w) :
    w.machine.state = machine.state := by
  unfold setUp at opened
  by_cases negative : settings.scale < 0
  · rw [if_pos negative] at opened
    contradiction
  rw [if_neg negative] at opened
  cases palette : Palette.ofName settings.scheme with
  | error e =>
    rw [palette] at opened
    contradiction
  | ok colors =>
    rw [palette] at opened
    cases beeper : Beeper.setUp settings.room settings.beepFrequency settings.volume mixer with
    | mk events result =>
      rw [beeper] at opened
      cases result with
      | error e => contradiction
      | ok b =>
        cases scheduler : Scheduler.ofRates settings.cpuRate settings.timerRate settings.maxLag now with
        | error e =>
          rw [scheduler] at opened
          contradiction
        | ok s =>
          rw [scheduler] at opened
          cases opened
          rfl

/-- When the events of a turn have been handled, a key is held exactly if the last event of its host key,
since the start or the last F5, was that it went down, and the rest of the turn leaves the keypad so. The
work of a turn never moves the keypad, F5 releases all keys, and any other event moves at most the key of
its own host key. -/
theorem keypad_follows_keyboard (settings : WindowSettings τ) (machine : Machine) (mixer : Mixer)
    (start : τ) (turns : List (Turn τ)) (released : ∀ c, machine.state.keypad.isHeld c = false) {w : Window τ}
    (opened : setUp settings machine mixer start = .ok w) :
    let script := Turn.script start turns
    let laps := (Watched.start w).laps script
    (run settings machine mixer start turns).turns.map WindowRecord.machine =
        (laps.filter fun l => l.error?.isNone).map (fun l => l.after.window.machine) ∧
      (∀ key c, keyMap.lookup key = some c ↔ key = hostKey c) ∧
      (∀ (i : Nat) l, laps[i]? = some l →
        let events := (script.take (i + 1)).flatMap Turn.made
        let keypad := l.handled.window.machine.state.keypad
        (∀ c, keypad.isHeld c = true ↔
          WindowEvent.lastOf? (hostKey c) events = some (.down (hostKey c))) ∧
        l.after.window.machine.state.keypad = keypad) ∧
      (∀ (m : Machine) op, op = .step ∨ op = .tick →
        (m.apply op).machine.state.keypad = m.state.keypad) ∧
      (∀ (v : Window τ) now c, (v.handle (now, .down "f5")).machine.state.keypad.isHeld c = false) ∧
      ∀ (v : Window τ) now e c, e ≠ .down "f5" → e.isOf (hostKey c) = false →
        (v.handle (now, e)).machine.state.keypad.isHeld c = v.machine.state.keypad.isHeld c := by
  intro script laps
  have first : w.machine.state.keypad.Follows [] :=
    Keypad.follows_nil fun c => by rw [state_setUp opened, released c]
  have played : run settings machine mixer start turns = w.play start turns := by simp only [run, opened]
  refine ⟨?_, fun _ _ => lookup_keyMap_eq_some_iff, fun i l lap => ?_, fun m _ => m.keypad_work, ?_, ?_⟩
  · rw [played]
    exact (play_eq (Watched.start w) start turns).1
  · exact ⟨Watched.follows_laps (r := Watched.start w) first lap, l.keypad_after⟩
  · intro v now c
    rw [isHeld_handle, if_pos rfl]
  · intro v now e c other foreign
    rw [isHeld_handle, if_neg other, foreign, if_neg Bool.false_ne_true]

/-- A program whose first instruction is refused, so that the loop pauses in its first turn. In the second
one a key goes up and another one down, while a third is still held from the first. -/
theorem keypad_follows_keyboard_paused :
    let machine := ((Machine.powerOn default true default).load [0x00, 0xEE]).machine
    let settings : WindowSettings Rat := ⟨4, 2, 10, 1 / 5, 1, "classic", 500, "chipvm", .unlimited⟩
    let mixer : Mixer := { failure? := some "No such device" }
    let turns : List (Turn Rat) :=
      [⟨[(0, .down "q"), (0, .down "4")], 1⟩, ⟨[(2, .up "q"), (2, .down "v"), (2, .down "k")], 3⟩]
    (∀ c, machine.state.keypad.isHeld c = false) ∧
      ∃ w, setUp settings machine mixer 0 = .ok w ∧
        ∃ l, ((Watched.start w).laps (Turn.script 0 turns))[1]? = some l ∧
          l.before.window.paused = true ∧
          l.handled.window.machine.state.keypad.isHeld 0x4 = false ∧
          l.handled.window.machine.state.keypad.isHeld 0xC = true ∧
          l.handled.window.machine.state.keypad.isHeld 0xF = true := by
  intro machine settings mixer turns
  have released : ∀ c, machine.state.keypad.isHeld c = false := by decide +kernel
  have halted : (setUp settings machine mixer 0).toOption.any (fun w =>
      ((Watched.start w).laps (Turn.script 0 turns))[1]?.any fun l => l.before.window.paused) = true := by
    decide +kernel
  cases opened : setUp settings machine mixer 0 with
  | error failure =>
    rw [opened] at halted
    contradiction
  | ok w =>
    rw [opened] at halted
    obtain ⟨_, same, halted⟩ := (Option.any_eq_true _ _).1 halted
    obtain rfl := Option.some.inj same
    obtain ⟨l, lap, paused⟩ := (Option.any_eq_true _ _).1 halted
    have held := ((keypad_follows_keyboard settings machine mixer 0 turns released opened).2.2.1 1 l lap).1
    refine ⟨released, w, rfl, l, lap, paused, ?_, (held 0xC).2 (by decide +kernel),
      (held 0xF).2 (by decide +kernel)⟩
    exact Bool.eq_false_iff.2 fun down => absurd ((held 0x4).1 down) (by decide +kernel)

end Window
end Chip8
