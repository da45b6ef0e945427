import Chip8.Proofs.Journal
import Chip8.Proofs.PlainScreen
import Chip8.Proofs.Redraw

/-! What the display shows beside the screen that programs see. Erased cells stay lit until the next
sprite, so that after a sprite the display is the screen from before it over the screen from after
it. No frame then lacks a cell that is lit, and what it shows too much was lit one sprite ago. -/
namespace Chip8

/-- Whether an instruction draws a sprite or clears the screen. -/
def Instruction.onScreen : Instruction → Bool
  | clear | draw .. => true
  | _ => false

/-- The sprite that an instruction has drawn. -/
def Executed.sprite? (e : Executed) : Option Sprite :=
  match e.instruction with
  | .draw x y height => some (e.before.sprite x y height)
  | _ => none

namespace Journal

/-- The last instruction that has drawn a sprite or cleared the screen. -/
def lastOnScreen? (j : Journal) : Option Executed := j.find? (·.instruction.onScreen)

/-- The sprite that was drawn last. -/
def lastSprite? (j : Journal) : Option Sprite := j.findSome? Executed.sprite?

/-- What the last instruction on the screen has left on the display: after a sprite the screen from
before it over the screen as it is now, and otherwise nothing. -/
def Explains (j : Journal) (s : State) : Prop :=
  match j.lastOnScreen? with
  | some ⟨before, .draw x y height⟩ =>
      s.display = before.screen.union s.screen ∧
        s.screen = before.screen.symmDiff ((before.sprite x y height).bits before.memory)
  | _ => s.display = .dark

/-- Cells are marked nowhere but in the last sprite. -/
def Marks (j : Journal) (s : State) : Prop :=
  ∀ x y, s.pending.get x y = true → ∃ sprite, j.lastSprite? = some sprite ∧ sprite.covers x y = true

variable {j : Journal} {s t : State}

theorem Explains.congr (explains : j.Explains s) (display : t.display = s.display)
    (pending : t.pending = s.pending) : j.Explains t := by
  have screen : t.screen = s.screen := by simp only [State.screen, display, pending]
  unfold Explains at explains ⊢
  rwa [display, screen]

theorem Marks.congr (marks : j.Marks s) (pending : t.pending = s.pending) : j.Marks t := by
  unfold Marks
  rwa [pending]

end Journal

namespace State
variable {s : State} {j : Journal}

/-- Stamping the lit cells of an area shows the new screen over the old. -/
theorem display_stamp {area bits : Grid}
    (inside : ∀ x y, bits.get x y = true → area.get x y = true) :
    (s.stamp area bits).display = s.display.union (s.stamp area bits).screen := by
  rw [screen_stamp s inside]
  refine Grid.ext_get fun x y => ?_
  have inside := inside x y
  simp only [stamp, Grid.get_union, Grid.get_inter, Grid.get_symmDiff]
  cases covered : area.get x y <;> cases lit : bits.get x y <;> simp_all

theorem explains_draw (x y : Reg) (height : Fin 16) :
    (s.passWord.draw x y height).display =
        s.screen.union (s.passWord.draw x y height).screen ∧
      (s.passWord.draw x y height).screen =
        s.screen.symmDiff ((s.sprite x y height).bits s.memory) :=
  ⟨display_stamp (s := s.passWord.commitPending) fun _ _ => Sprite.area_of_bits,
    screen_stamp s.passWord.commitPending fun _ _ => Sprite.area_of_bits⟩

theorem display_execute {i : Instruction} (off : i.onScreen = false) :
    (s.execute i).display = s.display := by
  refine execute_unwritten (p := .display) s i ?_
  cases i with
  | clear | draw => contradiction
  | misc op x => cases op <;> simp [Instruction.writes, MiscOp.writes]
  | _ => simp [Instruction.writes]

/-- Only a sprite marks cells. -/
theorem pending_execute {i : Instruction} (other : ∀ x y height, i ≠ .draw x y height) :
    (s.execute i).pending = s.pending := by
  refine execute_unwritten (p := .pending) s i ?_
  cases i with
  | draw x y height => exact absurd rfl (other x y height)
  | misc op x => cases op <;> simp [Instruction.writes, MiscOp.writes]
  | _ => simp [Instruction.writes]

theorem explains_cycle (explains : j.Explains s) :
    Journal.Explains (⟨s, s.instruction⟩ :: j) s.cycle := by
  rw [cycle_eq]
  generalize s.instruction = i
  cases on : i.onScreen with
  | false =>
    have display : (s.passWord.execute i).display = s.display := display_execute on
    have pending : (s.passWord.execute i).pending = s.pending := by
      refine pending_execute ?_
      rintro x y height rfl
      contradiction
    have same : Journal.lastOnScreen? (⟨s, i⟩ :: j) = j.lastOnScreen? := by
      simp only [Journal.lastOnScreen?, List.find?_cons, on]
    unfold Journal.Explains
    rw [same]
    exact explains.congr display pending
  | true =>
    cases i with
    | clear => rfl
    | draw x y height => exact explains_draw x y height
    | _ => contradiction

theorem marks_cycle (marks : j.Marks s) : Journal.Marks (⟨s, s.instruction⟩ :: j) s.cycle := by
  rw [cycle_eq]
  generalize s.instruction = i
  cases drawn : Executed.sprite? ⟨s, i⟩ with
  | none =>
    have other : ∀ x y height, i ≠ .draw x y height := by
      rintro x y height rfl
      contradiction
    have same : Journal.lastSprite? (⟨s, i⟩ :: j) = j.lastSprite? := by
      simp only [Journal.lastSprite?, List.findSome?_cons, drawn]
    unfold Journal.Marks
    rw [same, pending_execute other]
    exact marks
  | some sprite =>
    have last : Journal.lastSprite? (⟨s, i⟩ :: j) = some sprite := by
      simp only [Journal.lastSprite?, List.findSome?_cons, drawn]
    cases i with
    | draw x y height =>
      intro column row marked
      refine ⟨sprite, last, ?_⟩
      obtain rfl := Option.some.inj drawn
      have marked : ((s.sprite x y height).area.diff _).get column row = true := marked
      simp only [Sprite.area, Grid.get_diff, Grid.get_ofFn, Bool.and_eq_true] at marked
      exact marked.1
    | _ => contradiction

end State

namespace Recorded

/-- A call on the engine. A cycle adds the instruction at the program counter to the journal. -/
def take (r : Recorded State) (call : Call) : Recorded State :=
  ⟨r.now.take call,
    match call with
    | .cycle => ⟨r.now, r.now.instruction⟩ :: r.journal
    | _ => r.journal⟩

def takeAll (r : Recorded State) (calls : List Call) : Recorded State := calls.foldl take r

end Recorded

/-- What is kept by the instructions, by whatever leaves the picture alone, and holds at power-on. -/
structure Journal.Kept (P : Journal → State → Prop) : Prop where
  dark (s : State) : s.display = .dark → s.pending = .dark → P [] s
  cycle {j : Journal} {s : State} : P j s → P (⟨s, s.instruction⟩ :: j) s.cycle
  congr {j : Journal} {s t : State} : P j s → t.display = s.display → t.pending = s.pending → P j t

theorem kept_explains : Journal.Kept Journal.Explains where
  dark _ display _ := display
  cycle := State.explains_cycle
  congr := Journal.Explains.congr

theorem kept_marks : Journal.Kept Journal.Marks where
  dark s _ pending x y marked := by
    rw [pending, Grid.get_dark] at marked
    contradiction
  cycle := State.marks_cycle
  congr marks _ pending := marks.congr pending

namespace Journal.Kept
variable {P : Journal → State → Prop}

theorem take (kept : Kept P) {r : Recorded State} (call : Call) (holds : P r.journal r.now) :
    P (r.take call).journal (r.take call).now := by
  cases call with
  | cycle => exact kept.cycle holds
  | tick | clearTone | keys => exact kept.congr holds rfl rfl
  | load program =>
    by_cases long : program.length > maxProgramSize
    · simpa only [Recorded.take, State.take, State.load, if_pos long] using holds
    · simp only [Recorded.take, State.take, State.load, if_neg long]
      exact kept.congr holds rfl rfl

theorem takeAll (kept : Kept P) (seed : Seed) (calls : List Call) :
    P ((Recorded.start (State.powerOn seed)).takeAll calls).journal
      ((Recorded.start (State.powerOn seed)).takeAll calls).now :=
  List.foldlRecOn calls Recorded.take (motive := fun r => P r.journal r.now)
    (kept.dark _ rfl rfl) fun _ holds call _ => kept.take call holds

theorem move (kept : Kept P) {r : Recorded Machine} {move : Move} {n : Machine}
    (moves : r.now.Moves move n) (holds : P r.journal r.now.state) :
    P (r.now.record r.journal move) n.state := by
  cases moves with
  | executed accepted =>
    rw [Machine.record_step accepted]
    exact kept.congr (kept.cycle holds) rfl rfl
  | reset => exact kept.dark _ rfl rfl
  | host _ unrecorded same =>
    rw [unrecorded]
    exact kept.congr holds (same .display (by decide)) (same .pending (by decide))

theorem run (kept : Kept P) (seed : Seed) (strict : Bool) (observer : Observer)
    (moves : List Move) :
    P ((Recorded.start (Machine.powerOn seed strict observer)).run moves).journal
      ((Recorded.start (Machine.powerOn seed strict observer)).run moves).now.state :=
  Recorded.run_invariant (P := fun r => P r.journal r.now.state) (kept.dark _ rfl rfl) kept.move moves

end Journal.Kept

/-- Frames show the display. -/
theorem Machine.Responds.frame {m : Machine} {op : Operation} {r : Response} {picture : Grid}
    (responds : m.Responds op r) (shown : .frame picture ∈ r.events) :
    picture = m.state.display := by
  have among {n : Machine} {events : List Event} {error? : Option Error}
      (seen : .frame picture ∈ (n.respond events error?).events) :
      picture ∈ events.filterMap Event.frame? :=
    List.mem_filterMap.2 ⟨_, (List.mem_filter.1 seen).1, rfl⟩
  cases responds with
  | refused lines =>
    have none := among shown
    rw [frames_log] at none
    contradiction
  | executed =>
    have none := among shown
    rw [List.filterMap_append, frames_wordReport, frames_tones] at none
    contradiction
  | ticked =>
    have shown := among shown
    cases due : m.state.redraw with
    | true => simpa [due, Event.frame?] using shown
    | false => simp [due] at shown
  | loaded | reset | keyDown | keyUp => exact absurd (among shown) (by simp [Event.frame?])

/-- The last instruction on the screen explains what the display shows, after any calls on the
engine. So a frame from a machine has all cells that are lit for the program, and any other cell in
it was lit just before the last sprite. -/
theorem frames_never_lose_sprites (seed : Seed) :
    (∀ calls : List Call,
      let r := (Recorded.start (State.powerOn seed)).takeAll calls
      r.journal.Explains r.now) ∧
    ∀ (strict : Bool) (observer : Observer) (moves : List Move) (op : Operation) (picture : Grid),
      let r := (Recorded.start (Machine.powerOn seed strict observer)).run moves
      .frame picture ∈ (r.now.apply op).events →
        (∀ x y, r.now.state.screen.get x y = true → picture.get x y = true) ∧
        ∀ x y, picture.get x y = true → r.now.state.screen.get x y = false →
          ∃ before sx sy height,
            r.journal.lastOnScreen? = some ⟨before, .draw sx sy height⟩ ∧
              before.screen.get x y = true := by
  refine ⟨kept_explains.takeAll seed, ?_⟩
  intro strict observer moves op picture r shown
  obtain rfl := (r.now.responds_apply op).frame shown
  have explains : r.journal.Explains r.now.state := kept_explains.run seed strict observer moves
  refine ⟨fun x y lit => ?_, fun x y lit hidden => ?_⟩
  · simp only [State.screen, Grid.get_diff, Bool.and_eq_true] at lit
    exact lit.1
  · unfold Journal.Explains at explains
    split at explains
    · next before sx sy height last =>
      obtain ⟨display, _⟩ := explains
      rw [display, Grid.get_union, hidden, Bool.or_false] at lit
      exact ⟨before, sx, sy, height, last, lit⟩
    · rw [explains, Grid.get_dark] at lit
      contradiction

/-- A glyph's top row drawn twice is dark for the program, and the next frame still shows it. -/
theorem frames_never_lose_sprites_erased :
    let observer : Observer := ⟨.info, true, false, false⟩
    let moves : List Move :=
      [.perform (.load [0xD0, 0x01, 0xD0, 0x01]), .perform .step, .perform .step]
    let r := (Recorded.start (Machine.powerOn default true observer)).run moves
    .frame r.now.state.display ∈ (r.now.apply .tick).events ∧
      r.now.state.display.get 0 0 = true ∧ r.now.state.screen.get 0 0 = false ∧
      ∃ before sx sy height,
        r.journal.lastOnScreen? = some ⟨before, .draw sx sy height⟩ ∧
          before.screen.get 0 0 = true := by
  intro observer moves r
  have watched : r.now.observer.frames = true := by decide +kernel
  have due : r.now.state.redraw = true := by decide +kernel
  have shown : .frame r.now.state.display ∈ (r.now.apply .tick).events := by
    rw [Machine.apply, Machine.tick, if_pos due]
    exact List.mem_filter.2 ⟨List.mem_singleton_self _, watched⟩
  have lit : r.now.state.display.get 0 0 = true := by decide +kernel
  have dark : r.now.state.screen.get 0 0 = false := by decide +kernel
  have frames := (frames_never_lose_sprites default).2 true observer moves .tick _ shown
  exact ⟨shown, lit, dark, frames.2 0 0 lit dark⟩

end Chip8
