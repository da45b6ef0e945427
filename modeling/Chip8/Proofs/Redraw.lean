import Chip8.Proofs.Footprint
import Chip8.Proofs.Response
import Chip8.Proofs.Run

/-! The redraw flag and the frames that a host is shown. Whatever changes a cell of the display raises
the flag, and only a tick takes it down, which shows the display. So without the flag the last frame
is the display. -/
namespace Chip8

theorem Grid.any_eq_false_iff {g : Grid} : g.any = false ↔ ∀ x y, g.get x y = false := by
  rw [← Bool.not_eq_true, Grid.any_iff]
  simp only [not_exists, Bool.not_eq_true]

namespace State
variable {s : State}

theorem commitPending_quiet (quiet : s.commitPending.redraw = false) :
    s.redraw = false ∧ s.commitPending.display = s.display := by
  simp only [commitPending, Bool.or_eq_false_iff, Grid.any_eq_false_iff, Grid.get_inter] at quiet
  refine ⟨quiet.1, Grid.ext_get fun x y => ?_⟩
  have apart := quiet.2 x y
  simp only [commitPending, Grid.get_diff]
  cases lit : s.display.get x y <;> simp_all

theorem stamp_quiet {area bits : Grid} (inside : ∀ x y, bits.get x y = true → area.get x y = true)
    (quiet : (s.stamp area bits).redraw = false) :
    s.redraw = false ∧ (s.stamp area bits).display = s.display := by
  simp only [stamp, Bool.or_eq_false_iff, Grid.any_eq_false_iff, Grid.get_diff] at quiet
  refine ⟨quiet.1, Grid.ext_get fun x y => ?_⟩
  have shown := quiet.2 x y
  have inside := inside x y
  simp only [stamp, Grid.get_union, Grid.get_inter, Grid.get_symmDiff]
  cases lit : s.display.get x y <;> cases bit : bits.get x y <;> simp_all

theorem draw_quiet {x y : Reg} {height : Fin 16} (quiet : (s.draw x y height).redraw = false) :
    s.redraw = false ∧ (s.draw x y height).display = s.display := by
  obtain ⟨before, same⟩ := stamp_quiet (fun _ _ => Sprite.area_of_bits) quiet
  obtain ⟨start, committed⟩ := commitPending_quiet before
  exact ⟨start, same.trans committed⟩

theorem clearScreen_quiet (quiet : s.clearScreen.redraw = false) :
    s.redraw = false ∧ s.clearScreen.display = s.display := by
  simp only [clearScreen, Bool.or_eq_false_iff, Grid.any_eq_false_iff] at quiet
  refine ⟨quiet.1, Grid.ext_get fun x y => ?_⟩
  rw [quiet.2 x y]
  exact Grid.get_dark x y

/-- An instruction that leaves the flag down has changed no cell of the display. -/
theorem execute_quiet {i : Instruction} (quiet : (s.execute i).redraw = false) :
    s.redraw = false ∧ (s.execute i).display = s.display := by
  -- Only two instructions touch the picture.
  have apart (avoids : i.Avoids Part.picture) :
      s.redraw = false ∧ (s.execute i).display = s.display := by
    have redraw : (s.execute i).redraw = s.redraw :=
      execute_hidden (p := .redraw) avoids (by decide)
    have display : (s.execute i).display = s.display :=
      execute_hidden (p := .display) avoids (by decide)
    exact ⟨redraw.symm.trans quiet, display⟩
  cases i with
  | clear => exact clearScreen_quiet quiet
  | draw => exact draw_quiet quiet
  | _ => exact apart (Instruction.avoids_picture nofun nofun)

end State

def Event.frame? : Event → Option Grid
  | .frame picture => some picture
  | _ => none

namespace Machine
variable {m : Machine}

/-- Where frames have a listener, all of them reach it. -/
theorem frames_respond (watched : m.observer.frames = true) (events : List Event)
    (error? : Option Error) :
    (m.respond events error?).events.filterMap Event.frame? = events.filterMap Event.frame? := by
  refine filterMap_respond (fun event picture shown => ?_) events error?
  cases event with
  | frame => exact watched
  | _ => contradiction

theorem frames_log (lines : List (Level × String)) :
    (lines.map fun (level, text) => Event.log level text).filterMap Event.frame? = [] := by
  refine List.filterMap_eq_nil_iff.2 fun event logged => ?_
  obtain ⟨line, _, rfl⟩ := List.mem_map.1 logged
  rfl

theorem frames_wordReport (word address : Int) :
    (wordReport word address).filterMap Event.frame? = [] := by
  unfold wordReport
  cases Instruction.unknown? word address <;> rfl

theorem frames_tones (tone? : Option Int) :
    (tone?.toList.map Event.tone).filterMap Event.frame? = [] := by
  cases tone? <;> rfl

variable {op : Operation} {r : Response}

/-- Only a tick shows a frame, and only when a redraw is due. -/
theorem Responds.frames (watched : m.observer.frames = true) (responds : m.Responds op r) :
    r.events.filterMap Event.frame? =
      if op = .tick ∧ m.state.redraw = true then [m.state.display] else [] := by
  cases responds with
  | refused lines refuses =>
    have other : op ≠ .tick := by rintro rfl; nomatch refuses
    rw [frames_respond watched, frames_log, if_neg fun tick => other tick.1]
  | executed =>
    have watched : m.executed.observer.frames = true := watched
    rw [frames_respond watched, List.filterMap_append, frames_wordReport, frames_tones]
    rfl
  | ticked =>
    have watched : { m with state := m.state.tick : Machine }.observer.frames = true := watched
    simp only [tick, frames_respond watched, true_and]
    cases m.state.redraw <;> rfl
  | loaded | reset => exact frames_respond watched _ none
  | keyDown | keyUp => rfl

theorem Responds.observer (responds : m.Responds op r) : r.machine.observer = m.observer :=
  responds.settings.2.2

/-- Without the flag nothing but a tick can have changed the display. -/
theorem Responds.quiet (responds : m.Responds op r) (other : op ≠ .tick)
    (quiet : r.machine.state.redraw = false) :
    m.state.redraw = false ∧ r.machine.state.display = m.state.display := by
  cases responds with
  | ticked | reset => contradiction
  | executed => exact m.state.passWord.execute_quiet quiet
  | refused | loaded | keyDown | keyUp => exact ⟨quiet, rfl⟩

end Machine

namespace Session

/-- The frames that were shown, oldest first. -/
def frames (s : Session) : List Grid := s.seen.toList.filterMap Event.frame?

/-- Frames have a listener, whose last one is the display unless a redraw is due. -/
structure Fresh (s : Session) : Prop where
  watched : s.machine.observer.frames = true
  shown : s.machine.state.redraw = false → s.frames.getLast? = some s.machine.state.display

variable {s : Session}

theorem frames_next (watched : s.machine.observer.frames = true) (op : Operation) :
    (s.next op).frames = s.frames ++
      if op = .tick ∧ s.machine.state.redraw = true then [s.machine.state.display] else [] := by
  rw [frames, seen_next, List.filterMap_append, (s.machine.responds_apply op).frames watched]
  rfl

theorem Fresh.next (fresh : s.Fresh) (op : Operation) : (s.next op).Fresh := by
  have responds := s.machine.responds_apply op
  refine ⟨responds.observer ▸ fresh.watched, fun quiet => ?_⟩
  rw [frames_next fresh.watched]
  -- Either the operation shows the display, or the last frame is still the one shown before.
  by_cases shows : op = .tick ∧ s.machine.state.redraw = true
  · obtain ⟨rfl, _⟩ := shows
    rw [if_pos ⟨rfl, ‹_›⟩, List.getLast?_append]
    rfl
  · rw [if_neg shows, List.append_nil]
    by_cases tick : op = .tick
    · subst tick
      exact fresh.shown (by simpa using shows)
    · obtain ⟨before, same⟩ := responds.quiet tick quiet
      rw [machine_next, same]
      exact fresh.shown before

theorem fresh_run (watched : s.machine.observer.frames = true)
    (due : s.machine.state.redraw = true) (ops : List Operation) : (s.run ops).Fresh := by
  have initial : s.Fresh := ⟨watched, fun quiet => by rw [due] at quiet; contradiction⟩
  exact run_invariant (fun _ op fresh => fresh.next op) initial ops

/-- From power-on a host that listens to frames has the display in its last frame whenever no redraw
is due. A tick shows the display once if a redraw is due, and nothing else shows a frame. -/
theorem picture_never_stale (seed : Seed) (strict : Bool) (observer : Observer)
    (watched : observer.frames = true) (ops : List Operation) :
    let s := (start (.powerOn seed strict observer)).run ops
    (s.machine.state.redraw = false → s.frames.getLast? = some s.machine.state.display) ∧
      (∀ op, (s.next op).frames = s.frames ++
        if op = .tick ∧ s.machine.state.redraw = true then [(s.next op).machine.state.display]
        else []) ∧
      (s.next .tick).machine.state.redraw = false := by
  intro s
  have fresh : s.Fresh := fresh_run watched rfl ops
  refine ⟨fresh.shown, fun op => ?_, rfl⟩
  rw [frames_next fresh.watched]
  by_cases tick : op = .tick
  · subst tick
    rfl
  · simp only [tick, false_and, if_false]

/-- A host with a frame listener alone, after a glyph has been drawn and a tick has passed. -/
theorem picture_never_stale_glyph :
    let observer : Observer := ⟨.info, true, false, false⟩
    let ops : List Operation := [.load [0xD0, 0x01], .step, .tick]
    let s := (start (.powerOn default true observer)).run ops
    observer.frames = true ∧ s.machine.state.redraw = false ∧
      s.frames.getLast? = some s.machine.state.display := by
  intro observer ops s
  have quiet : s.machine.state.redraw = false := by decide +kernel
  exact ⟨rfl, quiet, (picture_never_stale default true observer rfl ops).1 quiet⟩

end Session
end Chip8
