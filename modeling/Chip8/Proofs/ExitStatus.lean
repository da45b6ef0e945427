import Chip8.Host.Run
import Chip8.Picture.Encoding
import Chip8.Proofs.Magnification
import Chip8.Proofs.Rounds

/-! What a run without a window ends with. Its status is one where the program cannot be read, does not fit
or stops at an instruction that is refused, and otherwise zero. A picture is saved of a program that has been
executed, as far as it went: the instruction that was refused has left no trace on it. -/
namespace Chip8

/-- Everything that a run without a window is told, in the form in which it is used. -/
structure HeadlessPlan (τ : Type) where
  level : Level
  rom : String
  seed : Seed
  strict : Bool
  cycles : Int
  rates : Rates τ
  palette : Palette
  scale : Nat
  magnified : 1 ≤ scale
  /-- The file for a picture of the last screen. -/
  screenshot? : Option String

namespace HeadlessPlan
variable {τ : Type} (p : HeadlessPlan τ)

def picture (screen : Grid) : Picture := .ofGrid screen p.palette p.scale

def machine : Machine := .powerOn p.seed p.strict { level := p.level }

/-- What comes of a screen: its picture in the file that is named for it, in the format that the library has
for this name. -/
inductive Saved (images : ImageLibrary) (screen : Grid) : Option ImageFile → Prop
  | nothing (unasked : p.screenshot? = none) : Saved images screen none
  | file {path format : String} {bytes : ByteArray} (asked : p.screenshot? = some path)
      (accepted : images.formatOf path = .ok format)
      (written : images.encode format (p.picture screen) = .ok bytes) :
      Saved images screen (some ⟨path, format, p.picture screen, bytes⟩)

theorem Saved.exists_of_asked {p : HeadlessPlan τ} {images : ImageLibrary} {screen : Grid}
    {path : String} {saved : Option ImageFile} (isSaved : p.Saved images screen saved)
    (asked : p.screenshot? = some path) :
    ∃ format bytes, saved = some ⟨path, format, p.picture screen, bytes⟩ ∧
      images.formatOf path = .ok format ∧ images.encode format (p.picture screen) = .ok bytes := by
  cases isSaved with
  | nothing unasked => exact absurd (unasked.symm.trans asked) nofun
  | file asked' accepted written =>
    obtain rfl := Option.some.inj (asked.symm.trans asked')
    exact ⟨_, _, rfl, accepted, written⟩

end HeadlessPlan

/-- A picture of every screen can be kept in a file. The library accepts its name and writes pictures of
this size, and the host opens the file and has the memory. -/
structure Surroundings.Keeps {τ : Type} (around : Surroundings τ) (p : HeadlessPlan τ)
    (path format : String) : Prop where
  accepted : around.images.formatOf path = .ok format
  written : ∀ screen, ∃ bytes, around.images.encode format (p.picture screen) = .ok bytes
  opened : around.files.checkWrite path = .ok ()
  room : Picture.checkRoom around.room p.scale = .ok ()

/-- All settings that a run without a window reads have a value, and a picture that is asked for can be
kept. -/
structure Settings.Means {τ : Type} (s : Settings τ) (around : Surroundings τ) (p : HeadlessPlan τ) :
    Prop where
  headless : s.headless = .ok true
  level : (s.logLevel >>= Run.levelOf) = .ok p.level
  rom : s.rom = .ok p.rom
  seed : s.seed = .ok p.seed.val
  strict : s.strict = .ok p.strict
  cycles : s.maxCycles = .ok p.cycles
  cpuRate : s.cpuRate = .ok p.rates.cpu
  timerRate : s.timerRate = .ok p.rates.timer
  scale : s.scale = .ok p.scale
  scheme : ∃ name, s.scheme = .ok name ∧ Palette.ofName name = .ok p.palette
  screenshot? : s.screenshot? = .ok p.screenshot?
  keeps : ∀ path, p.screenshot? = some path → ∃ format, around.Keeps p path format

namespace Session
open Operation
variable {s : Session} {made : Nat → Nat}

theorem fault_of_rounds_error {n : Nat} {e : Error}
    (failed : (s.performAll (rounds made 0 n)).2 = some e) : ∃ f, e = .fault f := by
  obtain ⟨_, _, _, refused⟩ := performAll_rounds_eq_some failed
  exact Machine.fault_of_step_error refused

/-- Rounds are not all done exactly if a step among them is refused that is tried when all before it are
done. -/
theorem rounds_refused_iff {n : Nat} :
    (∃ k < n, (s.performAll (rounds made 0 k)).2 = none ∧
      ∃ f, (s.performAll (rounds made 0 k)).1.machine.step.error? = some (.fault f)) ↔
    (s.performAll (rounds made 0 n)).2 ≠ none := by
  constructor
  · rintro ⟨k, within, before, f, refused⟩ done
    have failed : (s.performAll (rounds made 0 n)).2 = some (.fault f) := by
      rw [performAll_rounds_of_refused within before refused]
      exact refused
    exact Option.some_ne_none _ (failed.symm.trans done)
  · intro stopped
    obtain ⟨e, failed⟩ := Option.ne_none_iff_exists'.1 stopped
    obtain ⟨k, within, before, refused⟩ := performAll_rounds_eq_some failed
    obtain ⟨f, rfl⟩ := Machine.fault_of_step_error refused
    exact ⟨k, within, before, f, refused⟩

theorem le_of_done_of_refused {k n : Nat} {e : Error}
    (before : (s.performAll (rounds made 0 k)).2 = none)
    (refused : ((s.performAll (rounds made 0 k)).1.perform .step).2 = some e)
    (done : (s.performAll (rounds made 0 n)).2 = none) : n ≤ k := by
  by_contra beyond
  rw [performAll_rounds_of_refused (Nat.lt_of_not_le beyond) before refused, refused] at done
  contradiction

/-- Of the numbers of rounds that are done without an error there is a greatest, and all rounds together leave
the machine of these, since a step that is refused leaves no trace. -/
theorem exists_greatest_done (s : Session) (made : Nat → Nat) (n : Nat) :
    ∃ k, IsGreatest {k | k ≤ n ∧ (s.performAll (rounds made 0 k)).2 = none} k ∧
      (s.performAll (rounds made 0 n)).1.machine = (s.performAll (rounds made 0 k)).1.machine := by
  cases all : (s.performAll (rounds made 0 n)).2 with
  | none => exact ⟨n, ⟨⟨le_rfl, all⟩, fun k within => within.1⟩, rfl⟩
  | some e =>
    obtain ⟨k, earlier, before, refused⟩ := performAll_rounds_eq_some all
    have greatest : ∀ j, j ≤ n ∧ (s.performAll (rounds made 0 j)).2 = none → j ≤ k :=
      fun j within => le_of_done_of_refused before refused within.2
    refine ⟨k, ⟨⟨earlier.le, before⟩, greatest⟩, ?_⟩
    rw [performAll_rounds_of_refused earlier before refused]
    exact Machine.machine_apply_of_error refused

end Session

namespace Run
open Operation
variable {τ : Type} {s : Settings τ} {around : Surroundings τ} {p : HeadlessPlan τ}

theorem machine_of_means (means : s.Means around p) :
    machine s { level := p.level } = .ok p.machine := by
  rw [machine, means.seed, means.strict]
  simp only [bind, Except.bind, Seed.ofInt?_val]
  rfl

theorem save_of_keeps {path format scheme : String} (keeps : around.Keeps p path format)
    (palette : Palette.ofName scheme = .ok p.palette) (screen : Grid) :
    ∃ bytes, around.images.encode format (p.picture screen) = .ok bytes ∧
      ImageFile.save around.files around.images around.room (.screen screen) path p.scale scheme =
        .ok ⟨path, format, p.picture screen, bytes⟩ := by
  obtain ⟨bytes, written⟩ := keeps.written screen
  have picture : Picture.renderInMemory around.room screen p.palette p.scale = .ok (p.picture screen) := by
    rw [Picture.renderInMemory_of_least screen _ _ (Int.ofNat_le.2 p.magnified), Int.toNat_natCast,
      keeps.room]
    rfl
  refine ⟨bytes, written, ?_⟩
  simp only [ImageFile.save, palette, Subject.grid, bind, Except.bind, picture, keeps.accepted,
    keeps.opened, ImageLibrary.write, written]
  rfl

theorem savePicture_of_means (means : s.Means around p) (screen : Grid) :
    ∃ saved, savePicture s around screen = .ok saved ∧ p.Saved around.images screen saved := by
  rw [savePicture, means.screenshot?]
  cases asked : p.screenshot? with
  | none => exact ⟨none, rfl, .nothing asked⟩
  | some path =>
    obtain ⟨name, scheme, palette⟩ := means.scheme
    obtain ⟨format, keeps⟩ := means.keeps path asked
    obtain ⟨bytes, written, saved⟩ := save_of_keeps keeps palette screen
    refine ⟨_, ?_, .file asked keeps.accepted written⟩
    simp only [bind, Except.bind, means.scale, scheme, saved]
    rfl

variable [Quantity τ]

/-- The status tells whether all instructions were executed, and the picture shows the screen at the end. -/
theorem withoutWindow_of_ended (means : s.Means around p) {m : Machine} {steps : Nat}
    {last : Session × Option Error}
    (ran : Session.runHeadless { machine := m } p.rates p.cycles = Session.ended steps last)
    (faults : ∀ e, last.2 = some e → ∃ f, e = .fault f) :
    let r := withoutWindow s around m
    (last.2 = none → r.status = .ok 0) ∧ (last.2 ≠ none → r.status = .ok 1) ∧
      p.Saved around.images last.1.machine.state.display r.screenshot? := by
  intro r
  have settings : headlessSettings s = .ok (p.cycles, p.rates) := by
    rw [headlessSettings, means.cycles, means.cpuRate, means.timerRate]
    rfl
  obtain ⟨session, e?⟩ := last
  obtain ⟨saved, save, picture⟩ := savePicture_of_means means session.machine.state.display
  simp only [r, withoutWindow, settings, RunResult.given, ran]
  cases e? with
  | none =>
    simp only [Session.ended, save]
    cases saved <;> exact ⟨fun _ => rfl, nofun, picture⟩
  | some e =>
    obtain ⟨f, rfl⟩ := faults e rfl
    simp only [Session.ended, save]
    cases saved <;> exact ⟨nofun, fun _ => rfl, picture⟩

theorem withoutWindow_rounds {due : Nat → Int} (means : s.Means around p)
    (finite : ∀ k, 1 ≤ k → k ≤ p.cycles.toNat → p.rates.ticksAfter k = .ok (due k)) (m : Machine) :
    let n := p.cycles.toNat
    let after k := Session.performAll { machine := m } (rounds (ticksMade due) 0 k)
    let refused := ∃ k < n, (after k).2 = none ∧ ∃ f, (after k).1.machine.step.error? = some (.fault f)
    let r := withoutWindow s around m
    (r.status = .ok 1 ↔ refused) ∧ (r.status = .ok 0 ↔ ¬ refused) ∧
      ∃ k, IsGreatest {k | k ≤ n ∧ (after k).2 = none} k ∧
        p.Saved around.images (after k).1.machine.state.display r.screenshot? := by
  intro n after refused r
  have ran := Session.runHeadless_eq_ended (s := { machine := m }) finite
  obtain ⟨zero, one, picture⟩ := withoutWindow_of_ended means ran fun e => Session.fault_of_rounds_error
  obtain ⟨k, greatest, same⟩ := Session.exists_greatest_done { machine := m } (ticksMade due) n
  have stopped : refused ↔ (after n).2 ≠ none := Session.rounds_refused_iff
  have shown : p.Saved around.images (after k).1.machine.state.display r.screenshot? := by
    rw [← same]
    exact picture
  rw [stopped, not_not, ← and_assoc]
  refine ⟨?_, k, greatest, shown⟩
  by_cases done : (after n).2 = none
  · have status : r.status = .ok 0 := zero done
    simp [status, done]
  · have status : r.status = .ok 1 := one done
    simp [status, done]

theorem run_of_means (means : s.Means around p) :
    run s around =
      (start s around { level := p.level }).after
        (log { level := p.level } .debug ("Configuration:\n" ++ s.listing)) := by
  rw [run, means.level]
  rfl

theorem start_of_read (means : s.Means around p) {program : List UInt8}
    (read : around.files.read p.rom = .ok program) :
    start s around { level := p.level } = startWith s around { level := p.level } p.rom program := by
  rw [start, means.rom]
  simp only [RunResult.given, read]

/-- What is no error of files is not reported. -/
theorem start_of_other_error (means : s.Means around p) {e : Error}
    (other : ∀ cause path?, e ≠ .file cause path?) (unread : around.files.read p.rom = .error e) :
    start s around { level := p.level } = { status := .error e } := by
  rw [start, means.rom]
  simp only [RunResult.given, unread]

/-- A program that fits is executed. -/
theorem startWith_of_fits (means : s.Means around p) {program : List UInt8}
    (fits : program.length ≤ maxProgramSize) :
    startWith s around { level := p.level } p.rom program =
      (withoutWindow s around (p.machine.load program).machine).after
        ((p.machine.load program).events.map .machine) := by
  have loaded : (p.machine.load program).error? = none := by
    rw [Machine.load_of_fits fits]
    rfl
  rw [startWith, machine_of_means means]
  simp only [RunResult.given, loaded, execute, means.headless, if_true]

theorem startWith_of_tooLong (means : s.Means around p) {program : List UInt8}
    (long : maxProgramSize < program.length) :
    startWith s around { level := p.level } p.rom program =
      { rest := log { level := p.level } .error
          (Fault.text ⟨.programTooLong program.length, { address := some programStart }⟩),
        status := .ok 1 } := by
  rw [startWith, machine_of_means means]
  simp only [RunResult.given, Machine.load_of_tooLong long]
  rfl

end Run
end Chip8
