import Chip8.Host.Window
import Chip8.Proofs.Outcome
import Chip8.Proofs.Tally

/-! Setting up a window and asking its scheduler for work may fail, but never with a fault of an
instruction. -/
namespace Chip8

/-- An outcome that is no fault of an instruction. -/
def Faultless {α : Type} (outcome : Except Error α) : Prop :=
  Ends (fun _ => True) (fun e => ∀ f, e ≠ .fault f) outcome

namespace Faultless

theorem ne_fault {α : Type} {outcome : Except Error α} (faultless : Faultless outcome) (f : Fault) :
    outcome ≠ .error (.fault f) := by
  rintro rfl
  exact faultless f rfl

theorem ofName (name : String) : Faultless (Palette.ofName name) := by
  unfold Palette.ofName
  split
  · trivial
  · exact nofun

section Measured
variable {τ : Type} [Quantity τ]

theorem floor (t : τ) : Faultless (Quantity.floor t) := by
  unfold Quantity.floor
  split
  · trivial
  · exact nofun

theorem truncate (t : τ) : Faultless (Quantity.truncate t) := by
  unfold Quantity.truncate
  split
  · trivial
  · exact nofun

theorem ofRates (cpu timer lag start : τ) : Faultless (Scheduler.ofRates cpu timer lag start) :=
  Ends.ite trivial nofun

theorem advance (s : Scheduler τ) (now : τ) : Faultless (s.advance now) := by
  rw [Scheduler.advance_eq]
  exact (floor _).bind fun _ _ => (floor _).bind fun _ _ => Ends.ite trivial trivial

theorem checkLength (room : Room) (length : Int) : Faultless (SquareWave.checkLength room length) := by
  unfold SquareWave.checkLength
  exact Ends.ite nofun (Ends.ite nofun (Ends.ite nofun trivial))

theorem ofVolume (room : Room) (frequency sampleRate : Int) (volume seconds : τ) :
    Faultless (SquareWave.ofVolume room frequency sampleRate volume seconds) := by
  unfold SquareWave.ofVolume
  refine (truncate _).bind fun length _ => ?_
  have amplified {next : Int → Except Error SquareWave} (later : ∀ n, Faultless (next n)) :=
    (truncate (Quantity.mul (Quantity.ofInt 32767) volume)).bind fun n _ => later n
  exact Ends.ite
    ((checkLength _ _).bind fun _ _ =>
      Ends.ite nofun (amplified fun _ => Ends.ite nofun trivial))
    (amplified fun _ => Ends.ite nofun trivial)

theorem sound (room : Room) (frequency : Int) (volume : τ) (f : MixerFormat) :
    Faultless (Beeper.sound room frequency volume f) :=
  (ofVolume _ _ _ _ _).bind fun _ _ => trivial

theorem setUp (room : Room) (frequency : Int) (volume : τ) (m : Mixer) :
    Faultless (Beeper.setUp room frequency volume m).2 := by
  have silenced {f : MixerFormat} {e : Error}
      (failed : Beeper.sound room frequency volume f = .error e) :
      Faultless (.error e : Except Error Beeper) :=
    fun fault same => (sound room frequency volume f).ne_fault fault (same ▸ failed)
  simp only [Beeper.setUp]
  split
  · split
    · trivial
    · next failed => exact silenced failed
  · split
    · split
      · trivial
      · next failed => exact silenced failed
    · trivial

end Measured
end Faultless

namespace Window
variable {τ : Type} [Quantity τ]

/-- A window starts with a scheduler of its own rates, or it fails without a fault. -/
theorem setUp_outcome (settings : WindowSettings τ) (machine : Machine) (mixer : Mixer) (now : τ) :
    match setUp settings machine mixer now with
    | .ok w => w.paused = false ∧
        Scheduler.ofRates settings.cpuRate settings.timerRate settings.maxLag now = .ok w.scheduler
    | .error (_, e) => ∀ f, e ≠ .fault f := by
  unfold setUp
  by_cases negative : settings.scale < 0
  · rw [if_pos negative]
    nofun
  rw [if_neg negative]
  cases palette : Palette.ofName settings.scheme with
  | error e => exact fun f same => (Faultless.ofName _).ne_fault f (same ▸ palette)
  | ok colors =>
    have made := Faultless.setUp settings.room settings.beepFrequency settings.volume mixer
    cases beeper : Beeper.setUp settings.room settings.beepFrequency settings.volume mixer with
    | mk events result =>
      rw [beeper] at made
      cases result with
      | error e => exact made
      | ok b =>
        have opened := Faultless.ofRates settings.cpuRate settings.timerRate settings.maxLag now
        cases scheduler : Scheduler.ofRates settings.cpuRate settings.timerRate settings.maxLag now with
        | error e => exact fun f same => opened.ne_fault f (same ▸ scheduler)
        | ok s => exact ⟨rfl, rfl⟩

end Window
end Chip8
