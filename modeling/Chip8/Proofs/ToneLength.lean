import Chip8.Proofs.Pitch
import Chip8.Proofs.Signals
import Chip8.Proofs.Turns

/-! How much of a tone is heard. An instruction can ask for tones of up to four seconds and a quarter, and
the host passes their lengths on as they are. But the sound that it plays lasts for one second, whatever the
mixer, and it is played once. -/
namespace Chip8

/-- The format in which a mixer plays, if it is available. -/
def Mixer.format? (m : Mixer) : Option MixerFormat :=
  m.running?.or (if m.failure? = none then some m.afterStart else none)

/-- How many milliseconds a sound lasts. -/
def Sound.duration (s : Sound) : Rat := 1000 * s.wave.length / s.wave.sampleRate

/-- Milliseconds that are heard of a sound when it is played once, and no longer than it is asked for. -/
def PlaysOnce (play : Sound → Int → Rat) : Prop :=
  ∀ s asked, 0 < asked → play s asked = min (asked : Rat) s.duration

def HostEvent.play? : HostEvent → Option Int
  | .play milliseconds => some milliseconds
  | _ => none

namespace Beeper

theorem filterMap_duration? (s : Sound) (milliseconds : Int) :
    [milliseconds].filterMap (duration? ⟨some s⟩) = if 0 < milliseconds then [milliseconds] else [] := by
  by_cases positive : 0 < milliseconds <;> simp [duration?, positive]

theorem setUp_of_format {τ : Type} [Quantity τ] {room : Room} {frequency : Int} {volume : τ}
    {mixer : Mixer} {f : MixerFormat} (available : mixer.format? = some f) :
    (setUp room frequency volume mixer).2 = (sound room frequency volume f).map fun s => ⟨some s⟩ := by
  simp only [Mixer.format?] at available
  cases running : mixer.running? with
  | some g =>
    rw [running, Option.some_or, Option.some.injEq] at available
    subst available
    simp only [setUp, running]
    cases sound room frequency volume g <;> rfl
  | none =>
    cases failure : mixer.failure? with
    | some text => simp [running, failure] at available
    | none =>
      obtain rfl : mixer.afterStart = f := by simpa [running, failure] using available
      simp only [setUp, running, Mixer.start, failure]
      cases sound room frequency volume mixer.afterStart <;> rfl

theorem sound_of_setUp {τ : Type} [Quantity τ] {room : Room} {frequency : Int} {volume : τ}
    {mixer : Mixer} {f : MixerFormat} {s : Sound} (available : mixer.format? = some f)
    (made : (setUp room frequency volume mixer).2 = .ok ⟨some s⟩) :
    sound room frequency volume f = .ok s := by
  rw [setUp_of_format available] at made
  cases sounds : sound room frequency volume f with
  | error e =>
    rw [sounds] at made
    contradiction
  | ok t =>
    rw [sounds] at made
    cases made
    rfl

/-- The sound for tones lasts a second at every rate that is held exactly. -/
theorem duration_of_sound {room : Room} {frequency : Int} {volume : Binary64} {f : MixerFormat}
    {s : Sound} (positive : 0 < f.rate) (held : f.rate < 2 ^ 53)
    (made : sound room frequency volume f = .ok s) : s.duration = 1000 := by
  obtain ⟨wave, sampled, rfl⟩ : ∃ wave,
      SquareWave.ofVolume room frequency f.rate volume Standard.soundLength = .ok wave ∧
        s = ⟨wave, f.channels⟩ := by
    cases sampled : SquareWave.ofVolume room frequency f.rate volume Standard.soundLength with
    | error e =>
      rw [sound, sampled] at made
      contradiction
    | ok wave =>
      rw [sound, sampled] at made
      exact ⟨wave, rfl, (Except.ok.inj made).symm⟩
  obtain ⟨length, amplitude, measured, _, rfl⟩ := SquareWave.eq_of_ofVolume sampled
  obtain ⟨r, rate⟩ := Int.eq_ofNat_of_zero_le positive.le
  obtain rfl : length = r := by
    rw [rate] at measured
    exact Except.ok.inj (measured.symm.trans (Binary64.truncate_second_of_lt (by omega)))
  have inner : (r : Int) ≠ SquareWave.wordLimit := by
    unfold SquareWave.wordLimit
    omega
  have positive : (r : Rat) ≠ 0 := by
    rw [Nat.cast_ne_zero]
    omega
  simp only [Sound.duration, if_neg inner, rate, Int.toNat_natCast, Int.cast_natCast]
  exact mul_div_cancel_right₀ 1000 positive

end Beeper

namespace Machine
variable {m : Machine}

/-- The tone that an accepted instruction asks for is handed out as long as it was asked for. -/
theorem tones_step_of_request (listens : m.observer.tones = true) (accepted : m.step.error? = none)
    (asks : m.state.word.toNat / 0x1000 = 0xF ∧ m.state.word.toNat % 0x100 = 0x18) :
    m.step.events.filterMap Event.tone? =
      [((m.state.registers.get (.ofNat (m.state.word.toNat / 0x100))).toNat * 1000 / 60 : Nat)] := by
  obtain ⟨word, accepted⟩ := accepted_iff.1 accepted
  have decoded : m.state.instruction = .misc .requestTone (.ofNat (m.state.word.toNat / 0x100)) :=
    (Instruction.ofInt_eq_misc_iff m.state.word.toNat_lt).2 ⟨asks, rfl⟩
  have heard (event : Event) (length : Int) (tone : event.tone? = some length) :
      m.executed.observer.sees event = true := by
    cases event <;> first | exact listens | contradiction
  rw [step_of_accepted accepted, filterMap_respond heard, List.filterMap_append, tones_wordReport,
    State.cycle_eq, decoded]
  rfl

end Machine

namespace Window
variable {τ : Type} {w : Window τ}

/-- The lengths of the tones that were played, the first one first. -/
def plays (w : Window τ) : List Int := w.seen.toList.filterMap HostEvent.play?

/-- Of what is not a frame, tones are passed on to the beeper and nothing else is played. -/
theorem plays_present {events : List Event} (quiet : ∀ event ∈ events, event.frame? = none) :
    ∃ shown, events.mapM w.present = .ok shown ∧
      shown.flatten.filterMap HostEvent.play? =
        (events.filterMap Event.tone?).filterMap w.beeper.duration? := by
  induction events with
  | nil => exact ⟨[], rfl, rfl⟩
  | cons event rest ih =>
    obtain ⟨later, presented, played⟩ := ih fun event among => quiet event (List.mem_cons_of_mem _ among)
    obtain ⟨first, shown⟩ := present_of_no_frame (w := w) (quiet event List.mem_cons_self)
    refine ⟨first :: later, by rw [List.mapM_cons, shown, presented]; rfl, ?_⟩
    rw [List.flatten_cons, List.filterMap_append, played]
    cases event with
    | frame => exact absurd (quiet _ List.mem_cons_self) nofun
    | tone length =>
      cases shown
      cases heard : w.beeper.duration? length <;>
        simp [Beeper.respond, heard, Event.tone?, HostEvent.play?]
    | log | unknown =>
      cases shown
      rfl

theorem plays_perform_step : (w.perform .step).1.plays =
    w.plays ++ (w.machine.step.events.filterMap Event.tone?).filterMap w.beeper.duration? := by
  have quiet : ∀ event ∈ (w.machine.apply .step).events, event.frame? = none :=
    fun _ reported => Machine.frame?_of_mem_apply (by decide) reported
  obtain ⟨shown, presented, played⟩ := plays_present (w := w) quiet
  have seen : (w.perform .step).1.seen = w.seen ++ shown.flatten := by
    rw [perform, presented]
  rw [plays, seen, Array.toList_appendList, List.filterMap_append, played, plays,
    Machine.apply]

/-- An instruction that asks for a tone has it played from its start and for as long as it asks, or not at all
if that is no time. But no more than a second is heard of it, so that it is heard to its end only if it
lasts for at most sixty ticks. -/
theorem tone_is_cut_after_a_second {room : Room} {frequency : Int} {volume : Binary64} {mixer : Mixer}
    {f : MixerFormat} {s : Sound} {play : Sound → Int → Rat} (available : mixer.format? = some f)
    (positive : 0 < f.rate) (held : f.rate < 2 ^ 53)
    (made : (Beeper.setUp room frequency volume mixer).2 = .ok ⟨some s⟩) (once : PlaysOnce play)
    (beeps : w.beeper = ⟨some s⟩) (listens : w.machine.observer.tones = true)
    (accepted : w.machine.step.error? = none)
    (asks : w.machine.state.word.toNat / 0x1000 = 0xF ∧ w.machine.state.word.toNat % 0x100 = 0x18) :
    let ticks := (w.machine.state.registers.get (.ofNat (w.machine.state.word.toNat / 0x100))).toNat
    let asked : Nat := ticks * 1000 / 60
    (w.perform .step).1.plays = w.plays ++ (if ticks = 0 then [] else [(asked : Int)]) ∧
      (ticks ≠ 0 → play s asked = min (asked : Rat) 1000) ∧
      ((asked : Rat) ≤ s.duration ↔ ticks ≤ 60) := by
  intro ticks asked
  have lasts : s.duration = 1000 :=
    Beeper.duration_of_sound positive held (Beeper.sound_of_setUp available made)
  have sooner : asked ≤ 1000 ↔ ticks ≤ 60 := by omega
  refine ⟨?_, fun some => ?_, ?_⟩
  · have played : [(asked : Int)].filterMap (Beeper.duration? ⟨some s⟩) =
        if ticks = 0 then [] else [(asked : Int)] := by
      rw [Beeper.filterMap_duration?]
      by_cases none : ticks = 0
      · rw [if_pos none, if_neg (by omega)]
      · rw [if_neg none, if_pos (by omega)]
    rw [plays_perform_step, Machine.tones_step_of_request listens accepted asks, beeps]
    exact congrArg (w.plays ++ ·) played
  · rw [once s asked (by omega), lasts, Int.cast_natCast]
  · rw [lasts, ← sooner]
    norm_cast

/-- The sound of a beeper with the standard settings. -/
def hum : Sound := ⟨⟨500, 44100, 6553, 44100⟩, 1⟩

theorem setUp_hum :
    (Beeper.setUp .unlimited 500 (Standard.volume : Binary64) {}).2 = .ok ⟨some hum⟩ := by
  have sounds : Beeper.sound .unlimited 500 (Standard.volume : Binary64) .requested = .ok hum := by
    decide +kernel
  rw [Beeper.setUp_of_format (f := .requested) rfl, sounds]
  rfl

/-- A window in which the next instruction asks for a tone of the length in the last register but five. -/
def asking (ticks : UInt8) : Window Rat where
  machine := (Session.run (.start (.powerOn default true { level := default, tones := true }))
    [.load [0x6A, ticks, 0xFA, 0x18], .step]).machine
  scheduler := ⟨700, 60, 1 / 4, 0, 0, 0⟩
  palette := ⟨.black, .black⟩
  scale := 8
  room := .unlimited
  beeper := ⟨some hum⟩

/-- Sixty ticks are the longest tone that is heard to its end. -/
theorem tone_is_cut_after_a_second_sixty :
    let w := asking 60
    let play (s : Sound) (asked : Int) : Rat := min asked s.duration
    PlaysOnce play ∧ w.machine.step.error? = none ∧ w.machine.state.word = 0xFA18 ∧
      (w.perform .step).1.plays = [1000] ∧ play hum 1000 = 1000 ∧ 1000 ≤ hum.duration := by
  intro w play
  have once : PlaysOnce play := fun _ _ _ => rfl
  obtain ⟨listens, accepted, word, sixty⟩ : w.machine.observer.tones = true ∧
      w.machine.step.error? = none ∧ w.machine.state.word = 0xFA18 ∧
      (w.machine.state.registers.get (.ofNat (w.machine.state.word.toNat / 0x100))).toNat = 60 := by
    decide +kernel
  obtain ⟨played, heard, whole⟩ := tone_is_cut_after_a_second (f := .requested) rfl (by decide)
    (by decide) setUp_hum once (w := w) rfl listens accepted (by rw [word]; decide)
  rw [sixty] at played heard whole
  refine ⟨once, accepted, word, played, (heard (by decide)).trans (by norm_num), ?_⟩
  exact_mod_cast whole.2 le_rfl

/-- A tone of 255 ticks lasts four seconds and a quarter, and the sound for it a second. -/
theorem longest_tone_is_cut :
    let w := asking 255
    (Beeper.setUp .unlimited 500 (Standard.volume : Binary64) {}).2 = .ok w.beeper ∧
      w.machine.step.error? = none ∧ w.machine.state.word = 0xFA18 ∧
      (w.machine.state.registers.get 0xA).toNat = 255 ∧ (w.perform .step).1.plays = [255 * 1000 / 60] ∧
      ¬ ((255 * 1000 / 60 : Nat) : Rat) ≤ 1000 * hum.wave.length / hum.wave.sampleRate := by
  intro w
  refine ⟨setUp_hum, ?_⟩
  decide +kernel

end Window
end Chip8
