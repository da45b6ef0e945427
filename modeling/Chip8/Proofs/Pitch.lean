import Chip8.Proofs.Outcome
import Chip8.Proofs.WholeNumbers
import Chip8.Sound.SquareWave
import Chip8.Standard
import Mathlib.Data.Nat.Count

/-! The pitch of a square wave. The half waves that are over by a sample are counted by a quotient that is
rounded down, so no error adds up: a second ends with just the half waves that belong in it, and a buffer of
one second can be played round and round. -/
namespace Chip8

namespace SquareWave

section Making
variable {τ : Type} [Quantity τ] {room : Room} {frequency sampleRate length amplitude : Int}
  {volume seconds : τ}

/-- A length that can be counted is refused if its samples have no addresses or no memory. -/
theorem checkLength_natCast (room : Room) {n : Nat} (countable : n ≤ 2 ^ 62) :
    checkLength room n =
      if 2 ^ 60 ≤ n then .error .waveNotAddressable
      else if room.wave n then .ok () else .error .outOfMemory := by
  have word : fitsWord64 n = true := by
    simp only [fitsWord64, Bool.and_eq_true, decide_eq_true_eq]
    omega
  have limit : addressLimit ≤ n ↔ 2 ^ 60 ≤ n := by
    unfold addressLimit
    omega
  simp only [checkLength, word, limit, Int.toNat_natCast, Bool.not_true, Bool.false_eq_true, if_false,
    Bool.not_eq_true']
  by_cases long : 2 ^ 60 ≤ n
  · simp only [if_pos long]
    rfl
  · by_cases memory : room.wave n = true
    · simp only [if_neg long, memory, Bool.true_eq_false, if_false, if_true]
      rfl
    · simp only [if_neg long, Bool.eq_false_iff.2 memory, Bool.false_eq_true, if_false, if_true]
      rfl

theorem ofVolume_of_checked
    (measured : Quantity.truncate (Quantity.mul (Quantity.ofInt sampleRate) seconds) = .ok length)
    (amplified : Quantity.truncate (Quantity.mul (Quantity.ofInt 32767) volume) = .ok amplitude)
    (inner : length ≠ wordLimit) (fits : fitsWord64 frequency = true ∧ fitsWord64 sampleRate = true)
    (fits' : fitsWord64 amplitude = true ∧ fitsWord64 (-amplitude) = true) :
    ofVolume room frequency sampleRate volume seconds =
      (checkLength room length).map fun _ => ⟨frequency, sampleRate, amplitude, length.toNat⟩ := by
  simp only [ofVolume, measured, amplified, bind, Except.bind, if_pos inner, fits, fits', if_neg inner]
  cases checkLength room length <;> rfl

/-- A wave that is returned has what was asked for: its length and volume are cut from products, and the
first length that cannot be counted is none. -/
theorem eq_of_ofVolume {w : SquareWave}
    (made : ofVolume room frequency sampleRate volume seconds = .ok w) :
    ∃ length amplitude,
      Quantity.truncate (Quantity.mul (Quantity.ofInt sampleRate) seconds) = .ok length ∧
        Quantity.truncate (Quantity.mul (Quantity.ofInt 32767) volume) = .ok amplitude ∧
        w = ⟨frequency, sampleRate, amplitude, if length = wordLimit then 0 else length.toNat⟩ := by
  have ends : Ends (fun w => ∃ length amplitude,
      Quantity.truncate (Quantity.mul (Quantity.ofInt sampleRate) seconds) = .ok length ∧
        Quantity.truncate (Quantity.mul (Quantity.ofInt 32767) volume) = .ok amplitude ∧
        w = ⟨frequency, sampleRate, amplitude, if length = wordLimit then 0 else length.toNat⟩)
      (fun _ => True) (ofVolume room frequency sampleRate volume seconds) := by
    unfold ofVolume
    refine (Ends.value _).bind fun length measured => .ite ?_ ?_
    · refine (Ends.value _).bind fun _ _ => .ite trivial ?_
      exact (Ends.value _).bind fun amplitude amplified =>
        .ite trivial ⟨length, amplitude, measured, amplified, rfl⟩
    · exact (Ends.value _).bind fun amplitude amplified =>
        .ite trivial ⟨length, amplitude, measured, amplified, rfl⟩
  rw [made] at ends
  exact ends

end Making

/-- Half waves that are over by a sample, at a frequency and a sample rate. -/
def halfWavesBy (frequency rate i : Nat) : Nat := i * (2 * frequency) / rate

section Counting
variable {f r i k : Nat}

theorem halfWavesBy_zero : halfWavesBy f r 0 = 0 := by
  rw [halfWavesBy, Nat.zero_mul, Nat.zero_div]

theorem le_halfWavesBy_iff (positive : 0 < r) : k ≤ halfWavesBy f r i ↔ k * r ≤ i * (2 * f) :=
  Nat.le_div_iff_mul_le positive

theorem halfWavesBy_lt_iff (positive : 0 < r) : halfWavesBy f r i < k ↔ i * (2 * f) < k * r :=
  Nat.div_lt_iff_lt_mul positive

theorem halfWavesBy_rate (positive : 0 < r) : halfWavesBy f r r = 2 * f :=
  Nat.mul_div_cancel_left _ positive

/-- Every second brings the same number of half waves. -/
theorem halfWavesBy_add_seconds (positive : 0 < r) (seconds : Nat) :
    halfWavesBy f r (i + r * seconds) = halfWavesBy f r i + 2 * f * seconds := by
  rw [halfWavesBy, Nat.add_mul, Nat.mul_assoc, Nat.add_mul_div_left _ _ positive, halfWavesBy,
    Nat.mul_comm seconds]

variable (positive : 0 < r) (slow : 2 * f ≤ r)
include positive slow

/-- No half wave is shorter than a sample. -/
theorem halfWavesBy_succ : halfWavesBy f r (i + 1) = halfWavesBy f r i ∨
    halfWavesBy f r (i + 1) = halfWavesBy f r i + 1 := by
  have least : halfWavesBy f r i ≤ halfWavesBy f r (i + 1) :=
    Nat.div_le_div_right (Nat.mul_le_mul_right _ i.le_succ)
  have most : halfWavesBy f r (i + 1) ≤ halfWavesBy f r i + 1 := by
    calc (i + 1) * (2 * f) / r ≤ (i * (2 * f) + r) / r := by
          refine Nat.div_le_div_right ?_
          rw [Nat.succ_mul]
          omega
      _ = i * (2 * f) / r + 1 := Nat.add_div_right _ positive
  omega

/-- Of the edges so far every other one falls, the first one among them. -/
theorem count_falling (n : Nat) :
    Nat.count (fun i => halfWavesBy f r i % 2 = 0 ∧ halfWavesBy f r (i + 1) % 2 = 1) n =
      (halfWavesBy f r n + 1) / 2 := by
  induction n with
  | zero => rw [Nat.count_zero, halfWavesBy_zero]
  | succ n ih =>
    have next := halfWavesBy_succ (i := n) positive slow
    rw [Nat.count_succ, ih]
    split_ifs <;> omega

theorem count_rising (n : Nat) :
    Nat.count (fun i => halfWavesBy f r i % 2 = 1 ∧ halfWavesBy f r (i + 1) % 2 = 0) n =
      halfWavesBy f r n / 2 := by
  induction n with
  | zero => rw [Nat.count_zero, halfWavesBy_zero]
  | succ n ih =>
    have next := halfWavesBy_succ (i := n) positive slow
    rw [Nat.count_succ, ih]
    split_ifs <;> omega

/-- While the wave stays high or stays low, no half wave ends. -/
theorem halfWavesBy_of_level {length : Nat}
    (level : ∀ j < length, halfWavesBy f r (i + j) % 2 = halfWavesBy f r i % 2) :
    ∀ j < length, halfWavesBy f r (i + j) = halfWavesBy f r i := by
  intro j within
  induction j with
  | zero => rfl
  | succ j ih =>
    have before := ih (Nat.lt_of_succ_lt within)
    have same := level (j + 1) within
    have next := halfWavesBy_succ (i := i + j) positive slow
    rw [← Nat.add_assoc] at same ⊢
    omega

/-- A half wave from one edge to the next. Its length in samples is that in time, rounded one way or the
other. -/
theorem length_of_halfWave {length : Nat} (starts : halfWavesBy f r i % 2 ≠ halfWavesBy f r (i + 1) % 2)
    (level : ∀ j < length, halfWavesBy f r (i + 1 + j) % 2 = halfWavesBy f r (i + 1) % 2)
    (ends : halfWavesBy f r (i + 1 + length) % 2 ≠ halfWavesBy f r (i + 1) % 2) :
    r < (length + 1) * (2 * f) ∧ length * (2 * f) < r + 2 * f := by
  have first : halfWavesBy f r (i + 1) = halfWavesBy f r i + 1 := by
    have next := halfWavesBy_succ (i := i) positive slow
    omega
  obtain ⟨last, rfl⟩ : ∃ last, length = last + 1 := by
    cases length with
    | zero => exact absurd rfl ends
    | succ last => exact ⟨last, rfl⟩
  have inside := halfWavesBy_of_level positive slow level last last.lt_succ_self
  have after : halfWavesBy f r (i + 1 + (last + 1)) = halfWavesBy f r (i + 1) + 1 := by
    have next := halfWavesBy_succ (i := i + 1 + last) positive slow
    rw [← Nat.add_assoc] at ends ⊢
    omega
  have before : i * (2 * f) < (halfWavesBy f r i + 1) * r :=
    (halfWavesBy_lt_iff positive).1 (Nat.lt_succ_self _)
  have first : (halfWavesBy f r i + 1) * r ≤ (i + 1) * (2 * f) := (le_halfWavesBy_iff positive).1 first.ge
  have inside : (i + 1 + last) * (2 * f) < (halfWavesBy f r i + 2) * r :=
    (halfWavesBy_lt_iff positive).1 (by omega)
  have after : (halfWavesBy f r i + 2) * r ≤ (i + 1 + (last + 1)) * (2 * f) :=
    (le_halfWavesBy_iff positive).1 (by omega)
  constructor <;> linarith

end Counting

/-- The sample at a place where a number of half waves are over. -/
def level (amplitude : Int) (halfWaves : Nat) : Int16 :=
  Int16.ofInt (if halfWaves % 2 = 0 then amplitude else -amplitude)

section Levels
variable {amplitude : Int} {m n : Nat} (audible : 1 ≤ amplitude ∧ amplitude ≤ 32767)
include audible

theorem toInt_level : (level amplitude n).toInt = if n % 2 = 0 then amplitude else -amplitude := by
  refine Int16.toInt_ofInt_of_le ?_ ?_ <;> split <;> omega

theorem level_lt_iff : level amplitude m < level amplitude n ↔ m % 2 = 1 ∧ n % 2 = 0 := by
  rw [Int16.lt_iff_toInt_lt, toInt_level audible, toInt_level audible]
  split <;> split <;> omega

theorem level_eq_iff : level amplitude m = level amplitude n ↔ m % 2 = n % 2 := by
  rw [← Int16.toInt_inj, toInt_level audible, toInt_level audible]
  split <;> split <;> omega

end Levels

section Samples
variable {w : SquareWave} {f r i : Nat} (frequency : w.frequency = f) (rate : w.sampleRate = r)
include frequency rate

theorem halfWaves_eq (word : i * (2 * f) < 2 ^ 63) : w.halfWaves i = halfWavesBy f r i := by
  have product : (i * 2 * w.frequency : Int) = (i * (2 * f) : Nat) := by
    rw [frequency]
    push_cast
    ring
  have inner : (i * 2 * w.frequency : Int).bmod 0x10000000000000000 = i * 2 * w.frequency := by
    rw [product]
    exact Int.bmod_eq_of_le (by omega) (by omega)
  rw [halfWaves, inner, product, rate, Int.fdiv_eq_ediv_of_nonneg _ (Int.natCast_nonneg r), halfWavesBy,
    Int.natCast_div]

theorem sample_eq (word : i * (2 * f) < 2 ^ 63) :
    w.sample i = level w.amplitude (halfWavesBy f r i) := by
  have high : w.isHigh i = decide (halfWavesBy f r i % 2 = 0) := by
    rw [isHigh, halfWaves_eq frequency rate word]
    exact decide_eq_decide.2 (by omega)
  simp only [sample, level, high, decide_eq_true_eq]

theorem getElem?_samples (within : i < w.length) (word : i * (2 * f) < 2 ^ 63) :
    w.samples[i]? = some (level w.amplitude (halfWavesBy f r i)) := by
  rw [samples, Array.getElem?_ofFn, dif_pos within, sample_eq frequency rate word]

end Samples

/-- The sample at a place of a buffer that is read round and round. -/
def looped (samples : Array Int16) (i : Nat) : Int16 := samples[i % samples.size]?.getD 0

/-- Steps up between neighbouring samples, that from the last one to the first among them. -/
def risingEdges (samples : Array Int16) : Nat :=
  Nat.count (fun i => looped samples i < looped samples (i + 1)) samples.size

def fallingEdges (samples : Array Int16) : Nat :=
  Nat.count (fun i => looped samples (i + 1) < looped samples i) samples.size

/-- Equal samples from one edge to the next, after the sample before them. -/
structure HalfWave (samples : Array Int16) (before length : Nat) : Prop where
  starts : looped samples before ≠ looped samples (before + 1)
  level : ∀ j < length, looped samples (before + 1 + j) = looped samples (before + 1)
  ends : looped samples (before + 1 + length) ≠ looped samples (before + 1)

@[simp] theorem size_samples (w : SquareWave) : w.samples.size = w.length := Array.size_ofFn

/-- The last samples of a buffer whose length is not below the rate repeat those a second before. -/
theorem getElem?_samples_add_rate {w : SquareWave} {f r i : Nat} (frequency : w.frequency = f)
    (rate : w.sampleRate = r) (positive : 0 < r) (word : (i + r) * (2 * f) < 2 ^ 63)
    (within : i + r < w.samples.size) : w.samples[i + r]? = w.samples[i]? := by
  rw [size_samples] at within
  have earlier : i * (2 * f) < 2 ^ 63 := (Nat.mul_le_mul_right _ (Nat.le_add_right i r)).trans_lt word
  have parity : halfWavesBy f r (i + r) % 2 = halfWavesBy f r i % 2 := by
    have second := halfWavesBy_add_seconds (f := f) (i := i) positive 1
    rw [Nat.mul_one, Nat.mul_one] at second
    omega
  rw [getElem?_samples frequency rate within word,
    getElem?_samples frequency rate (by omega) earlier, level, level, parity]

section Values
variable {w : SquareWave} (audible : 1 ≤ w.amplitude ∧ w.amplitude ≤ 32767)
include audible

theorem mem_samples {s : Int16} (among : s ∈ w.samples) :
    s.toInt = w.amplitude ∨ s.toInt = -w.amplitude := by
  obtain ⟨i, rfl⟩ := Array.mem_ofFn.1 among
  have peak : (Int16.ofInt w.amplitude).toInt = w.amplitude := Int16.toInt_ofInt_of_le (by omega) (by omega)
  have trough : (Int16.ofInt (-w.amplitude)).toInt = -w.amplitude :=
    Int16.toInt_ofInt_of_le (by omega) (by omega)
  rw [sample]
  split
  · exact .inl peak
  · exact .inr trough

theorem first_sample {f r : Nat} (frequency : w.frequency = f) (rate : w.sampleRate = r)
    (sounds : 0 < w.samples.size) : w.samples[0]?.map Int16.toInt = some w.amplitude := by
  rw [size_samples] at sounds
  rw [getElem?_samples frequency rate sounds (by simp), Option.map_some, toInt_level audible,
    halfWavesBy_zero]
  rfl

end Values

section Second
variable {f r : Nat} {amplitude : Int} (positive : 0 < r) (products : (r - 1) * (2 * f) < 2 ^ 63)
include positive products

/-- Read round and round, the samples of a second go on as if there were no end. -/
theorem looped_second (i : Nat) :
    looped (samples ⟨f, r, amplitude, r⟩) i = level amplitude (halfWavesBy f r i) := by
  have within : i % r < r := Nat.mod_lt i positive
  have word : i % r * (2 * f) < 2 ^ 63 :=
    (Nat.mul_le_mul_right _ (Nat.le_sub_one_of_lt within)).trans_lt products
  have parity : halfWavesBy f r i % 2 = halfWavesBy f r (i % r) % 2 := by
    have whole := halfWavesBy_add_seconds (f := f) (i := i % r) positive (i / r)
    rw [Nat.mod_add_div, Nat.mul_assoc] at whole
    omega
  rw [looped, size_samples, getElem?_samples rfl rfl within word, Option.getD_some, level, level, parity]

variable (audible : 1 ≤ amplitude ∧ amplitude ≤ 32767)
include audible

variable (slow : 2 * f ≤ r)
include slow

theorem risingEdges_second : risingEdges (samples ⟨f, r, amplitude, r⟩) = f := by
  rw [risingEdges, size_samples]
  simp only [looped_second positive products, level_lt_iff audible, count_rising positive slow,
    halfWavesBy_rate positive]
  omega

theorem fallingEdges_second : fallingEdges (samples ⟨f, r, amplitude, r⟩) = f := by
  rw [fallingEdges, size_samples]
  simp only [looped_second positive products, level_lt_iff audible, And.comm (b := _ % 2 = 0),
    count_falling positive slow, halfWavesBy_rate positive]
  omega

theorem length_halfWave_second {before length : Nat} (sounds : 0 < f)
    (halfWave : HalfWave (samples ⟨f, r, amplitude, r⟩) before length) :
    (length : Int) = ⌊(r / (2 * f) : Rat)⌋ ∨ (length : Int) = ⌈(r / (2 * f) : Rat)⌉ := by
  obtain ⟨starts, flat, ends⟩ := halfWave
  simp only [looped_second positive products, level_eq_iff audible, ne_eq] at starts flat ends
  obtain ⟨short, long⟩ := length_of_halfWave positive slow starts flat ends
  have cycle : (0 : Rat) < 2 * f := by positivity
  have least : ⌊(r / (2 * f) : Rat)⌋ < length + 1 := by
    rw [Int.floor_lt, div_lt_iff₀ cycle]
    exact_mod_cast short
  have most : (length : Int) - 1 < ⌈(r / (2 * f) : Rat)⌉ := by
    have long : (length * (2 * f) : Rat) < r + 2 * f := by exact_mod_cast long
    rw [Int.lt_ceil, lt_div_iff₀ cycle]
    push_cast
    linarith
  have near := Int.ceil_le_floor_add_one (r / (2 * f) : Rat)
  omega

end Second

section Volume
variable {f r : Nat} {volume : Binary64} {amplitude : Int}

/-- A second has as many samples as its rate is held to be. -/
theorem truncate_second (countable : r ≤ 2 ^ 62) :
    ∃ n : Nat,
      Quantity.truncate (Quantity.mul (Quantity.ofInt r) (Quantity.ofInt 1) : Binary64) = .ok (n : Int) ∧
      n ≤ 2 ^ 62 ∧ ∀ m e : Nat, m < 2 ^ 53 → r = m * 2 ^ e → n = r := by
  have held {m e : Nat} (digits : m < 2 ^ 53) (moved : r = m * 2 ^ e) :
      Quantity.truncate (Quantity.mul (Quantity.ofInt r) (Quantity.ofInt 1) : Binary64) = .ok (r : Int) :=
    Binary64.truncate_second_of_digits digits moved (by
      exact_mod_cast countable.trans_lt (Nat.pow_lt_pow_right (by decide) (by decide)))
  rcases Nat.lt_or_ge r (2 ^ 53) with small | large
  · exact ⟨r, held (e := 0) small (Nat.mul_one r).symm, countable, fun _ _ _ _ => rfl⟩
  · obtain ⟨n, measured, _, below⟩ := Binary64.truncate_second_between le_rfl (by decide) large countable
    refine ⟨n, measured, below, fun m e digits moved => ?_⟩
    exact Int.ofNat_inj.1 (Except.ok.inj (measured.symm.trans (held digits moved)))

theorem ofVolume_second (room : Room) (slow : 2 * f ≤ r) (countable : r ≤ 2 ^ 62)
    (amplified : Quantity.truncate (Quantity.mul (Quantity.ofInt 32767) volume) = .ok amplitude)
    (audible : 1 ≤ amplitude ∧ amplitude ≤ 32767) {n : Nat} (few : n ≤ 2 ^ 62)
    (measured :
      Quantity.truncate (Quantity.mul (Quantity.ofInt r) (Quantity.ofInt 1) : Binary64) = .ok (n : Int)) :
    ofVolume room f r volume (Quantity.ofInt 1) =
      if 2 ^ 60 ≤ n then .error .waveNotAddressable
      else if room.wave n then .ok ⟨f, r, amplitude, n⟩ else .error .outOfMemory := by
  have word {v : Int} (low : -0x8000000000000000 ≤ v) (high : v < 0x8000000000000000) :
      fitsWord64 v = true := by
    simp only [fitsWord64, low, high, decide_true, Bool.and_self]
  have inner : (n : Int) ≠ wordLimit := by
    unfold wordLimit
    omega
  rw [ofVolume_of_checked measured amplified inner
    ⟨word (by omega) (by omega), word (by omega) (by omega)⟩
    ⟨word (by omega) (by omega), word (by omega) (by omega)⟩, checkLength_natCast room few]
  split_ifs <;> rfl

/-- A second of a wave of no more than half as many cycles as samples is returned if its samples have
addresses and memory. It has as many of them as the rate is held to be, which is the rate itself unless that
has too many digits. With as many samples as the rate it has as many edges of each kind as cycles, where the
way from its end to its start counts, and each half wave takes its time, rounded to one of the samples next
to it. Waves of any length start high and repeat themselves every second. -/
theorem pitch_is_exact (room : Room) (positive : 0 < f) (slow : 2 * f ≤ r)
    (products : (r - 1) * (2 * f) < 2 ^ 63)
    (amplified : Quantity.truncate (Quantity.mul (Quantity.ofInt 32767) volume) = .ok amplitude)
    (audible : 1 ≤ amplitude ∧ amplitude ≤ 32767) :
    let second : Binary64 := Quantity.ofInt 1
    let w : SquareWave := ⟨f, r, amplitude, r⟩
    (∃ n : Nat, Quantity.truncate (Quantity.mul (Quantity.ofInt r) second) = .ok (n : Int) ∧
        (∀ m e : Nat, m < 2 ^ 53 → r = m * 2 ^ e → n = r) ∧
        ofVolume room f r volume second =
          if 2 ^ 60 ≤ n then .error .waveNotAddressable
          else if room.wave n then .ok { w with length := n } else .error .outOfMemory) ∧
      w.samples.size = r ∧
      risingEdges w.samples = f ∧ fallingEdges w.samples = f ∧
      (∀ before length, HalfWave w.samples before length →
        (length : Int) = ⌊(r / (2 * f) : Rat)⌋ ∨ (length : Int) = ⌈(r / (2 * f) : Rat)⌉) ∧
      ∀ seconds v, ofVolume room f r volume seconds = .ok v →
        (∀ s ∈ v.samples, s.toInt = amplitude ∨ s.toInt = -amplitude) ∧
        (0 < v.samples.size → v.samples[0]?.map Int16.toInt = some amplitude) ∧
        ∀ i, (i + r) * (2 * f) < 2 ^ 63 → i + r < v.samples.size →
          v.samples[i + r]? = v.samples[i]? := by
  intro second w
  have rate : 0 < r := by omega
  have countable : r ≤ 2 ^ 62 := by
    have least : (r - 1) * 2 ≤ (r - 1) * (2 * f) := Nat.mul_le_mul_left _ (by omega)
    omega
  obtain ⟨n, measured, few, held⟩ := truncate_second countable
  refine ⟨⟨n, measured, held, ofVolume_second room slow countable amplified audible few measured⟩,
    size_samples w, risingEdges_second rate products audible slow,
    fallingEdges_second rate products audible slow,
    fun before length => length_halfWave_second rate products audible slow positive, ?_⟩
  intro seconds v made
  obtain ⟨length, loudness, _, loud, rfl⟩ := eq_of_ofVolume made
  obtain rfl : loudness = amplitude := Except.ok.inj (loud.symm.trans amplified)
  exact ⟨fun s => mem_samples audible, first_sample audible rfl rfl,
    fun i word within => getElem?_samples_add_rate rfl rfl rate word within⟩

/-- Three cycles in ten samples: half waves of one and of two samples, repeated in the next second. -/
theorem pitch_is_exact_uneven :
    let w : SquareWave := ⟨3, 10, 6553, 10⟩
    let v : SquareWave := ⟨3, 10, 6553, 20⟩
    0 < 3 ∧ 2 * 3 ≤ 10 ∧ (10 - 1) * (2 * 3) < 2 ^ 63 ∧
      Quantity.truncate (Quantity.mul (Quantity.ofInt 32767) (Standard.volume : Binary64)) = .ok 6553 ∧
      ofVolume .unlimited 3 10 (Standard.volume : Binary64) (Quantity.ofInt 1) = .ok w ∧
      risingEdges w.samples = 3 ∧ fallingEdges w.samples = 3 ∧
      HalfWave w.samples 3 1 ∧ HalfWave w.samples 4 2 ∧
      ofVolume .unlimited 3 10 (Standard.volume : Binary64) (Quantity.ofInt 2) = .ok v ∧
      v.samples[17]? = v.samples[7]? := by
  intro w v
  have amplified : Quantity.truncate (Quantity.mul (Quantity.ofInt 32767) (Standard.volume : Binary64)) =
      .ok 6553 := by decide +kernel
  have longer : ofVolume .unlimited 3 10 (Standard.volume : Binary64) (Quantity.ofInt 2) = .ok v := by
    decide +kernel
  obtain ⟨⟨n, _, held, made⟩, _, rising, falling, _, returned⟩ :=
    pitch_is_exact .unlimited (f := 3) (r := 10) (by decide) (by decide) (by decide) amplified (by decide)
  obtain rfl : n = 10 := held 10 0 (by decide) (by decide)
  have short : HalfWave w.samples 3 1 := ⟨by decide +kernel, by decide +kernel, by decide +kernel⟩
  have long : HalfWave w.samples 4 2 := ⟨by decide +kernel, by decide +kernel, by decide +kernel⟩
  have repeats := (returned _ v longer).2.2 7 (by decide) (by decide)
  exact ⟨by decide, by decide, by decide, amplified, made, rising, falling, short, long, longer,
    repeats⟩

/-- At the first of these rates a second has too many samples to be addressed, and at the second one the
rate has a digit more than is held, so that the second is a sample short. -/
theorem second_without_room :
    let volume : Binary64 := Standard.volume
    let r := 2 ^ 60
    let q := 2 ^ 53 + 1
    0 < 1 ∧ 2 * 1 ≤ r ∧ (r - 1) * (2 * 1) < 2 ^ 63 ∧ 2 * 1 ≤ q ∧ (q - 1) * (2 * 1) < 2 ^ 63 ∧
      Quantity.truncate (Quantity.mul (Quantity.ofInt 32767) volume) = .ok 6553 ∧
      ofVolume .unlimited 1 r volume (Quantity.ofInt 1) = .error .waveNotAddressable ∧
      ofVolume .unlimited 1 q volume (Quantity.ofInt 1) = .ok ⟨1, q, 6553, 2 ^ 53⟩ := by
  decide +kernel

end Volume
end SquareWave
end Chip8
