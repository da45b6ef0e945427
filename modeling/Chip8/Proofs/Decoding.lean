import Chip8.Instruction.Basic

/-! Which words stand for arithmetic, and which for the instructions on timers, keys, tones and blocks. The
first are told apart by their last digit. The others are those whose first digit is the highest, and their
last byte tells them apart. A last byte that is none of the nine codes makes a word that is skipped. -/
namespace Chip8

namespace AluOp

/-- The last digit of the words for an operation. -/
def digit : AluOp → Nat
  | copy => 0x0
  | or => 0x1
  | and => 0x2
  | xor => 0x3
  | add => 0x4
  | subtract => 0x5
  | shiftRight => 0x6
  | subtractFrom => 0x7
  | shiftLeft => 0xE

theorem ofDigit?_eq_some_iff {n : Fin 16} {op : AluOp} : ofDigit? n = some op ↔ n.val = op.digit := by
  cases op <;> revert n <;> decide

theorem ofDigit?_eq_none_iff {n : Fin 16} : ofDigit? n = none ↔ ∀ op : AluOp, n.val ≠ op.digit := by
  simp only [Option.eq_none_iff_forall_ne_some, ne_eq, ofDigit?_eq_some_iff]

end AluOp

namespace MiscOp

/-- The last byte of the words for an operation. -/
def code : MiscOp → UInt8
  | readDelay => 0x07
  | awaitKey => 0x0A
  | setDelay => 0x15
  | requestTone => 0x18
  | addToIndex => 0x1E
  | pointToGlyph => 0x29
  | storeDecimal => 0x33
  | storeRegisters => 0x55
  | loadRegisters => 0x65

theorem code_of_mem_codes {nn : UInt8} {op : MiscOp} (listed : (nn, op) ∈ codes) : nn = op.code := by
  have entries : ∀ entry ∈ codes, entry.1 = entry.2.code := by decide
  exact entries _ listed

theorem ofCode?_eq_some_iff {nn : UInt8} {op : MiscOp} : ofCode? nn = some op ↔ nn = op.code := by
  constructor
  · intro found
    obtain ⟨before, after, entries, _⟩ := List.lookup_eq_some_iff.1 found
    exact code_of_mem_codes (by rw [entries]; exact List.mem_append_cons_self)
  · rintro rfl
    cases op <;> rfl

theorem ofCode?_eq_none_iff {nn : UInt8} : ofCode? nn = none ↔ ∀ op : MiscOp, nn ≠ op.code := by
  simp only [Option.eq_none_iff_forall_ne_some, ne_eq, ofCode?_eq_some_iff]

theorem forall_ne_code_iff {n : Nat} : (∀ op : MiscOp, n ≠ op.code.toNat) ↔
    n ∉ [0x07, 0x0A, 0x15, 0x18, 0x1E, 0x29, 0x33, 0x55, 0x65] := by
  constructor
  · intro other listed
    have listed : n ∈ codes.map fun entry => entry.1.toNat := listed
    obtain ⟨⟨nn, op⟩, entry, rfl⟩ := List.mem_map.1 listed
    exact other op (congrArg UInt8.toNat (code_of_mem_codes entry))
  · rintro unlisted op rfl
    cases op <;> simp [code] at unlisted

end MiscOp

/-- The word of four digits, the highest first. -/
def wordOf (family x y n : Fin 16) : Int := 0x1000 * family + 0x100 * x + 0x10 * y + n

theorem Fields.ofInt_wordOf (family x y n : Fin 16) :
    Fields.ofInt (wordOf family x y n) =
      { family, x, y, n
        nn := UInt8.ofNat (0x10 * y + n)
        nnn := ⟨0x100 * x + 0x10 * y + n, by omega⟩ } := by
  have digits {word unit : Int} {d : Fin 16} (place : word / unit % 16 = d) : digit word unit = d :=
    Fin.ext (by simp only [digit, place, Int.toNat_natCast])
  have lastByte : (wordOf family x y n % 256).toNat = 0x10 * y + n := by unfold wordOf; omega
  simp only [ofInt, Fields.mk.injEq, Fin.mk.injEq, lastByte, true_and]
  refine ⟨digits ?_, digits ?_, digits ?_, digits ?_, ?_⟩
  all_goals
    unfold wordOf
    omega

namespace Instruction

/-- Words that begin with the highest digit. -/
theorem ofInt_of_misc {word : Nat} (top : word / 0x1000 = 0xF) :
    ofInt word =
      match MiscOp.ofCode? (UInt8.ofNat (word % 0x100)) with
      | some op => .misc op (Reg.ofNat (word / 0x100))
      | none => .unknownMisc (UInt8.ofNat (word % 0x100)) := by
  have family : (Fields.ofInt word).family = 0xF := Fin.ext (by
    simp only [Fields.ofInt, Fields.digit]
    omega)
  have x : (Fields.ofInt word).x = Reg.ofNat (word / 0x100) := Fin.ext (by
    simp only [Fields.ofInt, Fields.digit, Reg.ofNat]
    omega)
  have nn : (Fields.ofInt word).nn = UInt8.ofNat (word % 0x100) := by
    simp only [Fields.ofInt]
    congr 1
  rw [← x, ← nn]
  unfold ofInt ofFields
  rw [family]
  rfl

theorem ofInt_wordOf_misc {y n : Fin 16} (op : MiscOp) (x : Reg)
    (code : UInt8.ofNat (0x10 * y + n) = op.code) : ofInt (wordOf 0xF x y n) = .misc op x := by
  have found : MiscOp.ofCode? (UInt8.ofNat (0x10 * y + n)) = some op :=
    MiscOp.ofCode?_eq_some_iff.2 code
  rw [ofInt, Fields.ofInt_wordOf, ofFields]
  simp only [found]

theorem ofInt_wordOf_alu {n : Fin 16} {op : AluOp} (digit : n.val = op.digit) (x y : Reg) :
    ofInt (wordOf 0x8 x y n) = .alu op x y := by
  have found : AluOp.ofDigit? n = some op := AluOp.ofDigit?_eq_some_iff.2 digit
  rw [ofInt, Fields.ofInt_wordOf, ofFields]
  simp only [found]

theorem ofInt_wordOf_alu_undefined {n : Fin 16} (other : ∀ op : AluOp, n.val ≠ op.digit) (x y : Reg) :
    ofInt (wordOf 0x8 x y n) = .ignored := by
  have missing : AluOp.ofDigit? n = none := AluOp.ofDigit?_eq_none_iff.2 other
  rw [ofInt, Fields.ofInt_wordOf, ofFields]
  simp only [missing]

theorem ofInt_wordOf_draw (x y : Reg) (height : Fin 16) :
    ofInt (wordOf 0xD x y height) = .draw x y height := by
  rw [ofInt, Fields.ofInt_wordOf]
  rfl

/-- All that the fields of a word can stand for, family by family. -/
inductive Decodes (f : Fields) : Instruction → Prop where
  | clear : f.family.val = 0x0 → f.nn = 0xE0 → Decodes f .clear
  | ret : f.family.val = 0x0 → f.nn = 0xEE → Decodes f .ret
  | noSystem : f.family.val = 0x0 → f.nn ≠ 0xE0 → f.nn ≠ 0xEE → Decodes f .ignored
  | jump : f.family.val = 0x1 → Decodes f (.jump f.nnn)
  | call : f.family.val = 0x2 → Decodes f (.call f.nnn)
  | skipEqByte : f.family.val = 0x3 → Decodes f (.skipEqByte f.x f.nn)
  | skipNeByte : f.family.val = 0x4 → Decodes f (.skipNeByte f.x f.nn)
  | skipEq : f.family.val = 0x5 → Decodes f (.skipEq f.x f.y)
  | setByte : f.family.val = 0x6 → Decodes f (.setByte f.x f.nn)
  | addByte : f.family.val = 0x7 → Decodes f (.addByte f.x f.nn)
  | alu (op : AluOp) : f.family.val = 0x8 → f.n.val = op.digit → Decodes f (.alu op f.x f.y)
  | noAlu : f.family.val = 0x8 → (∀ op : AluOp, f.n.val ≠ op.digit) → Decodes f .ignored
  | skipNe : f.family.val = 0x9 → Decodes f (.skipNe f.x f.y)
  | setIndex : f.family.val = 0xA → Decodes f (.setIndex f.nnn)
  | jumpOffset : f.family.val = 0xB → Decodes f (.jumpOffset f.nnn)
  | random : f.family.val = 0xC → Decodes f (.random f.x f.nn)
  | draw : f.family.val = 0xD → Decodes f (.draw f.x f.y f.n)
  | skipHeld : f.family.val = 0xE → f.nn = 0x9E → Decodes f (.skipHeld f.x)
  | skipReleased : f.family.val = 0xE → f.nn = 0xA1 → Decodes f (.skipReleased f.x)
  | noKey : f.family.val = 0xE → f.nn ≠ 0x9E → f.nn ≠ 0xA1 → Decodes f .ignored
  | misc (op : MiscOp) : f.family.val = 0xF → f.nn = op.code → Decodes f (.misc op f.x)
  | unknownMisc : f.family.val = 0xF → (∀ op : MiscOp, f.nn ≠ op.code) → Decodes f (.unknownMisc f.nn)

theorem decodes_ofFields (f : Fields) : Decodes f (ofFields f) := by
  have lead {digit : Fin 16} (family : f.family = digit) : f.family.val = digit.val :=
    congrArg Fin.val family
  unfold ofFields
  split
  · next family =>
    split
    · next nn => exact .clear (lead family) nn
    · next other =>
      split
      · next nn => exact .ret (lead family) nn
      · next other' => exact .noSystem (lead family) other other'
  · next family => exact .jump (lead family)
  · next family => exact .call (lead family)
  · next family => exact .skipEqByte (lead family)
  · next family => exact .skipNeByte (lead family)
  · next family => exact .skipEq (lead family)
  · next family => exact .setByte (lead family)
  · next family => exact .addByte (lead family)
  · next family =>
    split
    · next op digit => exact .alu op (lead family) (AluOp.ofDigit?_eq_some_iff.1 digit)
    · next undefined => exact .noAlu (lead family) (AluOp.ofDigit?_eq_none_iff.1 undefined)
  · next family => exact .skipNe (lead family)
  · next family => exact .setIndex (lead family)
  · next family => exact .jumpOffset (lead family)
  · next family => exact .random (lead family)
  · next family => exact .draw (lead family)
  · next family =>
    split
    · next nn => exact .skipHeld (lead family) nn
    · next other =>
      split
      · next nn => exact .skipReleased (lead family) nn
      · next other' => exact .noKey (lead family) other other'
  · have family : f.family = 0xF := by grind
    split
    · next op code => exact .misc op (lead family) (MiscOp.ofCode?_eq_some_iff.1 code)
    · next unknown => exact .unknownMisc (lead family) (MiscOp.ofCode?_eq_none_iff.1 unknown)

/-- Whether an instruction is one of those that the highest first digit selects. -/
def isMisc : Instruction → Bool
  | misc .. | unknownMisc _ => true
  | _ => false

theorem family_of_isMisc {f : Fields} (misc : (ofFields f).isMisc = true) : f.family = 0xF := by
  have decodes := decodes_ofFields f
  generalize ofFields f = i at misc decodes
  cases decodes with
  | misc _ family | unknownMisc family => exact Fin.ext family
  | _ => contradiction

section Words
variable {word : Nat}

theorem top_of_isMisc (small : word < 0x10000) (misc : (ofInt word).isMisc = true) :
    word / 0x1000 = 0xF := by
  have family : (word / 0x1000 % 16 : Int).toNat = 15 := congrArg Fin.val (family_of_isMisc misc)
  omega

theorem lastByte_eq_iff {nn : UInt8} : UInt8.ofNat (word % 0x100) = nn ↔ word % 0x100 = nn.toNat := by
  have small : word % 0x100 < 2 ^ 8 := Nat.mod_lt word (by decide)
  rw [← UInt8.toNat_inj, UInt8.toNat_ofNat', Nat.mod_eq_of_lt small]

theorem ofInt_eq_misc_iff (small : word < 0x10000) {op : MiscOp} {x : Reg} :
    ofInt word = .misc op x ↔
      (word / 0x1000 = 0xF ∧ word % 0x100 = op.code.toNat) ∧ Reg.ofNat (word / 0x100) = x := by
  rw [← lastByte_eq_iff, ← MiscOp.ofCode?_eq_some_iff]
  constructor
  · intro decoded
    have top := top_of_isMisc small (by rw [decoded]; rfl)
    rw [ofInt_of_misc top] at decoded
    split at decoded
    · next other found =>
      obtain ⟨rfl, rfl⟩ := misc.inj decoded
      exact ⟨⟨top, found⟩, rfl⟩
    · contradiction
  · rintro ⟨⟨top, found⟩, rfl⟩
    rw [ofInt_of_misc top, found]

theorem ofInt_eq_unknownMisc_iff (small : word < 0x10000) {nn : UInt8} :
    ofInt word = .unknownMisc nn ↔
      (word / 0x1000 = 0xF ∧ ∀ op : MiscOp, word % 0x100 ≠ op.code.toNat) ∧
        UInt8.ofNat (word % 0x100) = nn := by
  have bytes : (∀ op : MiscOp, word % 0x100 ≠ op.code.toNat) ↔
      ∀ op : MiscOp, UInt8.ofNat (word % 0x100) ≠ op.code :=
    forall_congr' fun _ => not_congr lastByte_eq_iff.symm
  rw [bytes]
  constructor
  · intro decoded
    have top := top_of_isMisc small (by rw [decoded]; rfl)
    rw [ofInt_of_misc top] at decoded
    split at decoded
    · contradiction
    · next found =>
      obtain rfl := unknownMisc.inj decoded
      exact ⟨⟨top, MiscOp.ofCode?_eq_none_iff.1 found⟩, rfl⟩
  · rintro ⟨⟨top, other⟩, rfl⟩
    rw [ofInt_of_misc top, MiscOp.ofCode?_eq_none_iff.2 other]

end Words

end Instruction
end Chip8
