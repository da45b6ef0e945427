import Chip8.Execution
import Chip8.Proofs.Decoding
import Mathlib.Data.Int.Bitwise

/-! Words taken apart by masks, and instructions found in tables. A mask keeps bits of the two's complement,
so that every integer has operand fields. Tables have no entry at an index outside them. -/
namespace Chip8

/-- The bits of a word that lie in a mask, moved down by a number of places. -/
def masked (word mask : Int) (places : Nat) : Int := Int.land word mask >>> places

/-- A negative word has the bits that its complement lacks. -/
theorem ldiff_shiftRight (m bits places : Nat) :
    Nat.ldiff ((2 ^ bits - 1) <<< places) m >>> places = 2 ^ bits - (m / 2 ^ places % 2 ^ bits + 1) := by
  refine Nat.eq_of_testBit_eq fun i => ?_
  have small : m / 2 ^ places % 2 ^ bits < 2 ^ bits := Nat.mod_lt _ (Nat.two_pow_pos bits)
  rw [Nat.testBit_two_pow_sub_succ small, Nat.testBit_shiftRight, Nat.testBit_ldiff,
    Nat.testBit_shiftLeft, Nat.testBit_two_pow_sub_one, Nat.testBit_mod_two_pow, Nat.testBit_div_two_pow]
  by_cases low : i < bits <;> simp [low, Nat.add_comm]

/-- A mask of adjacent bits selects a digit to a power of two. -/
theorem masked_eq (word : Int) (bits places : Nat) :
    masked word ((2 ^ bits - 1) <<< places : Nat) places = word / 2 ^ places % 2 ^ bits := by
  cases word with
  | ofNat m =>
    have digit : (m &&& (2 ^ bits - 1) <<< places) >>> places = m / 2 ^ places % 2 ^ bits := by
      rw [Nat.shiftRight_and_distrib, Nat.shiftLeft_shiftRight, Nat.and_two_pow_sub_one_eq_mod,
        Nat.shiftRight_eq_div_pow]
    change (((m &&& (2 ^ bits - 1) <<< places : Nat) : Int) >>> places) = _
    rw [← Int.natCast_shiftRight, digit]
    push_cast
    rfl
  | negSucc m =>
    have power (n : Nat) : (0 : Int) < 2 ^ n := Int.pow_pos (by decide)
    have digit : m / 2 ^ places % 2 ^ bits < 2 ^ bits := Nat.mod_lt _ (Nat.two_pow_pos bits)
    have quotient : Int.negSucc m / 2 ^ places = Int.negSucc (m / 2 ^ places) := by
      rw [Int.negSucc_ediv _ (power places), Int.negSucc_eq]
      push_cast
      rfl
    change ((Nat.ldiff ((2 ^ bits - 1) <<< places) m : Nat) : Int) >>> places = _
    rw [← Int.natCast_shiftRight, ldiff_shiftRight, quotient, Int.negSucc_emod _ (power bits),
      Int.natCast_sub digit]
    push_cast
    omega

/-- The operand fields of a word as integers. -/
structure Operands where
  family : Int
  x : Int
  y : Int
  n : Int
  nn : Int
  nnn : Int
deriving DecidableEq, Repr

namespace Operands

def ofInt (word : Int) : Operands where
  family := masked word 0xF000 12
  x := masked word 0x0F00 8
  y := masked word 0x00F0 4
  n := masked word 0x000F 0
  nn := masked word 0x00FF 0
  nnn := masked word 0x0FFF 0

def ofFields (f : Fields) : Operands where
  family := f.family
  x := f.x
  y := f.y
  n := f.n
  nn := f.nn.toNat
  nnn := f.nnn

theorem ofInt_eq (word : Int) : ofInt word =
    { family := word / 0x1000 % 16
      x := word / 0x100 % 16
      y := word / 0x10 % 16
      n := word % 16
      nn := word % 256
      nnn := word % 4096 } := by
  simp only [ofInt, mk.injEq]
  refine ⟨masked_eq word 4 12, masked_eq word 4 8, masked_eq word 4 4, ?_, ?_, ?_⟩
  · simpa using masked_eq word 4 0
  · simpa using masked_eq word 8 0
  · simpa using masked_eq word 12 0

/-- The masks read the fields that words are decoded by. -/
theorem ofInt_eq_ofFields (word : Int) : ofInt word = ofFields (.ofInt word) := by
  have small : (word % 256).toNat < UInt8.size := by simp only [UInt8.size]; omega
  have byte := UInt8.toNat_ofNat_of_lt' small
  simp only [ofInt_eq, ofFields, Fields.ofInt, Fields.digit, byte, mk.injEq]
  refine ⟨?_, ?_, ?_, ?_, ?_, ?_⟩
  all_goals omega

/-- Digits, a byte and an address. -/
structure Fit (o : Operands) : Prop where
  family : 0 ≤ o.family ∧ o.family ≤ 15
  x : 0 ≤ o.x ∧ o.x ≤ 15
  y : 0 ≤ o.y ∧ o.y ≤ 15
  n : 0 ≤ o.n ∧ o.n ≤ 15
  nn : 0 ≤ o.nn ∧ o.nn ≤ 255
  nnn : 0 ≤ o.nnn ∧ o.nnn ≤ 4095

theorem fit_ofInt (word : Int) : (ofInt word).Fit := by
  rw [ofInt_eq]
  constructor <;> dsimp only <;> omega

/-- The four digits of a word, the highest first. -/
def digits (o : Operands) : Int × Int × Int × Int := (o.family, o.x, o.y, o.n)

/-- The word that the four digits make. -/
def word (o : Operands) : Int := o.family * 4096 + o.x * 256 + o.y * 16 + o.n

theorem word_ofInt (raw : Int) : (ofInt raw).word = raw % 65536 := by
  simp only [ofInt_eq, word]
  omega

theorem ofInt_emod (raw : Int) : ofInt (raw % 65536) = ofInt raw := by
  simp only [ofInt_eq, mk.injEq]
  omega

/-- A negative word stands for what its low bits stand for. -/
example : ofInt (-0x2FEB) = ofInt 0xD015 := by decide +kernel

theorem digits_eq_iff {raw other : Int} :
    (ofInt raw).digits = (ofInt other).digits ↔ raw % 65536 = other % 65536 := by
  constructor
  · intro same
    rw [← word_ofInt raw, ← word_ofInt other]
    simp only [digits, Prod.mk.injEq] at same
    simp only [word, same]
  · intro same
    rw [← ofInt_emod raw, same, ofInt_emod]

end Operands

/-- An integer as a number below a bound; other integers are none. -/
def within? (bound : Nat) (i : Int) : Option (Fin bound) :=
  if h : 0 ≤ i ∧ i < bound then some ⟨i.toNat, by omega⟩ else none

theorem within?_val {bound : Nat} (k : Fin bound) : within? bound k.val = some k := by
  have small : (0 : Int) ≤ k.val ∧ (k.val : Int) < bound := by omega
  simp only [within?, small, and_self, dite_true, Int.toNat_natCast]

/-- The entry of a table at an index that lies in it. -/
def item? {α : Type} (table : List α) (index : Int) : Option α :=
  (within? table.length index).map table.get

theorem item?_val {α : Type} (table : List α) (k : Fin table.length) :
    item? table k.val = some (table.get k) := by
  rw [item?, within?_val, Option.map_some]

namespace Operands

/-- The operands as what they name, if they are in range: registers, a number, a byte and an address. -/
def x? (o : Operands) : Option Reg := within? 16 o.x
def y? (o : Operands) : Option Reg := within? 16 o.y
def n? (o : Operands) : Option (Fin 16) := within? 16 o.n
def nn? (o : Operands) : Option UInt8 := (within? 256 o.nn).map fun b => UInt8.ofNat b.val
def nnn? (o : Operands) : Option (Fin 4096) := within? 4096 o.nnn

section Fields
variable (f : Fields)

@[simp] theorem x?_ofFields : (ofFields f).x? = some f.x := within?_val f.x
@[simp] theorem y?_ofFields : (ofFields f).y? = some f.y := within?_val f.y
@[simp] theorem n?_ofFields : (ofFields f).n? = some f.n := within?_val f.n
@[simp] theorem nnn?_ofFields : (ofFields f).nnn? = some f.nnn := within?_val f.nnn

@[simp] theorem nn?_ofFields : (ofFields f).nn? = some f.nn := by
  have byte : within? 256 f.nn.toNat = some ⟨f.nn.toNat, f.nn.toNat_lt⟩ :=
    within?_val ⟨f.nn.toNat, f.nn.toNat_lt⟩
  simp only [nn?, ofFields, byte, Option.map_some, UInt8.ofNat_toNat]

end Fields
end Operands

namespace Dispatch

/-- What words without operands do, nothing first. -/
def systemOps : List Instruction := [.ignored, .clear, .ret]

/-- The operations on registers by last digit. -/
def aluOps : List (Option AluOp) :=
  [some .copy, some .or, some .and, some .xor,
   some .add, some .subtract, some .shiftRight, some .subtractFrom,
   none, none, none, none,
   none, none, some .shiftLeft, none]

/-- The places of the handlers of timers, keys, tones and blocks by last byte, zero for bytes that are no
code. -/
def miscPlaces : List Nat :=
  MiscOp.codes.zipIdx.foldl (fun places (entry, i) => places.set entry.1.toNat (i + 1)) (.replicate 256 0)

def miscOps : List (Option MiscOp) := none :: MiscOp.codes.map fun entry => some entry.2

theorem aluOps_digit (n : Fin 16) : item? aluOps n.val = some (AluOp.ofDigit? n) := by
  revert n
  decide

theorem miscPlaces_eq :
    miscPlaces = List.ofFn fun b : Fin 256 => MiscOp.position (UInt8.ofNat b) := by
  decide +kernel

theorem miscPlaces_byte (nn : UInt8) : item? miscPlaces nn.toNat = some (MiscOp.position nn) := by
  have inside : nn.toNat < miscPlaces.length := by
    rw [miscPlaces_eq, List.length_ofFn]
    exact nn.toNat_lt
  have place : miscPlaces.get ⟨nn.toNat, inside⟩ = MiscOp.position nn := by
    simp only [List.get_eq_getElem, miscPlaces_eq, List.getElem_ofFn, UInt8.ofNat_toNat]
  rw [← place]
  exact item?_val miscPlaces ⟨nn.toNat, inside⟩

theorem miscOps_position (nn : UInt8) :
    item? miscOps (MiscOp.position nn) = some (MiscOp.ofCode? nn) := by
  cases found : MiscOp.ofCode? nn with
  | some op =>
    obtain rfl := MiscOp.ofCode?_eq_some_iff.1 found
    cases op <;> rfl
  | none =>
    have other := MiscOp.ofCode?_eq_none_iff.1 found
    have missing : MiscOp.codes.findIdx? (·.1 == nn) = none := by
      refine List.findIdx?_eq_none_iff.2 fun entry listed => ?_
      rw [beq_eq_false_iff_ne]
      rintro rfl
      exact other entry.2 (MiscOp.code_of_mem_codes listed)
    rw [MiscOp.position, missing]
    rfl

/-- What a family of words makes of its operands, none if one of them is out of range. -/
abbrev Handler := Operands → Option Instruction

def system : Handler := fun o =>
  item? systemOps (if o.nn = 0xE0 then 1 else if o.nn = 0xEE then 2 else 0)

def alu : Handler := fun o => do
  match ← item? aluOps o.n with
  | some op => return .alu op (← o.x?) (← o.y?)
  | none => return .ignored

/-- The register is read whatever the last byte is. -/
def skipIfKey : Handler := fun o => do
  let x ← o.x?
  return if o.nn = 0x9E then .skipHeld x else if o.nn = 0xA1 then .skipReleased x else .ignored

def misc : Handler := fun o => do
  match ← item? miscOps (← item? miscPlaces o.nn) with
  | some op => return .misc op (← o.x?)
  | none => return .unknownMisc (← o.nn?)

def onAddress (i : Fin 4096 → Instruction) : Handler := fun o => return i (← o.nnn?)
def onByte (i : Reg → UInt8 → Instruction) : Handler := fun o => return i (← o.x?) (← o.nn?)
def onRegisters (i : Reg → Reg → Instruction) : Handler := fun o => return i (← o.x?) (← o.y?)

def draw : Handler := fun o => return .draw (← o.x?) (← o.y?) (← o.n?)

/-- The handlers by first digit. -/
def families : List Handler :=
  [system, onAddress .jump, onAddress .call, onByte .skipEqByte,
   onByte .skipNeByte, onRegisters .skipEq, onByte .setByte, onByte .addByte,
   alu, onRegisters .skipNe, onAddress .setIndex, onAddress .jumpOffset,
   onByte .random, draw, skipIfKey, misc]

/-- The instruction that the tables hold for operands. -/
def instruction? (o : Operands) : Option Instruction := do (← item? families o.family) o

/-- Decodes and executes a word through the tables. Without an entry there is no next state. -/
def execute? (s : State) (word : Int) : Option State := (instruction? (.ofInt word)).map s.execute

section Handlers
variable (f : Fields)

theorem onAddress_ofFields (i : Fin 4096 → Instruction) : onAddress i (.ofFields f) = some (i f.nnn) := by
  simp [onAddress]

theorem onByte_ofFields (i : Reg → UInt8 → Instruction) :
    onByte i (.ofFields f) = some (i f.x f.nn) := by
  simp [onByte]

theorem onRegisters_ofFields (i : Reg → Reg → Instruction) :
    onRegisters i (.ofFields f) = some (i f.x f.y) := by
  simp [onRegisters]

theorem draw_ofFields : draw (.ofFields f) = some (.draw f.x f.y f.n) := by
  simp [draw]

/-- Bytes are told apart by their numbers. -/
theorem nn_ofFields_eq_iff (b : UInt8) : (Operands.ofFields f).nn = b.toNat ↔ f.nn = b := by
  simp [Operands.ofFields, ← UInt8.toNat_inj]

theorem system_ofFields : system (.ofFields f) =
    some (if f.nn = 0xE0 then .clear else if f.nn = 0xEE then .ret else .ignored) := by
  have clear : (Operands.ofFields f).nn = 0xE0 ↔ f.nn = 0xE0 := nn_ofFields_eq_iff f 0xE0
  have ret : (Operands.ofFields f).nn = 0xEE ↔ f.nn = 0xEE := nn_ofFields_eq_iff f 0xEE
  simp only [system, clear, ret]
  split_ifs <;> rfl

theorem skipIfKey_ofFields : skipIfKey (.ofFields f) =
    some (if f.nn = 0x9E then .skipHeld f.x else if f.nn = 0xA1 then .skipReleased f.x else .ignored) := by
  have held : (Operands.ofFields f).nn = 0x9E ↔ f.nn = 0x9E := nn_ofFields_eq_iff f 0x9E
  have released : (Operands.ofFields f).nn = 0xA1 ↔ f.nn = 0xA1 := nn_ofFields_eq_iff f 0xA1
  simp [skipIfKey, held, released]

theorem alu_ofFields : alu (.ofFields f) =
    some (match AluOp.ofDigit? f.n with | some op => .alu op f.x f.y | none => .ignored) := by
  have entry : item? aluOps (Operands.ofFields f).n = some (AluOp.ofDigit? f.n) := aluOps_digit f.n
  simp only [alu, entry]
  cases AluOp.ofDigit? f.n <;> simp

theorem misc_ofFields : misc (.ofFields f) =
    some (match MiscOp.ofCode? f.nn with | some op => .misc op f.x | none => .unknownMisc f.nn) := by
  have place : item? miscPlaces (Operands.ofFields f).nn = some (MiscOp.position f.nn) :=
    miscPlaces_byte f.nn
  simp only [misc, place, Option.bind_eq_bind, Option.bind_some, miscOps_position]
  cases MiscOp.ofCode? f.nn <;> simp

end Handlers

theorem families_get (f : Fields) : families.get f.family (.ofFields f) = some (.ofFields f) := by
  unfold Instruction.ofFields
  split
  · next family => rw [family]; exact system_ofFields f
  · next family => rw [family]; exact onAddress_ofFields f .jump
  · next family => rw [family]; exact onAddress_ofFields f .call
  · next family => rw [family]; exact onByte_ofFields f .skipEqByte
  · next family => rw [family]; exact onByte_ofFields f .skipNeByte
  · next family => rw [family]; exact onRegisters_ofFields f .skipEq
  · next family => rw [family]; exact onByte_ofFields f .setByte
  · next family => rw [family]; exact onByte_ofFields f .addByte
  · next family => rw [family]; exact alu_ofFields f
  · next family => rw [family]; exact onRegisters_ofFields f .skipNe
  · next family => rw [family]; exact onAddress_ofFields f .setIndex
  · next family => rw [family]; exact onAddress_ofFields f .jumpOffset
  · next family => rw [family]; exact onByte_ofFields f .random
  · next family => rw [family]; exact draw_ofFields f
  · next family => rw [family]; exact skipIfKey_ofFields f
  · have family : f.family = 0xF := by grind
    rw [family]
    exact misc_ofFields f

/-- No index leaves its table and no operand its range. -/
theorem instruction?_ofInt (word : Int) : instruction? (.ofInt word) = some (.ofInt word) := by
  let f := Fields.ofInt word
  have chosen : item? families (Operands.ofFields f).family = some (families.get f.family) :=
    item?_val families f.family
  rw [Operands.ofInt_eq_ofFields, instruction?, chosen]
  exact families_get f

theorem execute?_eq (s : State) (word : Int) : execute? s word = some (s.execute (.ofInt word)) := by
  rw [execute?, instruction?_ofInt, Option.map_some]

end Dispatch

theorem Instruction.ofInt_emod (raw : Int) : ofInt (raw % 65536) = ofInt raw := by
  have same : Dispatch.instruction? (.ofInt (raw % 65536)) = Dispatch.instruction? (.ofInt raw) := by
    rw [Operands.ofInt_emod]
  rw [Dispatch.instruction?_ofInt, Dispatch.instruction?_ofInt] at same
  exact Option.some.inj same

/-- Decoding keeps the low sixteen bits of any integer and nothing else, and what a word does is found in
the tables without leaving them. A word that a host cannot hold in 32 bits is refused, whatever its low bits
are. -/
theorem decoding_is_lossless (raw : Int) :
    (Operands.ofInt raw).Fit ∧
    Operands.ofInt raw = .ofFields (.ofInt raw) ∧
    (Operands.ofInt raw).word = raw % 65536 ∧
    (Operands.ofInt raw).nn = (Operands.ofInt raw).y * 16 + (Operands.ofInt raw).n ∧
    (Operands.ofInt raw).nnn = (Operands.ofInt raw).x * 256 + (Operands.ofInt raw).nn ∧
    (∀ other, (Operands.ofInt raw).digits = (Operands.ofInt other).digits ↔
      raw % 65536 = other % 65536) ∧
    ∀ s : State,
      Dispatch.execute? s raw = some (s.execute (.ofInt raw)) ∧
      s.executeWord? (raw % 65536) = Dispatch.execute? s raw ∧
      s.executeWord? raw = (if fitsWord32 raw then s.executeWord? (raw % 65536) else none) := by
  have low : fitsWord32 (raw % 65536) = true := by
    simp only [fitsWord32, Bool.and_eq_true, decide_eq_true_eq]
    omega
  refine ⟨Operands.fit_ofInt raw, Operands.ofInt_eq_ofFields raw, Operands.word_ofInt raw, ?_, ?_,
    fun other => Operands.digits_eq_iff, fun s => ?_⟩
  · simp only [Operands.ofInt_eq]
    omega
  · simp only [Operands.ofInt_eq]
    omega
  · have table : s.executeWord? (raw % 65536) = some (s.execute (.ofInt raw)) := by
      rw [State.executeWord?, if_pos low, Instruction.ofInt_emod]
    refine ⟨Dispatch.execute?_eq s raw, ?_, ?_⟩
    · rw [table, Dispatch.execute?_eq]
    · rw [table, State.executeWord?]

/-- A word with its 32nd bit set is refused, although its low bits are an instruction. -/
theorem wide_word_is_refused :
    (default : State).executeWord? 0x80006005 = none ∧
    (default : State).executeWord? (0x80006005 % 65536) =
      some ((default : State).setRegister 0 5) :=
  ⟨rfl, rfl⟩

end Chip8
