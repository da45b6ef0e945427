import Chip8.Execution
import Chip8.Proofs.Decoding
import Mathlib.Data.Nat.Bitwise

/-! Arithmetic on registers, in numbers. An operation with a flag computes the flag from its operands as they
were, stores it, and reads the operands again. So an operand in the flag register counts with the fresh flag,
and a result that goes to the flag register replaces it. -/
namespace Chip8

namespace Registers

/-- The number in a register once the flag has been stored. -/
def withFlag (v : Registers) (flag : Nat) (r : Reg) : Int :=
  if r = Reg.flag then flag else (v.get r).toNat

/-- What an operation with a flag leaves behind: its value modulo 256 in the destination, the flag in its
register if that is another one, and all other registers as they were. -/
structure Outcome (before after : Registers) (destination : Reg) (flag : Nat) (value : Int) : Prop where
  flag : destination ≠ Reg.flag → (after.get Reg.flag).toNat = flag
  result : ((after.get destination).toNat : Int) = value % 256
  others : ∀ r, r ≠ destination → r ≠ Reg.flag → after.get r = before.get r

theorem toNat_get_setFlag (v : Registers) (f : Bool) (r : Reg) :
    (((v.setFlag f).get r).toNat : Int) = v.withFlag f.toNat r := by
  rw [setFlag, get_set, withFlag]
  by_cases flag : r = Reg.flag
  · rw [if_pos flag.symm, if_pos flag]
    cases f <;> rfl
  · rw [if_neg (Ne.symm flag), if_neg flag]

theorem withFlag_of_ne (v : Registers) (flag : Nat) {r : Reg} (other : r ≠ Reg.flag) :
    v.withFlag flag r = (v.get r).toNat :=
  if_neg other

end Registers

theorem toNat_decide (p : Prop) [Decidable p] : (decide p).toNat = if p then 1 else 0 := by
  by_cases holds : p <;> simp [holds]

theorem toNat_lowestBit (b : UInt8) : (decide (b &&& 1 = 1)).toNat = b.toNat % 2 := by
  have bit : b &&& 1 = 1 ↔ b.toNat % 2 = 1 := by
    rw [← UInt8.toNat_inj, UInt8.toNat_and]
    simp only [UInt8.reduceToNat, Nat.and_one_is_mod]
  rw [toNat_decide]
  split
  · next set => exact (bit.1 set).symm
  · next unset =>
    have even := mt bit.2 unset
    omega

theorem toNat_highestBit (b : UInt8) : (decide (b &&& 0x80 ≠ 0)).toNat = b.toNat / 128 := by
  have small : b.toNat < 256 := b.toNat_lt
  have masked : (b &&& 0x80).toNat = b.toNat / 128 * 128 := by
    have mask : (0x80 : UInt8).toNat = 2 ^ 7 := rfl
    rw [UInt8.toNat_and, mask, Nat.and_two_pow, Nat.toNat_testBit]
    omega
  have bit : b &&& 0x80 ≠ 0 ↔ b.toNat / 128 = 1 := by
    rw [ne_eq, ← UInt8.toNat_inj, masked]
    simp only [UInt8.reduceToNat]
    omega
  rw [toNat_decide]
  split
  · next set => exact (bit.1 set).symm
  · next unset =>
    have low := mt bit.2 unset
    omega

namespace AluOp
variable {op : AluOp} {v : Registers} {x y : Reg}

/-- Registers that are neither the destination nor take the flag are left alone. -/
theorem get_apply_of_ne {r : Reg} (other : r ≠ op.destination x y)
    (apart : op.flag? (v.get x) (v.get y) = none ∨ r ≠ Reg.flag) :
    (op.apply v x y).get r = v.get r := by
  unfold apply
  rw [Registers.get_set_ne _ _ other.symm]
  cases flagged : op.flag? (v.get x) (v.get y) with
  | none => rfl
  | some f =>
    have unflagged : r ≠ Reg.flag := apart.resolve_left (by simp [flagged])
    exact Registers.get_set_ne _ _ unflagged.symm

/-- An operation with a flag does what its result does on its operands as they are after the flag. -/
theorem outcome_apply {f : Bool} {flag : Nat} {value : Int}
    (flagged : op.flag? (v.get x) (v.get y) = some f) (number : f.toNat = flag)
    (computes : ∀ a b : UInt8, (a.toNat : Int) = v.withFlag flag x →
      (b.toNat : Int) = v.withFlag flag y → ((op.result a b).toNat : Int) = value % 256) :
    v.Outcome (op.apply v x y) (op.destination x y) flag value := by
  subst number
  have applied : op.apply v x y = (v.setFlag f).set (op.destination x y)
      (op.result ((v.setFlag f).get x) ((v.setFlag f).get y)) := by
    simp only [apply, flagged]
  constructor
  · intro apart
    rw [applied, Registers.get_set_ne _ _ apart, Registers.setFlag, Registers.get_set_self]
    cases f <;> rfl
  · rw [applied, Registers.get_set_self]
    exact computes _ _ (v.toNat_get_setFlag f x) (v.toNat_get_setFlag f y)
  · intro r other unflagged
    exact get_apply_of_ne other (.inr unflagged)

section Outcomes
variable (v : Registers) (x y : Reg)

theorem outcome_add :
    let carry := if (v.get x).toNat + (v.get y).toNat > 255 then 1 else 0
    v.Outcome (add.apply v x y) x carry (v.withFlag carry x + v.withFlag carry y) := by
  refine outcome_apply rfl (toNat_decide _) fun a b first second => ?_
  rw [← first, ← second, result, UInt8.toNat_add]
  omega

theorem outcome_subtract :
    let above := if (v.get x).toNat > (v.get y).toNat then 1 else 0
    v.Outcome (subtract.apply v x y) x above (v.withFlag above x - v.withFlag above y) := by
  refine outcome_apply rfl (toNat_decide _) fun a b first second => ?_
  have small : b.toNat < 256 := b.toNat_lt
  rw [← first, ← second, result, UInt8.toNat_sub]
  omega

theorem outcome_shiftRight :
    let lowest := (v.get x).toNat % 2
    v.Outcome (shiftRight.apply v x y) x lowest (v.withFlag lowest x / 2) := by
  refine outcome_apply rfl (toNat_lowestBit _) fun a b first _ => ?_
  have small : a.toNat < 256 := a.toNat_lt
  rw [← first, result, UInt8.toNat_div]
  simp only [UInt8.reduceToNat]
  omega

theorem outcome_subtractFrom :
    let below := if (v.get y).toNat > (v.get x).toNat then 1 else 0
    v.Outcome (subtractFrom.apply v x y) y below (v.withFlag below y - v.withFlag below x) := by
  refine outcome_apply rfl (toNat_decide _) fun a b first second => ?_
  have small : a.toNat < 256 := a.toNat_lt
  rw [← first, ← second, result, UInt8.toNat_sub]
  omega

theorem outcome_shiftLeft :
    let highest := (v.get x).toNat / 128
    v.Outcome (shiftLeft.apply v x y) x highest (2 * v.withFlag highest x) := by
  refine outcome_apply rfl (toNat_highestBit _) fun a b first _ => ?_
  rw [← first, result, UInt8.toNat_mul]
  simp only [UInt8.reduceToNat]
  omega

theorem get_shiftRight_flag (flag : x = Reg.flag) : (shiftRight.apply v x y).get x = 0 := by
  have half := (outcome_shiftRight v x y).result
  have fresh : v.withFlag ((v.get x).toNat % 2) x = ((v.get x).toNat % 2 : Nat) := if_pos flag
  rw [fresh] at half
  rw [← UInt8.toNat_inj]
  simp only [UInt8.reduceToNat]
  omega

end Outcomes

/-! Away from the flag register, flag and value make up the exact result. -/
section Exact
variable {v : Registers} {x y : Reg} (apart : x ≠ Reg.flag)
include apart

theorem exact_add (apart' : y ≠ Reg.flag) :
    let carry := if (v.get x).toNat + (v.get y).toNat > 255 then 1 else 0
    256 * carry + ((add.apply v x y).get x).toNat = (v.get x).toNat + (v.get y).toNat := by
  have small : (v.get x).toNat < 256 := UInt8.toNat_lt _
  have small' : (v.get y).toNat < 256 := UInt8.toNat_lt _
  have sum := (outcome_add v x y).result
  rw [v.withFlag_of_ne _ apart, v.withFlag_of_ne _ apart'] at sum
  dsimp only
  split <;> omega

theorem exact_subtract (apart' : y ≠ Reg.flag) :
    (((subtract.apply v x y).get x).toNat : Int) =
      (((v.get x).toNat : Int) - (v.get y).toNat) % 256 := by
  rw [(outcome_subtract v x y).result, v.withFlag_of_ne _ apart, v.withFlag_of_ne _ apart']

theorem exact_shiftRight :
    2 * ((shiftRight.apply v x y).get x).toNat + (v.get x).toNat % 2 = (v.get x).toNat := by
  have small : (v.get x).toNat < 256 := UInt8.toNat_lt _
  have half := (outcome_shiftRight v x y).result
  rw [v.withFlag_of_ne _ apart] at half
  omega

theorem exact_subtractFrom (apart' : y ≠ Reg.flag) :
    (((subtractFrom.apply v x y).get y).toNat : Int) =
      (((v.get y).toNat : Int) - (v.get x).toNat) % 256 := by
  rw [(outcome_subtractFrom v x y).result, v.withFlag_of_ne _ apart, v.withFlag_of_ne _ apart']

theorem exact_shiftLeft :
    256 * ((v.get x).toNat / 128) + ((shiftLeft.apply v x y).get x).toNat = 2 * (v.get x).toNat := by
  have small : (v.get x).toNat < 256 := UInt8.toNat_lt _
  have double := (outcome_shiftLeft v x y).result
  rw [v.withFlag_of_ne _ apart] at double
  omega

end Exact

end AluOp

/-- Arithmetic with a flag on two registers that hold the numbers `a` and `b`. The flag comes from these
numbers. The value comes from the registers after the flag, which matters where one of them is the flag
register itself, and goes to `x`, or to `y` for 8XY7. Away from the flag register, flag and value make up the
exact result. The words without a flag change `x` alone, and those with other digits change nothing. -/
theorem arithmetic_on_numbers (s : State) (x y : Reg) :
    let v := s.registers
    let a := (v.get x).toNat
    let b := (v.get y).toNat
    let carry := if a + b > 255 then 1 else 0
    let above := if a > b then 1 else 0
    let lowest := a % 2
    let below := if b > a then 1 else 0
    let highest := a / 128
    let after (digit : Fin 16) := (s.execute (.ofInt (wordOf 0x8 x y digit))).registers
    v.Outcome (after 0x4) x carry (v.withFlag carry x + v.withFlag carry y) ∧
    v.Outcome (after 0x5) x above (v.withFlag above x - v.withFlag above y) ∧
    v.Outcome (after 0x6) x lowest (v.withFlag lowest x / 2) ∧
    v.Outcome (after 0x7) y below (v.withFlag below y - v.withFlag below x) ∧
    v.Outcome (after 0xE) x highest (2 * v.withFlag highest x) ∧
    (x = Reg.flag → (after 0x6).get x = 0) ∧
    (x ≠ Reg.flag → y ≠ Reg.flag →
      256 * carry + ((after 0x4).get x).toNat = a + b ∧
      (((after 0x5).get x).toNat : Int) = ((a : Int) - b) % 256 ∧
      2 * ((after 0x6).get x).toNat + lowest = a ∧
      (((after 0x7).get y).toNat : Int) = ((b : Int) - a) % 256 ∧
      256 * highest + ((after 0xE).get x).toNat = 2 * a) ∧
    (∀ digit < 4, ∀ r, r ≠ x → (after digit).get r = v.get r) ∧
    (∀ digit : Fin 16, digit.val ∉ [0x0, 0x1, 0x2, 0x3, 0x4, 0x5, 0x6, 0x7, 0xE] →
      s.execute (.ofInt (wordOf 0x8 x y digit)) = s) := by
  intro v a b carry above lowest below highest after
  have ran (digit : Fin 16) (op : AluOp) (named : digit.val = op.digit) :
      after digit = op.apply v x y :=
    congrArg (fun i => (s.execute i).registers) (Instruction.ofInt_wordOf_alu named x y)
  have add : after 0x4 = AluOp.add.apply v x y := ran 0x4 .add rfl
  have subtract : after 0x5 = AluOp.subtract.apply v x y := ran 0x5 .subtract rfl
  have shiftRight : after 0x6 = AluOp.shiftRight.apply v x y := ran 0x6 .shiftRight rfl
  have subtractFrom : after 0x7 = AluOp.subtractFrom.apply v x y := ran 0x7 .subtractFrom rfl
  have shiftLeft : after 0xE = AluOp.shiftLeft.apply v x y := ran 0xE .shiftLeft rfl
  rw [add, subtract, shiftRight, subtractFrom, shiftLeft]
  refine ⟨AluOp.outcome_add v x y, AluOp.outcome_subtract v x y, AluOp.outcome_shiftRight v x y,
    AluOp.outcome_subtractFrom v x y, AluOp.outcome_shiftLeft v x y, AluOp.get_shiftRight_flag v x y,
    ?_, ?_, ?_⟩
  · intro apart apart'
    exact ⟨AluOp.exact_add apart apart', AluOp.exact_subtract apart apart', AluOp.exact_shiftRight apart,
      AluOp.exact_subtractFrom apart apart', AluOp.exact_shiftLeft apart⟩
  · intro digit low r other
    have kept (op : AluOp) (named : digit.val = op.digit)
        (unflagged : op.flag? (v.get x) (v.get y) = none) (home : op.destination x y = x) :
        (after digit).get r = v.get r := by
      rw [ran digit op named]
      exact AluOp.get_apply_of_ne (by rwa [home]) (.inl unflagged)
    rcases (by omega : digit = 0 ∨ digit = 1 ∨ digit = 2 ∨ digit = 3) with rfl | rfl | rfl | rfl
    · exact kept .copy rfl rfl rfl
    · exact kept .or rfl rfl rfl
    · exact kept .and rfl rfl rfl
    · exact kept .xor rfl rfl rfl
  · intro digit undefined
    have other (op : AluOp) : digit.val ≠ op.digit := by
      intro named
      rw [named] at undefined
      cases op <;> simp [AluOp.digit] at undefined
    exact congrArg s.execute (Instruction.ofInt_wordOf_alu_undefined other x y)

/-- A sum with a carry: 200 and 100 leave 44 and the flag. -/
theorem arithmetic_on_numbers_carry :
    let s : State :=
      { State.powerOn default with registers := (Registers.zero.set 1 200).set 2 100 }
    let after := (s.execute (.ofInt (wordOf 0x8 1 2 0x4))).registers
    (1 : Reg) ≠ Reg.flag ∧ (2 : Reg) ≠ Reg.flag ∧
      (after.get 1).toNat = 44 ∧ (after.get Reg.flag).toNat = 1 := by
  intro s after
  have apart : (1 : Reg) ≠ Reg.flag := by decide
  have apart' : (2 : Reg) ≠ Reg.flag := by decide
  have laws := arithmetic_on_numbers s 1 2
  have flag : (after.get Reg.flag).toNat = 1 := laws.1.flag apart
  have exact : 256 * 1 + (after.get 1).toNat = 300 := (laws.2.2.2.2.2.2.1 apart apart').1
  exact ⟨apart, apart', by omega, flag⟩

/-- With the flag register as an operand, its 200 makes the carry and then the carry counts instead. -/
example :
    (AluOp.add.apply ((Registers.zero.set Reg.flag 200).set 1 100) Reg.flag 1).get Reg.flag = 101 := by
  decide

end Chip8
