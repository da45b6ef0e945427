import Chip8.Pacing.Quantity
import Mathlib.Algebra.Order.Field.Power
import Mathlib.Data.Rat.Floor
import Mathlib.Tactic.Linarith
import Mathlib.Tactic.Positivity

/-! Whole numbers as 64-bit floating point numbers. Those with no more bits than a significand, but for zeros
at their end, are held as they are. Others are rounded, but never past a power of two. -/
namespace Chip8

namespace Decimal
variable {n : Int} {q : Rat}

/-- Rounding never passes a whole number on the way down. -/
theorem le_roundHalfEven (above : n ≤ q) : n ≤ roundHalfEven q := by
  have below : n ≤ q.floor := Int.le_floor.2 above
  simp only [roundHalfEven]
  split_ifs <;> omega

/-- Rounding never passes a whole number on the way up. -/
theorem roundHalfEven_le (below : q ≤ n) : roundHalfEven q ≤ n := by
  have floor : q.floor ≤ n := Int.cast_le.1 ((Int.floor_le q).trans below)
  rcases floor.lt_or_eq with less | same
  · simp only [roundHalfEven]
    split_ifs <;> omega
  · have rest : q - n < 1 / 2 := by linarith
    simp only [roundHalfEven, same, if_pos rest, le_refl]

end Decimal

namespace Binary64

theorem scaled_one (e : Int) : scaled 1 e = 2 ^ e := by
  unfold scaled
  split
  · next nonneg =>
    obtain ⟨k, rfl⟩ := Int.eq_ofNat_of_zero_le nonneg
    simp
  · next negative =>
    obtain ⟨k, rfl⟩ : ∃ k : Nat, e = -k := ⟨(-e).toNat, by omega⟩
    simp [Rat.mkRat_eq_div]

theorem lastPlace_natCast {n : Nat} (positive : 0 < n) : lastPlace n = n.log2 - 52 := by
  have highest : (2 : Rat) ^ n.log2 ≤ n := by exact_mod_cast Nat.log2_self_le positive.ne'
  have leading : ¬ (n : Rat) < scaled 1 n.log2 := by
    rw [scaled_one, zpow_natCast]
    exact not_lt.2 highest
  have one : Nat.log2 1 = 0 := by decide
  simp only [lastPlace, Rat.num_natCast, Rat.den_natCast, Int.natAbs_natCast, one, Nat.cast_zero,
    sub_zero, if_neg leading]
  omega

section Rounding
variable {q : Rat} {e : Int} {k : Nat}

/-- A power of two is a whole number of units that are not greater. -/
theorem two_pow_div_unit (place : e ≤ k) : (2 ^ k : Rat) / 2 ^ e = (2 ^ (k - e).toNat : Int) := by
  have exponent : ((k - e).toNat : Int) = k - e := Int.toNat_of_nonneg (by omega)
  push_cast
  rw [← zpow_natCast _ (k - e).toNat, exponent, zpow_sub₀ two_ne_zero, zpow_natCast]

theorem rounded_le_two_pow (place : e ≤ k) (below : q ≤ 2 ^ k) :
    (Decimal.roundHalfEven (q / 2 ^ e) : Rat) * 2 ^ e ≤ 2 ^ k := by
  have unit : (0 : Rat) < 2 ^ e := by positivity
  rw [← le_div_iff₀ unit, two_pow_div_unit place, Int.cast_le]
  refine Decimal.roundHalfEven_le ?_
  rw [← two_pow_div_unit place]
  gcongr

theorem two_pow_le_rounded (place : e ≤ k) (above : 2 ^ k ≤ q) :
    (2 ^ k : Rat) ≤ Decimal.roundHalfEven (q / 2 ^ e) * 2 ^ e := by
  have unit : (0 : Rat) < 2 ^ e := by positivity
  rw [← div_le_iff₀ unit, two_pow_div_unit place, Int.cast_le]
  refine Decimal.le_roundHalfEven ?_
  rw [← two_pow_div_unit place]
  gcongr

variable (negative : Bool)

theorem round_eq (q : Rat) :
    round negative q =
      let rounded : Rat := (Decimal.roundHalfEven (q / 2 ^ lastPlace q) : Rat) * 2 ^ lastPlace q
      if rounded < 2 ^ 1024 then .finite negative rounded else .infinite negative := by
  simp only [round, scaled_one, zpow_ofNat]

/-- A number of whole units in the last place is held as it is. -/
theorem round_of_whole {z : Int} (whole : q / 2 ^ lastPlace q = z) (small : q < 2 ^ 1024) :
    round negative q = .finite negative q := by
  have unit : (2 : Rat) ^ lastPlace q ≠ 0 := by positivity
  have same : Decimal.roundHalfEven z = z :=
    le_antisymm (Decimal.roundHalfEven_le le_rfl) (Decimal.le_roundHalfEven le_rfl)
  have exact : (z : Rat) * 2 ^ lastPlace q = q := ((div_eq_iff unit).1 whole).symm
  simp only [round_eq, whole, same, exact, if_pos small]

/-- A number with no more bits than a significand, moved up by any number of places, is held as it is. -/
theorem round_of_digits {n m e : Nat} (digits : m < 2 ^ 53) (moved : n = m * 2 ^ e)
    (bounded : (n : Rat) < 2 ^ 1024) : round negative n = .finite negative n := by
  rcases n.eq_zero_or_pos with rfl | positive
  · exact round_of_whole negative (z := 0) (by simp) bounded
  · have leading : n.log2 < 53 + e := by
      rw [Nat.log2_lt positive.ne', moved, Nat.pow_add]
      exact Nat.mul_lt_mul_of_pos_right digits (Nat.two_pow_pos e)
    have place : lastPlace n ≤ e := by
      rw [lastPlace_natCast positive]
      omega
    refine round_of_whole negative (z := m * 2 ^ (e - lastPlace n).toNat) ?_ bounded
    have unit := two_pow_div_unit place
    rw [Int.cast_mul, ← unit, moved]
    push_cast
    rw [mul_div_assoc]

theorem round_of_lt {n : Nat} (small : n < 2 ^ 53) : round negative n = .finite negative n :=
  round_of_digits negative (e := 0) small (Nat.mul_one n).symm (by
    exact_mod_cast small.trans_le (Nat.pow_le_pow_right (by decide) (by decide)))

theorem round_between {n low high : Nat} (enough : 53 ≤ low) (few : high < 1024)
    (above : 2 ^ low ≤ n) (below : n ≤ 2 ^ high) :
    ∃ m : Nat, round negative n = .finite negative m ∧ 2 ^ low ≤ m ∧ m ≤ 2 ^ high := by
  have positive : 0 < n := (Nat.two_pow_pos low).trans_le above
  have leading : low ≤ n.log2 := (Nat.le_log2 positive.ne').2 above
  have place : lastPlace n = ((n.log2 - 52 : Nat) : Int) := by
    rw [lastPlace_natCast positive]
    omega
  have most : n.log2 ≤ high := (Nat.pow_le_pow_iff_right (by decide)).1
    ((Nat.log2_self_le positive.ne').trans below)
  have up : (Decimal.roundHalfEven (n / 2 ^ lastPlace n) : Rat) * 2 ^ lastPlace n ≤ 2 ^ high :=
    rounded_le_two_pow (by omega) (by exact_mod_cast below)
  have down : (2 ^ n.log2 : Rat) ≤ Decimal.roundHalfEven (n / 2 ^ lastPlace n) * 2 ^ lastPlace n :=
    two_pow_le_rounded (by omega) (by exact_mod_cast Nat.log2_self_le positive.ne')
  have finite : (2 ^ high : Rat) < 2 ^ 1024 := pow_lt_pow_right₀ (by norm_num) few
  have lowest : (2 ^ low : Rat) ≤ 2 ^ n.log2 := pow_le_pow_right₀ (by norm_num) leading
  obtain ⟨m, whole⟩ : ∃ m : Nat, (m : Rat) =
      Decimal.roundHalfEven (n / 2 ^ lastPlace n) * 2 ^ lastPlace n := by
    have nonneg : 0 ≤ Decimal.roundHalfEven ((n : Rat) / 2 ^ lastPlace n) :=
      Decimal.le_roundHalfEven (by rw [Int.cast_zero]; positivity)
    obtain ⟨z, rounded⟩ := Int.eq_ofNat_of_zero_le nonneg
    refine ⟨z * 2 ^ (n.log2 - 52), ?_⟩
    rw [rounded, place, zpow_natCast]
    push_cast
    rfl
  rw [← whole] at up down
  refine ⟨m, ?_, by exact_mod_cast lowest.trans down, by exact_mod_cast up⟩
  simp only [round_eq, ← whole, if_pos (up.trans_lt finite)]

end Rounding

theorem ofInt_natCast (n : Nat) : ofInt n = round false n := by
  have sign : decide ((n : Int) < 0) = false := decide_eq_false (by omega)
  rw [ofInt, sign, Int.natAbs_natCast]

/-- The integer part of a product with one is that of the number as it is held. -/
theorem truncate_mul_one {n m k : Nat} (held : round false n = .finite false m)
    (product : round false m = .finite false k) :
    Quantity.truncate (Quantity.mul (.ofInt n) (.ofInt 1) : Binary64) = .ok (k : Int) := by
  have one : ofInt (1 : Nat) = .finite false 1 := by
    rw [ofInt_natCast, round_of_lt false (by decide), Nat.cast_one]
  have cut : Quantity.mul (Binary64.ofInt n) (.ofInt 1) = Binary64.finite false k := by
    change Binary64.mul (ofInt n) (ofInt (1 : Nat)) = _
    rw [ofInt_natCast, held, one, mul, Bool.xor_self, mul_one, product]
  rw [cut]
  change Except.ok (((k : Rat).num).tdiv (k : Rat).den) = _
  rw [Rat.num_natCast, Rat.den_natCast, Nat.cast_one, Int.tdiv_one]

variable {n : Nat}

theorem truncate_second_of_digits {m e : Nat} (digits : m < 2 ^ 53) (moved : n = m * 2 ^ e)
    (bounded : (n : Rat) < 2 ^ 1024) :
    Quantity.truncate (Quantity.mul (.ofInt n) (.ofInt 1) : Binary64) = .ok (n : Int) :=
  have held := round_of_digits false digits moved bounded
  truncate_mul_one held held

theorem truncate_second_of_lt (small : n < 2 ^ 53) :
    Quantity.truncate (Quantity.mul (.ofInt n) (.ofInt 1) : Binary64) = .ok (n : Int) :=
  truncate_mul_one (round_of_lt false small) (round_of_lt false small)

theorem truncate_second_between {low high : Nat} (enough : 53 ≤ low) (few : high < 1024)
    (above : 2 ^ low ≤ n) (below : n ≤ 2 ^ high) :
    ∃ k : Nat, Quantity.truncate (Quantity.mul (.ofInt n) (.ofInt 1) : Binary64) = .ok (k : Int) ∧
      2 ^ low ≤ k ∧ k ≤ 2 ^ high := by
  obtain ⟨m, held, above', below'⟩ := round_between false enough few above below
  obtain ⟨k, product, bounds⟩ := round_between false enough few above' below'
  exact ⟨k, truncate_mul_one held product, bounds⟩

end Binary64
end Chip8
