import Chip8.Decimal.Arithmetic
import Chip8.Error

/-! Numbers in which clocks and rates are measured. Machine numbers round and have infinities;
rational numbers are exact. The arithmetic of machine numbers can be had from the machine or step by step. -/
namespace Chip8

/-- Arithmetic on clock readings and rates, with integer parts that may not exist. -/
class Quantity (τ : Type) where
  ofInt : Int → τ
  sub : τ → τ → τ
  mul : τ → τ → τ
  div : τ → τ → τ
  /-- The exact value, where there is one. -/
  value : τ → Except NotInteger Rat
  /-- Whether a number is not at or below zero. An undefined number is not. -/
  isPositive : τ → Bool
  isZero : τ → Bool
  /-- Whether an integer is greater. -/
  isBelow : τ → Int → Bool

namespace Quantity

variable {τ : Type} [Quantity τ]

def floor (t : τ) : Except Error Int :=
  match value t with
  | .ok q => .ok q.floor
  | .error reason => .error (.notInteger reason)

/-- Integer part toward zero. -/
def truncate (t : τ) : Except Error Int :=
  match value t with
  | .ok q => .ok (q.num.tdiv q.den)
  | .error reason => .error (.notInteger reason)

end Quantity

namespace Binary64

def value : Binary64 → Except NotInteger Rat
  | finite negative magnitude => .ok (signed negative magnitude)
  | infinite _ => .error .infinite
  | nan => .error .undefined

/-- Compared exactly, without rounding the integer. -/
def isBelow : Binary64 → Int → Bool
  | finite negative magnitude, n => signed negative magnitude < n
  | infinite negative, _ => negative
  | nan, _ => false

end Binary64

instance : Quantity Float where
  ofInt n := Float.ofInt n
  sub a b := a - b
  mul a b := a * b
  div a b := a / b
  value t := (Binary64.ofFloat t).value
  isPositive t := !(t ≤ 0)
  isZero t := t == 0
  isBelow t n := (Binary64.ofFloat t).isBelow n

instance : Quantity Binary64 where
  ofInt := .ofInt
  sub := .sub
  mul := .mul
  div := .div
  value := Binary64.value
  isPositive := Binary64.isPositive
  isZero := Binary64.isZero
  isBelow := Binary64.isBelow

instance : Quantity Rat where
  ofInt n := n
  sub a b := a - b
  mul a b := a * b
  div a b := a / b
  value t := .ok t
  isPositive t := 0 < t
  isZero t := t = 0
  isBelow t n := t < n

end Chip8
