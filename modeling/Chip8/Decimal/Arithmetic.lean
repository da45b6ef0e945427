import Chip8.Decimal.Fixed

/-! Arithmetic on 64-bit floating point numbers with all its rounding. A result is the nearest number to the
exact one; of two equally near ones that whose last bit is zero. -/
namespace Chip8.Binary64

/-- Power of two that the last bit stands for in numbers near a positive one. -/
def lastPlace (q : Rat) : Int :=
  let power : Int := q.num.natAbs.log2 - q.den.log2
  max ((if q < scaled 1 power then power - 1 else power) - 52) (-1074)

/-- The nearest number to a magnitude with a sign. Beyond the greatest one there is only infinity. -/
def round (negative : Bool) (magnitude : Rat) : Binary64 :=
  let unit := scaled 1 (lastPlace magnitude)
  let rounded := Decimal.roundHalfEven (magnitude / unit) * unit
  if rounded < scaled 1 1024 then .finite negative rounded else .infinite negative

def ofInt (n : Int) : Binary64 := round (n < 0) n.natAbs

/-- Equal numbers differ by zero, which is negative only for zeros with different signs. -/
def sub : Binary64 → Binary64 → Binary64
  | finite s a, finite t b =>
      let difference := signed s a - signed t b
      if difference = 0 then .finite (s && !t) 0
      else if difference < 0 then round true (-difference)
      else round false difference
  | finite _ _, infinite t => .infinite (!t)
  | infinite s, finite _ _ => .infinite s
  | infinite s, infinite t => if s = t then .nan else .infinite s
  | nan, _ | _, nan => .nan

def mul : Binary64 → Binary64 → Binary64
  | finite s a, finite t b => round (s ^^ t) (a * b)
  | finite s a, infinite t | infinite t, finite s a => if a = 0 then .nan else .infinite (s ^^ t)
  | infinite s, infinite t => .infinite (s ^^ t)
  | nan, _ | _, nan => .nan

def div : Binary64 → Binary64 → Binary64
  | finite s a, finite t b =>
      if b ≠ 0 then round (s ^^ t) (a / b) else if a = 0 then .nan else .infinite (s ^^ t)
  | finite s _, infinite t => .finite (s ^^ t) 0
  | infinite s, finite t _ => .infinite (s ^^ t)
  | infinite _, infinite _ => .nan
  | nan, _ | _, nan => .nan

/-- An undefined number is not at or below zero. -/
def isPositive : Binary64 → Bool
  | finite negative magnitude => 0 < signed negative magnitude
  | infinite negative => !negative
  | nan => true

def isZero : Binary64 → Bool
  | finite _ magnitude => magnitude = 0
  | _ => false

end Chip8.Binary64
