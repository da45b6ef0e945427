/-! The exact value of a 64-bit floating point number, and its integer parts. -/
namespace Chip8

inductive Binary64 where
  | finite (negative : Bool) (magnitude : Rat)
  | infinite (negative : Bool)
  | nan
deriving DecidableEq

namespace Binary64

def scaled (significand : Nat) (exponent : Int) : Rat :=
  if 0 ≤ exponent then ((significand * Nat.pow 2 exponent.toNat : Nat) : Rat)
  else mkRat significand (Nat.pow 2 (-exponent).toNat)

/-- Place of the leading one that is not stored, above the 52 bits that are. -/
def leadingOne : Nat := 0x10000000000000

def isNegative (bits : Nat) : Bool := bits / 0x8000000000000000 % 2 = 1

def exponentField (bits : Nat) : Nat := bits / leadingOne % 2048

def fractionField (bits : Nat) : Nat := bits % leadingOne

/-- Whole significand. The smallest numbers have no leading one. -/
def significand (bits : Nat) : Nat :=
  if exponentField bits = 0 then fractionField bits else leadingOne + fractionField bits

/-- Power of two that goes with the significand. -/
def exponent (bits : Nat) : Int := max (exponentField bits) 1 - 1075

def ofBits (bits : Nat) : Binary64 :=
  if exponentField bits < 2047 then
    .finite (isNegative bits) (scaled (significand bits) (exponent bits))
  else if fractionField bits = 0 then .infinite (isNegative bits)
  else .nan

def ofFloat (f : Float) : Binary64 := ofBits f.toBits.toNat

def signed (negative : Bool) (magnitude : Rat) : Rat := if negative then -magnitude else magnitude

end Binary64
end Chip8
