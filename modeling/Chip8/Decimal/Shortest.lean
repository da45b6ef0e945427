import Chip8.Decimal.Binary64
import Chip8.Decimal.Fixed

/-! The shortest decimal text from which a floating point number can be read back. -/
namespace Chip8.Decimal

/-- The numbers that round to one floating point number. -/
structure Interval where
  low : Rat
  high : Rat
  /-- Whether the ends belong to it. -/
  closed : Bool
deriving DecidableEq

namespace Interval

def contains (i : Interval) (q : Rat) : Bool :=
  if i.closed then i.low ≤ q && q ≤ i.high else i.low < q && q < i.high

/-- Half way to the neighbours on both sides. The lower neighbour of a power of two is nearer. -/
def ofBits (bits : Nat) : Interval :=
  let m := Binary64.significand bits
  let e := Binary64.exponent bits
  let nearer := m = Binary64.leadingOne ∧ Binary64.exponentField bits > 1
  let low :=
    if nearer then Binary64.scaled (4 * m - 1) (e - 2) else Binary64.scaled (2 * m - 1) (e - 1)
  ⟨low, Binary64.scaled (2 * m + 1) (e - 1), m % 2 = 0⟩

end Interval

def tenPow (k : Int) : Rat :=
  if 0 ≤ k then ((Nat.pow 10 k.toNat : Nat) : Rat) else mkRat 1 (Nat.pow 10 (-k).toNat)

/-- Digits as a whole number and the power of ten of the last one. -/
structure Scientific where
  digits : Nat
  exponent : Int
deriving DecidableEq, Repr

namespace Scientific

def value (s : Scientific) : Rat := s.digits * tenPow s.exponent

/-- The nearest number whose last digit stands at a power of ten. -/
def nearest (q : Rat) (k : Int) : Scientific := ⟨(roundHalfEven (q / tenPow k)).toNat, k⟩

/-- The numbers next to a positive number whose last digit stands at a power of ten. -/
def neighbours (q : Rat) (k : Int) : List Scientific :=
  let below := (q / tenPow k).floor.toNat
  [⟨below, k⟩, ⟨below + 1, k⟩]

/-- Among numbers whose last digit stands at a power of ten, the nearest one in an interval. -/
def select? (q : Rat) (i : Interval) (k : Int) : Option Scientific :=
  match (neighbours q k).filter (i.contains ·.value) with
  | [] => none
  | [only] => some only
  | _ => some (nearest q k)

/-- Tries places from the leading digit to the right. -/
def search (q : Rat) (i : Interval) (k : Int) : Nat → Scientific
  | 0 => nearest q k
  | fuel + 1 =>
      match select? q i k with
      | some s => s
      | none => search q i (k - 1) fuel

def trim (s : Scientific) : Nat → Scientific
  | 0 => s
  | fuel + 1 =>
      if s.digits ≠ 0 ∧ s.digits % 10 = 0 then trim ⟨s.digits / 10, s.exponent + 1⟩ fuel else s

end Scientific

/-- Number of decimal digits before the point, or minus the zeros that follow it. -/
def magnitudeOf (q : Rat) : Int :=
  if 1 ≤ q then (Nat.toDigits 10 q.floor.toNat).length
  else 1 - (Nat.toDigits 10 (1 / q).floor.toNat).length

/-- The fewest digits that read back; of several such numbers the nearest. Seventeen digits always
suffice, and up to two places are tried before the first of them. -/
def shortestDigits (bits : Nat) (q : Rat) : Scientific :=
  (Scientific.search q (.ofBits bits) (magnitudeOf q) 20).trim 20

/-- How numbers are laid out where formats differ. -/
structure Layout where
  /-- Whether a single digit before an exponent is followed by a point and a zero. -/
  pointBeforeExponent : Bool
  infinite : String
  undefined : String

def Layout.plain : Layout := ⟨false, "inf", "nan"⟩

def Layout.yaml : Layout := ⟨true, ".inf", ".nan"⟩

/-- Positional between 10^-4 and 10^16, otherwise with an exponent of two digits or more. -/
def Layout.magnitude (l : Layout) (s : Scientific) : String :=
  let digits := Nat.toDigits 10 s.digits
  let point : Int := digits.length + s.exponent
  let zeros (n : Int) := List.replicate n.toNat '0'
  if -4 < point ∧ point ≤ 16 then
    let whole := if point ≤ 0 then ['0'] else digits.take point.toNat ++ zeros s.exponent
    let fraction := if point ≤ 0 then zeros (-point) ++ digits else digits.drop point.toNat
    String.ofList (whole ++ '.' :: (if fraction.isEmpty then ['0'] else fraction))
  else
    let power := point - 1
    let fraction :=
      match digits.drop 1 with
      | [] => if l.pointBeforeExponent then ['.', '0'] else []
      | more => '.' :: more
    let sign := if power < 0 then '-' else '+'
    String.ofList (digits.take 1 ++ fraction ++ ['e', sign]) ++ padded 2 power.natAbs

/-- Text of any number. Integral values keep a point and a zero, and zero its sign. -/
def shortest (l : Layout) (f : Float) : String :=
  match Binary64.ofFloat f with
  | .finite negative q =>
      let body := if q = 0 then "0.0" else l.magnitude (shortestDigits f.toBits.toNat q)
      (if negative then "-" else "") ++ body
  | .infinite negative => (if negative then "-" else "") ++ l.infinite
  | .nan => l.undefined

end Chip8.Decimal
