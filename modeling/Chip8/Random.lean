/-! The random source: a counter-based generator that is advanced by splitting its key.
A key determines both the next key and the byte drawn at that point, so the n-th byte
depends on the seed and on n alone. -/
namespace Chip8

/-- Two words: a key, a counter or an output of the block function. -/
structure WordPair where
  fst : UInt32
  snd : UInt32
deriving DecidableEq, Repr, Inhabited

namespace Threefry

def rotateLeft (w : UInt32) (r : UInt32) : UInt32 :=
  (w <<< r) ||| (w >>> (32 - r))

def mix (b : WordPair) (r : UInt32) : WordPair :=
  let sum := b.fst + b.snd
  ⟨sum, rotateLeft b.snd r ^^^ sum⟩

/-- Third word of the key schedule, tied to the key by a fixed parity constant. -/
def parityWord (key : WordPair) : UInt32 :=
  key.fst ^^^ key.snd ^^^ 0x1BD11BDA

def inject (b : WordPair) (first second round : UInt32) : WordPair :=
  ⟨b.fst + first, b.snd + second + round⟩

def evenRotations : List UInt32 := [13, 15, 26, 6]
def oddRotations : List UInt32 := [17, 29, 16, 24]

/-- The twenty-round block function: four mixing rounds between key injections. -/
def block (key counter : WordPair) : WordPair :=
  let k0 := key.fst
  let k1 := key.snd
  let k2 := parityWord key
  let b := inject counter k0 k1 0
  let b := inject (evenRotations.foldl mix b) k1 k2 1
  let b := inject (oddRotations.foldl mix b) k2 k0 2
  let b := inject (evenRotations.foldl mix b) k0 k1 3
  let b := inject (oddRotations.foldl mix b) k1 k2 4
  inject (evenRotations.foldl mix b) k2 k0 5

end Threefry

/-- Seeds are the integers of 64 bits. -/
structure Seed where
  val : Int
  ge : -0x8000000000000000 ≤ val := by decide
  lt : val < 0x8000000000000000 := by decide
deriving DecidableEq, Repr

namespace Seed

def ofInt? (v : Int) : Option Seed :=
  if h : -0x8000000000000000 ≤ v ∧ v < 0x8000000000000000 then some ⟨v, h.1, h.2⟩ else none

theorem ofInt?_val (seed : Seed) : ofInt? seed.val = some seed := dif_pos ⟨seed.ge, seed.lt⟩

instance : Inhabited Seed := ⟨{ val := 0 }⟩

end Seed

structure Random where
  key : WordPair
deriving DecidableEq, Repr, Inhabited

namespace Random

/-- Only the low word of the seed enters the key. -/
def ofSeed (s : Seed) : Random :=
  ⟨⟨0, UInt32.ofNat (s.val % 0x100000000).toNat⟩⟩

def next (r : Random) : Random :=
  ⟨Threefry.block r.key ⟨0, 0⟩⟩

/-- The byte drawn at this point, from the second half of the split key. -/
def byte (r : Random) : UInt8 :=
  let half := Threefry.block r.key ⟨0, 1⟩
  let draw := Threefry.block (Threefry.block half ⟨0, 1⟩) ⟨0, 0⟩
  (draw.fst ^^^ draw.snd).toUInt8

end Random
end Chip8
