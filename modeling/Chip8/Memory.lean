/-! The 4 KiB address space. Reads past the end see the last byte and writes past the end are dropped. -/
namespace Chip8

def memorySize : Nat := 0x1000

def lastAddress : Nat := memorySize - 1

structure Memory where
  bytes : Vector UInt8 memorySize
deriving DecidableEq

namespace Memory

def zero : Memory := ⟨.replicate memorySize 0⟩

instance : Inhabited Memory := ⟨zero⟩

def read (m : Memory) (address : Nat) : UInt8 :=
  have within : min address lastAddress < memorySize := by unfold lastAddress memorySize; omega
  m.bytes[min address lastAddress]

def write (m : Memory) (address : Nat) (b : UInt8) : Memory :=
  ⟨m.bytes.setIfInBounds address b⟩

/-- Consecutive bytes from an address upwards. -/
def writeBlock (m : Memory) (address : Nat) : List UInt8 → Memory
  | [] => m
  | b :: rest => (m.write address b).writeBlock (address + 1) rest

/-- The big-endian word at an address whose successor is `following`. -/
def readWord (m : Memory) (address following : Nat) : UInt16 :=
  ((m.read address).toUInt16 <<< 8) ||| (m.read following).toUInt16

/-- The first byte of a word is its high one. -/
theorem toNat_readWord (m : Memory) (address following : Nat) :
    (m.readWord address following).toNat =
      256 * (m.read address).toNat + (m.read following).toNat := by
  have high : (m.read address).toNat < 256 := UInt8.toNat_lt _
  have low : (m.read following).toNat < 2 ^ 8 := UInt8.toNat_lt _
  have shifted : (m.read address).toNat <<< 8 % 2 ^ 16 = 2 ^ 8 * (m.read address).toNat := by
    rw [Nat.shiftLeft_eq]
    omega
  calc (m.readWord address following).toNat
      = (m.read address).toNat <<< 8 % 2 ^ 16 ||| (m.read following).toNat := by simp [readWord]
    _ = 2 ^ 8 * (m.read address).toNat ||| (m.read following).toNat := by rw [shifted]
    _ = 256 * (m.read address).toNat + (m.read following).toNat :=
      (Nat.two_pow_add_eq_or_of_lt low _).symm

theorem read_eq_getElem (m : Memory) {address : Nat} (within : address < memorySize) :
    m.read address = m.bytes[address] := by
  have clamp : min address lastAddress = address := by
    unfold lastAddress; omega
  simp only [read, clamp]

theorem read_write (m : Memory) (address : Nat) (b : UInt8) {other : Nat}
    (within : other < memorySize) :
    (m.write address b).read other = if address = other then b else m.read other := by
  rw [read_eq_getElem _ within, read_eq_getElem _ within]
  exact Vector.getElem_setIfInBounds within

/-- A block changes the bytes that it covers and no others. -/
theorem read_writeBlock (m : Memory) (address : Nat) (block : List UInt8) {other : Nat}
    (within : other < memorySize) :
    (m.writeBlock address block).read other =
      if address ≤ other then block.getD (other - address) (m.read other) else m.read other := by
  induction block generalizing m address with
  | nil => simp [writeBlock]
  | cons b rest ih =>
    rw [writeBlock, ih, read_write _ _ _ within]
    by_cases first : address = other
    · simp [first, show ¬ other + 1 ≤ other by omega]
    · by_cases after : address ≤ other
      · obtain ⟨k, rfl⟩ : ∃ k, other = address + 1 + k := ⟨other - (address + 1), by omega⟩
        simp [first, show address + 1 + k - address = k + 1 by omega,
          show address ≤ address + 1 + k by omega]
      · simp [first, after, show ¬ address + 1 ≤ other by omega]

theorem ext_read {m n : Memory} (same : ∀ a, a < memorySize → m.read a = n.read a) : m = n := by
  obtain ⟨m⟩ := m
  obtain ⟨n⟩ := n
  refine congrArg Memory.mk (Vector.ext fun a ha => ?_)
  have h := same a ha
  rwa [read_eq_getElem _ ha, read_eq_getElem _ ha] at h

end Memory
end Chip8
