/-! Integers that fit into the signed words of a host. -/
namespace Chip8

/-- Whether an integer has a signed form of 32 bits. -/
def fitsWord32 (v : Int) : Bool := -0x80000000 ≤ v && v < 0x80000000

/-- Whether an integer has a signed form of 64 bits. -/
def fitsWord64 (v : Int) : Bool := -0x8000000000000000 ≤ v && v < 0x8000000000000000

end Chip8
