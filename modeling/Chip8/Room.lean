/-! What a host has memory for. -/
namespace Chip8

/-- Whether there is memory for a wave of a number of samples, and for pictures at a scale. -/
structure Room where
  wave : Nat → Bool
  picture : Nat → Bool

/-- Memory for everything. -/
def Room.unlimited : Room := ⟨fun _ => true, fun _ => true⟩

end Chip8
