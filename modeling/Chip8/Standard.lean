import Chip8.Pacing.Quantity

/-! What a host uses when it is not told otherwise. -/
namespace Chip8.Standard

/-- Instructions per second. -/
def cpuRate : Float := 700

/-- Timer ticks per second. -/
def timerRate : Float := 60

/-- Longest stall, in seconds, whose work is made up for: a quarter of one. -/
def maxLag {τ : Type} [Quantity τ] : τ := Quantity.div (Quantity.ofInt 1) (Quantity.ofInt 4)

def beepFrequency : Int := 500

/-- Part of the full amplitude: a fifth. -/
def volume {τ : Type} [Quantity τ] : τ := Quantity.div (Quantity.ofInt 1) (Quantity.ofInt 5)

/-- Length of a sound in seconds. -/
def soundLength {τ : Type} [Quantity τ] : τ := Quantity.ofInt 1

/-- Pixels per cell in each direction. -/
def scale : Int := 8

def scheme : String := "classic"

/-- Name of the program in logs and titles. -/
def programName : String := "chipvm"

end Chip8.Standard
