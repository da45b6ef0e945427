import Chip8.Pacing.Quantity
import Chip8.Session

/-! Runs without a window: instructions as fast as possible, with the timer ticks that a window
would have made in between. -/
namespace Chip8

structure Rates (τ : Type) where
  cpu : τ
  timer : τ

namespace Rates

variable {τ : Type} [Quantity τ]

/-- Ticks that belong before the instruction after the first `steps`. -/
def ticksAfter (r : Rates τ) (steps : Nat) : Except Error Int :=
  if Quantity.isZero r.cpu then .error .divisionByZeroRate
  else Quantity.floor (Quantity.div (Quantity.mul (Quantity.ofInt steps) r.timer) r.cpu)

end Rates

namespace Session

variable {τ : Type} [Quantity τ]

/-- Performs ticks until `due` have been made, counting those made before. -/
def catchUp (s : Session) (made : Nat) (due : Int) : Session × Nat :=
  let missing := (due - made).toNat
  ((s.performAll (List.replicate missing .tick)).1, made + missing)

/-- Executes `left` more instructions after the first `steps`, and returns their number. -/
def runFrom (r : Rates τ) (s : Session) (steps made : Nat) : Nat → Session × Except Error Nat
  | 0 => (s, .ok steps)
  | left + 1 =>
      match s.perform .step with
      | (s, some e) => (s, .error e)
      | (s, none) =>
          match r.ticksAfter (steps + 1) with
          | .error e => (s, .error e)
          | .ok due =>
              let (s, made) := s.catchUp made due
              runFrom r s (steps + 1) made left

/-- Executes up to `cycles` instructions; none when the number is negative. -/
def runHeadless (s : Session) (r : Rates τ) (cycles : Int) : Session × Except Error Nat :=
  s.runFrom r 0 0 cycles.toNat

end Session
end Chip8
