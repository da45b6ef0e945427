import Chip8.Pacing.Quantity

/-! How many instructions and timer ticks are due at a clock reading. Counts are taken from the
whole time since the start less what was handed out, so rounding does not add up. A backlog of
ticks longer than the allowed lag is dropped. -/
namespace Chip8

structure Scheduler (τ : Type) where
  cpuRate : τ
  timerRate : τ
  maxLag : τ
  start : τ
  steps : Int := 0
  ticks : Int := 0

structure Due where
  steps : Int
  ticks : Int
deriving DecidableEq, Repr

namespace Scheduler

variable {τ : Type} [Quantity τ]

def ofRates (cpuRate timerRate maxLag start : τ) : Except Error (Scheduler τ) :=
  if Quantity.isPositive cpuRate && Quantity.isPositive timerRate then
    .ok { cpuRate, timerRate, maxLag, start }
  else .error .ratesNotPositive

/-- Forgets any backlog and counts from now on. -/
def resync (s : Scheduler τ) (now : τ) : Scheduler τ :=
  { s with start := now, steps := 0, ticks := 0 }

/-- Hands out the work that is due and has not been handed out before. -/
def advance (s : Scheduler τ) (now : τ) : Except Error (Scheduler τ × Due) := do
  let elapsed := Quantity.sub now s.start
  let steps := (← Quantity.floor (Quantity.mul elapsed s.cpuRate)) - s.steps
  let ticks := (← Quantity.floor (Quantity.mul elapsed s.timerRate)) - s.ticks
  if Quantity.isBelow (Quantity.mul s.maxLag s.timerRate) ticks then
    return (s.resync now, ⟨0, 0⟩)
  let due : Due := ⟨max 0 steps, max 0 ticks⟩
  return ({ s with steps := s.steps + due.steps, ticks := s.ticks + due.ticks }, due)

end Scheduler
end Chip8
