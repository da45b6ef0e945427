import Chip8.Machine

/-! Runs of operations on a machine, with everything its observer has seen. -/
namespace Chip8

structure Session where
  machine : Machine
  seen : Array Event := #[]

namespace Session

def perform (s : Session) (op : Operation) : Session × Option Error :=
  let r := s.machine.apply op
  (⟨r.machine, s.seen ++ r.events⟩, r.error?)

def performAll (s : Session) (ops : List Operation) : Session × Option Error :=
  Operation.runAll perform s ops

end Session
end Chip8
