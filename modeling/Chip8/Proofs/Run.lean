import Chip8.Session

/-! Sessions over operations of which some may be refused. -/
namespace Chip8.Session

def start (m : Machine) : Session := ⟨m, #[]⟩

/-- The session after an operation, refused or not. -/
def next (s : Session) (op : Operation) : Session := (s.perform op).1

def run (s : Session) (ops : List Operation) : Session := ops.foldl next s

variable {s : Session} {op : Operation}

theorem machine_next : (s.next op).machine = (s.machine.apply op).machine := rfl

theorem seen_next : (s.next op).seen.toList = s.seen.toList ++ (s.machine.apply op).events := by
  simp only [next, perform, Array.toList_appendList]

theorem run_invariant {P : Session → Prop} (preserves : ∀ s op, P s → P (s.next op))
    (initial : P s) (ops : List Operation) : P (s.run ops) := by
  induction ops generalizing s with
  | nil => exact initial
  | cons op rest ih => exact ih (preserves s op initial)

end Chip8.Session
