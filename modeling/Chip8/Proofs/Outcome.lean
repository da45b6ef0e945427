import Chip8.Error

/-! What holds of the outcome of a computation that may fail, from what holds of its parts. -/
namespace Chip8

/-- One thing holds of the value of a computation, or another of its error. -/
def Ends {α : Type} (value : α → Prop) (failure : Error → Prop) : Except Error α → Prop
  | .ok a => value a
  | .error e => failure e

namespace Ends
variable {α β : Type} {P : α → Prop} {Q : β → Prop} {failure : Error → Prop}

theorem bind {x : Except Error α} {next : α → Except Error β} (first : Ends P failure x)
    (later : ∀ a, P a → Ends Q failure (next a)) : Ends Q failure (x >>= next) := by
  cases x with
  | ok a => exact later a first
  | error e => exact first

theorem ite {p : Prop} [Decidable p] {x y : Except Error α} (first : Ends P failure x)
    (second : Ends P failure y) : Ends P failure (if p then x else y) := by
  split <;> assumption

/-- Whatever the value is, it is that of the computation. -/
theorem value (x : Except Error α) : Ends (fun a => x = .ok a) (fun _ => True) x := by
  cases x with
  | ok a => rfl
  | error e => trivial

end Ends
end Chip8
