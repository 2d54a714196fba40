import Mathlib.Tactic.TypeStar

/-!
# Computations that may fail

A computation in two parts succeeds if both parts do, and fails as the part that fails.
-/

namespace Fallible

universe u

variable {Error : Type*} {α β : Type u} {first : Except Error α} {rest : α → Except Error β}

/-- A computation in two parts succeeds through its first part. -/
theorem bind_eq_ok {b : β} : (first >>= rest) = .ok b ↔ ∃ a, first = .ok a ∧ rest a = .ok b := by
  cases first <;> simp [bind, Except.bind]

/-- A computation in two parts raises what its first part raises, or else what the rest does. -/
theorem bind_eq_error {error : Error} :
    (first >>= rest) = .error error ↔ first = .error error ∨ ∃ a, first = .ok a ∧ rest a = .error error := by
  cases first <;> simp [bind, Except.bind]

end Fallible
