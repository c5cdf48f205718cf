import Mathlib.Tactic.Common

/-!
# Results of steps that may fail

When a computation made of steps that may fail gives a result, so did its steps, and what a fault is
turned into does not matter.
-/

namespace ConfigBinding

variable {ε ε' α β : Type}

theorem bind_eq_ok {result : Except ε α} {next : α → Except ε β} {b : β} :
    (result >>= next) = .ok b ↔ ∃ a, result = .ok a ∧ next a = .ok b := by
  cases result with
  | error fault => exact ⟨nofun, fun ⟨_, failed, _⟩ => nomatch failed⟩
  | ok a =>
    constructor
    · exact fun found => ⟨a, rfl, found⟩
    · rintro ⟨_, ⟨⟩, found⟩
      exact found

theorem map_eq_ok {result : Except ε α} {change : α → β} {b : β} :
    result.map change = .ok b ↔ ∃ a, result = .ok a ∧ change a = b := by
  cases result with
  | error fault => exact ⟨nofun, fun ⟨_, failed, _⟩ => nomatch failed⟩
  | ok a => simp [Except.map]

theorem mapError_eq_ok {result : Except ε α} {explain : ε → ε'} {a : α} :
    result.mapError explain = .ok a ↔ result = .ok a := by
  cases result with
  | error fault => exact ⟨nofun, nofun⟩
  | ok _ => simp [Except.mapError]

/-- What is not given in place of a result was the result. -/
theorem eq_ok_of_getD_ne {result : Except ε α} {other : α}
    (different : result.toOption.getD other ≠ other) :
    result = .ok (result.toOption.getD other) := by
  cases result with
  | error fault => exact absurd rfl different
  | ok a => rfl

end ConfigBinding
