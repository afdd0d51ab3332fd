import Mathlib

/-!
# Partial maps with one changed entry
-/

namespace Anytty.Data

open Function

variable {α β : Type} [DecidableEq α] {f : α → Option β} {a a' : α}

/-- An entry of an updated map is the new one or an old one. -/
theorem update_eq_some {x : Option β} {y : β} (h : update f a x a' = some y) :
    a' = a ∧ x = some y ∨ a' ≠ a ∧ f a' = some y := by
  by_cases same : a' = a
  · rw [same, update_self] at h
    exact .inl ⟨same, h⟩
  · rw [update_of_ne same] at h
    exact .inr ⟨same, h⟩

/-- What holds of the new entry and of the others. -/
theorem forall_update_some {x : β} {P : α → β → Prop} (self : P a x)
    (others : ∀ a', a' ≠ a → ∀ y, f a' = some y → P a' y) (a' : α) (y : β)
    (found : update f a (some x) a' = some y) : P a' y := by
  rcases update_eq_some found with ⟨rfl, new⟩ | ⟨ne, old⟩
  · exact Option.some.inj new ▸ self
  · exact others a' ne y old

end Anytty.Data
