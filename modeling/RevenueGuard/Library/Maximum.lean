import Mathlib.Data.List.MinMax

/-!
`max(items, key=…)`, which keeps the first of several largest items and raises without any.
-/

namespace RevenueGuard.Library.Maximum

universe u v

variable {α : Type u} {β : Type v} [LinearOrder β] {key : α → β} {items : List α}

def maxBy (key : α → β) (items : List α) : Except String α :=
  match items.argmax key with
  | some best => .ok best
  | none => .error "max() arg is an empty sequence"

theorem max_by_ok (key : α → β) (nonempty : items ≠ []) :
    ∃ best ∈ items, maxBy key items = .ok best ∧ ∀ other ∈ items, key other ≤ key best := by
  cases found : items.argmax key with
  | none => exact absurd (List.argmax_eq_none.mp found) nonempty
  | some best =>
    refine ⟨best, List.argmax_mem found, by rw [maxBy, found], fun other listed => ?_⟩
    exact List.le_of_mem_argmax listed found

end RevenueGuard.Library.Maximum
