import Mathlib.Algebra.Order.Field.Basic
import Mathlib.Data.List.Basic
import Mathlib.Tactic.FieldSimp
import Mathlib.Tactic.Linarith
import Mathlib.Tactic.Ring

/-!
Two tests on the elements of a list, and the ratios that the four counts make.  A ratio
over an empty class is zero, as a quotient of a field by zero is.
-/

namespace RevenueGuard.Library.Contingency

/-! ## Counts -/

section Counts

variable {ρ : Type*}

/-- Every element passes both tests, the first only, the second only, or none. -/
theorem count_partition (xs : List ρ) (p q : ρ → Bool) :
    xs.countP (fun x => p x && q x) + xs.countP (fun x => p x && !q x) + xs.countP (fun x => !p x && q x) +
      xs.countP (fun x => !p x && !q x) = xs.length := by
  induction xs with
  | nil => rfl
  | cons x xs ih =>
    simp only [List.countP_cons, List.length_cons, ← ih]
    cases p x <;> cases q x <;> simp <;> omega

end Counts

/-! ## Ratios -/

section Ratios

variable {α : Type*} [Field α] [LinearOrder α] [IsStrictOrderedRing α] {tp fp fn : α}

/-- The harmonic mean of precision and recall, over one denominator. -/
theorem harmonic_mean (true_pos : 0 ≤ tp) (false_pos : 0 ≤ fp) (false_neg : 0 ≤ fn) :
    2 * (tp / (tp + fp)) * (tp / (tp + fn)) / (tp / (tp + fp) + tp / (tp + fn)) =
      2 * tp / (2 * tp + fp + fn) := by
  rcases true_pos.eq_or_lt with none | some_
  · simp [← none]
  · have precision : 0 < tp + fp := by linarith
    have recalled : 0 < tp + fn := by linarith
    have sum : 0 < 2 * tp + fp + fn := by linarith
    field_simp
    ring

end Ratios

end RevenueGuard.Library.Contingency
