import Mathlib.Algebra.Order.Group.Int
import Mathlib.Data.Bool.Count
import Mathlib.Data.List.Induction

/-!
Two sides that score against each other, each with a goal of its own.  The side
that reaches its goal first wins, and what is scored later changes nothing: `First`
looks at the order in which the points came, and not at their sums.
-/

namespace RevenueGuard.Library.Race

variable {side : Bool} {goal other : ℤ} {points later : List Bool}

/-- The side reached its goal while the other side had not reached its own. -/
def First (side : Bool) (goal other : ℤ) (points : List Bool) : Prop :=
  ∃ early, early <+: points ∧ goal ≤ early.count side ∧ (early.count (!side) : ℤ) < other

theorem first_append (first : First side goal other points) : First side goal other (points ++ later) := by
  obtain ⟨early, before, reached, short⟩ := first
  exact ⟨early, before.trans (List.prefix_append ..), reached, short⟩

theorem first_reached (first : First side goal other points) : goal ≤ points.count side := by
  obtain ⟨early, before, reached, _⟩ := first
  have := before.sublist.count_le side
  omega

theorem count_prefix {early late : List Bool} (before : early <+: late) (side : Bool) :
    (early.count side : ℤ) ≤ late.count side :=
  Int.ofNat_le.mpr (before.sublist.count_le side)

/-- Only one side is first. -/
theorem first_exclusive (first : First side goal other points) : ¬ First (!side) other goal points := by
  rintro ⟨late, before', reached', short'⟩
  obtain ⟨early, before, reached, short⟩ := first
  rw [Bool.not_not] at short'
  rcases List.prefix_or_prefix_of_prefix before before' with order | order
  · have := count_prefix order side
    omega
  · have := count_prefix order (!side)
    omega

/-- Where a side has reached its goal, one of the two was first. -/
theorem first_or (positive : 0 < goal) (reached : goal ≤ points.count side) :
    First side goal other points ∨ First (!side) other goal points := by
  induction points using List.reverseRecOn with
  | nil =>
    rw [List.count_nil] at reached
    omega
  | append_singleton points point ih =>
    by_cases already : goal ≤ points.count side
    · exact (ih already).imp first_append first_append
    · -- The last point is the one that reaches the goal, so it did not score for the other side.
      have scored : point = side := by
        by_contra missed
        rw [List.count_append, List.count_singleton, beq_false_of_ne missed] at reached
        exact already (by simpa using reached)
      subst scored
      by_cases short : (points.count (!point) : ℤ) < other
      · refine .inl ⟨points ++ [point], List.prefix_refl _, reached, ?_⟩
        simpa [List.count_append, List.count_singleton] using short
      · refine .inr ⟨points, List.prefix_append .., not_lt.mp short, ?_⟩
        rw [Bool.not_not]
        exact not_le.mp already

/-- So many points that they cannot all fall short decide the race. -/
theorem decided_of_length (long : goal + other ≤ points.length + 1) :
    goal ≤ points.count side ∨ other ≤ points.count (!side) := by
  have total : (points.count (!side) + points.count side : ℤ) = points.length := by
    exact_mod_cast List.count_not_add_count points side
  omega

end RevenueGuard.Library.Race
