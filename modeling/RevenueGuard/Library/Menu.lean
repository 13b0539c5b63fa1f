import Mathlib.Algebra.Order.BigOperators.Group.List
import Mathlib.Algebra.Order.Ring.Int

/-!
Rows under distinct keys that all come from one list of possible keys.  There are at most as
many rows as possible keys, and what the rows cost by their keys is at most what the whole list
costs.
-/

namespace RevenueGuard.Library.Menu

variable {ρ κ : Type*} {key : ρ → κ} {rows : List ρ} {menu : List κ} {cost : κ → ℤ}

theorem length_le_menu (unique : (rows.map key).Nodup) (listed : ∀ r ∈ rows, key r ∈ menu) :
    rows.length ≤ menu.length := by
  rw [← List.length_map key]
  apply unique.length_le_of_subset
  intro k known
  obtain ⟨r, member, rfl⟩ := List.mem_map.mp known
  exact listed r member

theorem sum_le_menu (unique : (rows.map key).Nodup) (listed : ∀ r ∈ rows, key r ∈ menu)
    (free : ∀ k ∈ menu, 0 ≤ cost k) : (rows.map fun r => cost (key r)).sum ≤ (menu.map cost).sum := by
  have within : rows.map key ⊆ menu := by
    intro k known
    obtain ⟨r, member, rfl⟩ := List.mem_map.mp known
    exact listed r member
  obtain ⟨chosen, perm, sub⟩ := List.subperm_of_subset unique within
  have paid : ∀ amount ∈ menu.map cost, 0 ≤ amount := by
    intro amount known
    obtain ⟨k, member, rfl⟩ := List.mem_map.mp known
    exact free k member
  calc (rows.map fun r => cost (key r)).sum = ((rows.map key).map cost).sum := by
        rw [List.map_map, Function.comp_def]
    _ = (chosen.map cost).sum := ((perm.map cost).sum_eq).symm
    _ ≤ (menu.map cost).sum := (sub.map cost).sum_le_sum paid

/-- A menu of rounds, each with the same offers. -/
theorem sum_rounds {ο : Type*} (offers : List ο) (make : ℕ → ο → κ) (rounds : ℕ) (price : ο → ℤ)
    (priced : ∀ n offer, cost (make n offer) = price offer) :
    (((List.range rounds).flatMap fun n => offers.map (make n)).map cost).sum =
      rounds * (offers.map price).sum := by
  induction rounds with
  | zero => simp
  | succ rounds ih =>
    have round : (offers.map (make rounds)).map cost = offers.map price := by
      rw [List.map_map]
      exact List.map_congr_left fun offer _ => priced rounds offer
    rw [List.range_succ, List.flatMap_append, List.map_append, List.sum_append, ih, List.flatMap_singleton,
      round]
    rw [Nat.cast_succ, add_mul, one_mul]

theorem length_rounds {ο : Type*} (offers : List ο) (make : ℕ → ο → κ) (rounds : ℕ) :
    ((List.range rounds).flatMap fun n => offers.map (make n)).length = rounds * offers.length := by
  simp [List.length_flatMap]

end RevenueGuard.Library.Menu
