import Mathlib.Data.List.Basic

/-!
Words that are cut into groups from the right.  All groups but the first have one size, and
joined by a separator they give the word back when the separators are taken out.
-/

namespace RevenueGuard.Library.Grouping

variable {α : Type*} {size : ℕ} {groups : List (List α)} {group last : List α} {c : α}

/-- All groups have the size, the first excepted, which may be shorter. -/
def Cut (size : ℕ) : List (List α) → Prop
  | [] => True
  | first :: rest => (1 ≤ first.length ∧ first.length ≤ size) ∧ ∀ group ∈ rest, group.length = size

/-- A longer word has one more group at its end. -/
theorem cut_snoc (cut : Cut size groups) (nonempty : groups ≠ []) (exact_ : group.length = size) :
    Cut size (groups ++ [group]) := by
  cases groups with
  | nil => exact absurd rfl nonempty
  | cons first rest =>
    refine ⟨cut.1, fun group' listed => ?_⟩
    rcases List.mem_append.mp listed with before | here
    · exact cut.2 group' before
    · rw [List.mem_singleton.mp here, exact_]

theorem cut_singleton (some_ : 1 ≤ group.length) (within : group.length ≤ size) : Cut size [group] :=
  ⟨⟨some_, within⟩, fun _ listed => absurd listed List.not_mem_nil⟩

/-! ## Joined groups -/

theorem joined_snoc (nonempty : groups ≠ []) :
    [c].intercalate (groups ++ [last]) = [c].intercalate groups ++ c :: last := by
  induction groups with
  | nil => exact absurd rfl nonempty
  | cons first rest ih =>
    cases rest with
    | nil => simp [List.intercalate_cons_cons]
    | cons second rest =>
      have ih := ih (List.cons_ne_nil second rest)
      rw [List.cons_append] at ih
      rw [List.cons_append, List.cons_append, List.intercalate_cons_cons, ih, List.intercalate_cons_cons]
      simp

variable [DecidableEq α]

/-- Joined groups without their separators are the word. -/
theorem filter_joined (plain : ∀ group ∈ groups, c ∉ group) :
    ([c].intercalate groups).filter (· ≠ c) = groups.flatten := by
  have kept {group : List α} (plain : c ∉ group) : group.filter (· ≠ c) = group :=
    List.filter_eq_self.mpr fun x listed => decide_eq_true fun same => plain (same ▸ listed)
  induction groups with
  | nil => rfl
  | cons first rest ih =>
    have firstKept := kept (plain first List.mem_cons_self)
    have ih := ih fun group listed => plain group (List.mem_cons_of_mem _ listed)
    cases rest with
    | nil => simpa using firstKept
    | cons second rest =>
      rw [List.intercalate_cons_cons, List.filter_append, List.filter_append, ih, firstKept, List.flatten_cons]
      simp

end RevenueGuard.Library.Grouping
