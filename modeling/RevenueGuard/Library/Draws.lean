import Mathlib.Data.List.Perm.Basic
import Mathlib.Algebra.Order.Field.Rat

/-!
What a program draws from Python's `random`.  A draw is any number, which each function takes to one
of the values that it may return.
-/

namespace RevenueGuard.Library.Draws

variable {α : Type*} {xs : List α}

/-- What `random.random()` returns. -/
structure Fraction where
  value : ℚ
  range : 0 ≤ value ∧ value < 1

/-- `random.randint(a, b)`. -/
def randint (a b : ℤ) (draw : ℕ) : ℤ := a + (draw : ℤ) % (b - a + 1)

theorem randint_range {a b : ℤ} (ordered : a ≤ b) (draw : ℕ) :
    a ≤ randint a b draw ∧ randint a b draw ≤ b := by
  have low := Int.emod_nonneg (draw : ℤ) (show b - a + 1 ≠ 0 by omega)
  have high := Int.emod_lt_of_pos (draw : ℤ) (show 0 < b - a + 1 by omega)
  simp only [randint]
  omega

/-- `random.choice(xs)`, and `random.choices(xs, weights)` where no weight is zero. -/
def choice (xs : List α) (nonempty : xs ≠ []) (draw : ℕ) : α :=
  xs.get ⟨draw % xs.length, Nat.mod_lt _ (List.length_pos_of_ne_nil nonempty)⟩

theorem choice_mem (nonempty : xs ≠ []) (draw : ℕ) : choice xs nonempty draw ∈ xs := List.get_mem ..

/-- `x[i], x[j] = x[j], x[i]`. -/
def swap (xs : List α) (i j : ℕ) : List α :=
  match xs[i]?, xs[j]? with
  | some a, some b => (xs.set i b).set j a
  | _, _ => xs

theorem swap_perm (xs : List α) (i j : ℕ) : (swap xs i j).Perm xs := by
  unfold swap
  split
  · rename_i a b first second
    obtain ⟨inFirst, rfl⟩ := List.getElem?_eq_some_iff.mp first
    obtain ⟨inSecond, rfl⟩ := List.getElem?_eq_some_iff.mp second
    exact List.set_set_perm inFirst inSecond
  · exact List.Perm.refl _

/-- The loop of `random.shuffle` from an index down. -/
def shuffleFrom (draws : ℕ → ℕ) : ℕ → List α → List α
  | 0, xs => xs
  | i + 1, xs => shuffleFrom draws i (swap xs (i + 1) (draws (i + 1) % (i + 2)))

/-- `random.shuffle(xs)`. -/
def shuffle (draws : ℕ → ℕ) (xs : List α) : List α := shuffleFrom draws (xs.length - 1) xs

theorem shuffle_from_perm (draws : ℕ → ℕ) (i : ℕ) (xs : List α) : (shuffleFrom draws i xs).Perm xs := by
  induction i generalizing xs with
  | zero => exact List.Perm.refl _
  | succ i ih => exact (ih _).trans (swap_perm _ _ _)

theorem shuffle_perm (draws : ℕ → ℕ) (xs : List α) : (shuffle draws xs).Perm xs := shuffle_from_perm ..

end RevenueGuard.Library.Draws
