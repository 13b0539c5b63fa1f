import Mathlib.Logic.Function.Basic

/-!
Write-once registers: a value may be missing, and once it is there it stays.
`Extends` is the order of their histories.
-/

namespace RevenueGuard.Library.Register

variable {κ ν : Type*} {a b c : κ → Option ν} {k : κ} {v : ν}

/-- `b` holds every value that `a` holds. -/
def Extends (a b : κ → Option ν) : Prop := ∀ k v, a k = some v → b k = some v

theorem extends_refl (a : κ → Option ν) : Extends a a := fun _ _ held => held

theorem extends_trans (first : Extends a b) (second : Extends b c) : Extends a c :=
  fun k v held => second k v (first k v held)

/-- A write is allowed where nothing is written yet, or the same. -/
theorem extends_write [DecidableEq κ] (free : ∀ old, a k = some old → old = v) :
    Extends a (Function.update a k (some v)) := by
  intro j u held
  by_cases same : j = k
  · subst same
    rw [Function.update_self, free u held]
  · rw [Function.update_of_ne same]
    exact held

end RevenueGuard.Library.Register
