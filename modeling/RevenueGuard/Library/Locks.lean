import Mathlib.Data.List.Nodup
import Mathlib.Logic.Function.Basic

/-!
Exclusive locks: a list of the keys that are locked, and what each party holds.
A party takes a key only where nobody holds it, and holds at most one key.
-/

namespace RevenueGuard.Library.Locks

variable {ι κ : Type*} {locks : List κ} {holds : ι → Option κ} {i j : ι} {k : κ}

/-- The locked keys are what the parties hold, each key by one party. -/
structure Exclusive (locks : List κ) (holds : ι → Option κ) : Prop where
  nodup : locks.Nodup
  listed : ∀ k, k ∈ locks ↔ ∃ i, holds i = some k
  single : ∀ i j k, holds i = some k → holds j = some k → i = j

theorem exclusive_start : Exclusive ([] : List κ) (fun _ : ι => none) :=
  ⟨List.nodup_nil, fun _ => by simp, fun _ _ _ held => by cases held⟩

variable [DecidableEq ι]

/-- A party without a lock takes a free key. -/
theorem Exclusive.take (kept : Exclusive locks holds) (free : k ∉ locks) (empty : holds i = none) :
    Exclusive (k :: locks) (Function.update holds i (some k)) := by
  have nobody : ∀ j, holds j ≠ some k := fun j held => free ((kept.listed k).mpr ⟨j, held⟩)
  refine ⟨List.nodup_cons.mpr ⟨free, kept.nodup⟩, fun l => ?_, fun a b l held held' => ?_⟩
  · rw [List.mem_cons, kept.listed, Function.exists_update_iff holds fun _ lock => lock = some l]
    constructor
    · rintro (rfl | ⟨j, held⟩)
      · exact .inl rfl
      · refine .inr ⟨j, ?_, held⟩
        rintro rfl
        rw [empty] at held
        cases held
    · rintro (same | ⟨j, _, held⟩)
      · exact .inl (Option.some.inj same).symm
      · exact .inr ⟨j, held⟩
  · by_cases mine : a = i <;> by_cases yours : b = i
    · rw [mine, yours]
    · subst mine
      rw [Function.update_self] at held
      rw [Function.update_of_ne yours, ← held] at held'
      exact absurd held' (nobody b)
    · subst yours
      rw [Function.update_self] at held'
      rw [Function.update_of_ne mine, ← held'] at held
      exact absurd held (nobody a)
    · rw [Function.update_of_ne mine] at held
      rw [Function.update_of_ne yours] at held'
      exact kept.single a b l held held'

/-- A party gives back the key it holds. -/
theorem Exclusive.give [DecidableEq κ] (kept : Exclusive locks holds) (held : holds i = some k) :
    Exclusive (locks.erase k) (Function.update holds i none) := by
  refine ⟨kept.nodup.erase k, fun l => ?_, fun a b l held held' => ?_⟩
  · rw [kept.nodup.mem_erase_iff, kept.listed, Function.exists_update_iff holds fun _ lock => lock = some l]
    constructor
    · rintro ⟨other, j, heldBy⟩
      refine .inr ⟨j, ?_, heldBy⟩
      rintro rfl
      exact other (Option.some.inj (heldBy.symm.trans held))
    · rintro (absurd_ | ⟨j, apart, heldBy⟩)
      · cases absurd_
      · refine ⟨?_, j, heldBy⟩
        rintro rfl
        exact apart (kept.single j i l heldBy held)
  · have apart : ∀ {c}, Function.update holds i none c = some l → c ≠ i ∧ holds c = some l := by
      intro c heldBy
      by_cases mine : c = i
      · subst mine
        rw [Function.update_self] at heldBy
        cases heldBy
      · exact ⟨mine, by rwa [Function.update_of_ne mine] at heldBy⟩
    exact kept.single a b l (apart held).2 (apart held').2

/-- A party without a lock goes on without one. -/
theorem Exclusive.pass (kept : Exclusive locks holds) (empty : holds i = none) :
    Exclusive locks (Function.update holds i none) := by
  rwa [← empty, Function.update_eq_self]

end RevenueGuard.Library.Locks
