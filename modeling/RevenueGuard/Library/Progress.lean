import Mathlib.Algebra.BigOperators.Group.Finset.Basic
import Mathlib.Algebra.Ring.Nat
import RevenueGuard.Library.Runs

/-!
Systems that come to rest.

A potential that every step lowers, up to what the step brings in from outside, bounds the length
of every run by what all its steps have brought in (`length_le_income`).  Where the runs of some
kind of steps are bounded, one of them ends where no step of that kind is enabled (`exists_stuck`).
The potential of many parties is the sum of what each of them weighs (`weigh`).
-/

namespace RevenueGuard.Library.Progress

open Runs

variable {σ ε ι φ : Type*} {step : σ → ε → Option σ} {init s : σ} {es : List ε}

/-- Every step costs one, which the potential or the income of the step pays for. -/
theorem length_le_income {potential : σ → ℕ} {income : ε → ℕ} {I : σ → Prop} {good : ε → Prop}
    (start : I init) (next : ∀ s e s', I s → step s e = some s' → I s')
    (pays : ∀ s e s', I s → good e → step s e = some s' → potential s' + 1 ≤ potential s + income e)
    (each : ∀ e ∈ es, good e) (ran : run step init es = some s) :
    potential s + es.length ≤ potential init + (es.map income).sum := by
  induction es using List.reverseRecOn generalizing s with
  | nil =>
    cases ran
    simp
  | append_singleton es e ih =>
    obtain ⟨before, ranBefore, stepped⟩ := run_snoc_iff.mp ran
    have held := run_invariant next start ranBefore
    have paid := pays before e s held (each e (by simp)) stepped
    have earlier := ih (fun e listed => each e (by simp [listed])) ranBefore
    simp only [List.length_append, List.length_singleton, List.map_append, List.sum_append, List.map_cons,
      List.map_nil, List.sum_singleton]
    omega

/-- Where the runs of some steps are bounded, one of them cannot be continued. -/
theorem exists_stuck {good : ε → Prop} {bound : ℕ}
    (bounded : ∀ es s', (∀ e ∈ es, good e) → run step s es = some s' → es.length ≤ bound) :
    ∃ es s', (∀ e ∈ es, good e) ∧ run step s es = some s' ∧ ∀ e, good e → step s' e = none := by
  induction bound generalizing s with
  | zero =>
    refine ⟨[], s, nofun, rfl, fun e allowed => ?_⟩
    by_contra enabled
    obtain ⟨next, stepped⟩ := Option.ne_none_iff_exists'.mp enabled
    have short := bounded [e] next (by simpa using allowed) (by simp [run, stepped])
    simp at short
  | succ bound ih =>
    by_cases stuck : ∀ e, good e → step s e = none
    · exact ⟨[], s, nofun, rfl, stuck⟩
    · obtain ⟨e, denied⟩ := not_forall.mp stuck
      obtain ⟨allowed, enabled⟩ := Classical.not_imp.mp denied
      obtain ⟨next, stepped⟩ := Option.ne_none_iff_exists'.mp enabled
      have ahead : ∀ {es s'}, run step next es = some s' → run step s (e :: es) = some s' := fun ran => by
        simp only [run, stepped, Option.bind_some, ran]
      obtain ⟨es, s', each, ran, stuck⟩ := @ih next fun es s' each ran => by
        have long := bounded (e :: es) s' (by simpa using ⟨allowed, each⟩) (ahead ran)
        simpa using long
      exact ⟨e :: es, s', by simpa using ⟨allowed, each⟩, ahead ran, stuck⟩

variable [DecidableEq ι] {weight : φ → ℕ} {phases : ι → φ} {P : Finset ι} {i : ι}

/-- What the parties of a finite set weigh together. -/
def weigh (weight : φ → ℕ) (phases : ι → φ) (P : Finset ι) : ℕ := ∑ i ∈ P, weight (phases i)

/-- One party moves. -/
theorem weigh_update (mine : i ∈ P) (phase : φ) :
    weigh weight (Function.update phases i phase) P + weight (phases i) =
      weigh weight phases P + weight phase := by
  have others : ∑ j ∈ P.erase i, weight (Function.update phases i phase j) =
      ∑ j ∈ P.erase i, weight (phases j) := by
    refine Finset.sum_congr rfl fun j other => ?_
    rw [Function.update_of_ne (Finset.ne_of_mem_erase other)]
  unfold weigh
  rw [← Finset.sum_erase_add P _ mine, ← Finset.sum_erase_add P (fun i => weight (phases i)) mine, others,
    Function.update_self]
  omega

omit [DecidableEq ι] in
theorem weigh_idle (idle : ∀ i, weight (phases i) = 0) : weigh weight phases P = 0 :=
  Finset.sum_eq_zero fun i _ => idle i

end RevenueGuard.Library.Progress
