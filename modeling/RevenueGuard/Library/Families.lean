import Mathlib.Data.List.Basic
import Mathlib.Logic.Function.Basic

/-!
Machines of one kind under keys, where a call names the key of the machine that it is for.  Calls
for other keys do not matter to a machine: in every order of all calls it goes through what it would
go through with its own calls alone, and gives the same answers.
-/

namespace RevenueGuard.Library.Families

universe u v w x

variable {κ : Type u} {S : Type v} {I : Type w} {O : Type x} [DecidableEq κ] {step : S → I → O × S}
  {family : κ → S} {key : κ} {calls rest : List (κ × I)}

/-- A machine that is called some times: what it answers, and what it ends up as. -/
def run (step : S → I → O × S) : S → List I → List O × S
  | s, [] => ([], s)
  | s, input :: inputs =>
    ((step s input).1 :: (run step (step s input).2 inputs).1, (run step (step s input).2 inputs).2)

/-- The machines after one call. -/
def call (step : S → I → O × S) (family : κ → S) (made : κ × I) : O × (κ → S) :=
  ((step (family made.1) made.2).1, Function.update family made.1 (step (family made.1) made.2).2)

/-- The machines after some calls, with the answers under their keys. -/
def runAll (step : S → I → O × S) : (κ → S) → List (κ × I) → List (κ × O) × (κ → S)
  | family, [] => ([], family)
  | family, made :: calls =>
    ((made.1, (call step family made).1) :: (runAll step (call step family made).2 calls).1,
      (runAll step (call step family made).2 calls).2)

/-- What is under one key. -/
def under (key : κ) {α : Type*} (entries : List (κ × α)) : List α :=
  (entries.filter fun entry => entry.1 = key).map (·.2)

theorem under_cons_same {α : Type*} (value : α) (entries : List (κ × α)) :
    under key ((key, value) :: entries) = value :: under key entries := by
  simp [under]

theorem under_cons_other {α : Type*} {entry : κ × α} (other : entry.1 ≠ key) (entries : List (κ × α)) :
    under key (entry :: entries) = under key entries := by
  simp [under, other]

theorem call_same (step : S → I → O × S) (family : κ → S) (key : κ) (input : I) :
    (call step family (key, input)).2 key = (step (family key) input).2 := by
  simp [call]

theorem call_other {made : κ × I} (other : made.1 ≠ key) : (call step family made).2 key = family key := by
  simp [call, Function.update_of_ne (Ne.symm other)]

/-- Every machine goes through its own calls alone. -/
theorem run_all_apart (step : S → I → O × S) (family : κ → S) (key : κ) (calls : List (κ × I)) :
    (under key (runAll step family calls).1, (runAll step family calls).2 key) =
      run step (family key) (under key calls) := by
  induction calls generalizing family with
  | nil => rfl
  | cons made calls ih =>
    obtain ⟨other, input⟩ := made
    by_cases same : other = key
    · subst same
      have after := ih (call step family (other, input)).2
      rw [call_same] at after
      rw [runAll, under_cons_same, under_cons_same, run, ← after]
      rfl
    · have after := ih (call step family (other, input)).2
      rw [call_other same] at after
      rw [runAll, under_cons_other same, under_cons_other same, ← after]

end RevenueGuard.Library.Families
