import Mathlib.Algebra.Group.Nat.Defs
import Mathlib.Algebra.Order.Group.Basic

/-!
Circuit breakers with exponential back-off, over any ordered group of times.

A breaker is closed, open since some time, or half-open with the numbers of the
probes that came back.  Its level counts how often it has opened again since it
was last closed, and an opening at level `k` lasts `2 ^ k` times the base
cooldown.  `evaluate` is the step at a reading of the clock, `probe` the step at
the result of a probe.
-/

namespace RevenueGuard.Library.Backoff

/-- How long the first opening lasts, and how many successes close a half-open
breaker, or failures open it again. -/
structure Policy (T : Type*) where
  base : T
  successes : ℤ
  failures : ℤ

inductive Breaker (T : Type*) where
  | closed
  | opened (since : T) (level : ℕ)
  | halfOpen (level successes failures : ℕ)

namespace Breaker

variable {T : Type*}

/-- The breaker after a probe came back. -/
def probe (success : Bool) : Breaker T → Breaker T
  | halfOpen level successes failures =>
    if success then halfOpen level (successes + 1) failures else halfOpen level successes (failures + 1)
  | breaker => breaker

/-- The number of openings again since the breaker was last closed. -/
def level : Breaker T → ℕ
  | closed => 0
  | opened _ level => level
  | halfOpen level _ _ => level

/-- How that number changes when one breaker follows another. -/
def reopenings (count : ℕ) : Breaker T → Breaker T → ℕ
  | _, closed => 0
  | halfOpen _ _ _, opened _ _ => count + 1
  | _, _ => count

/-- No probe has come back. -/
def Unprobed : Breaker T → Prop
  | halfOpen _ successes failures => successes = 0 ∧ failures = 0
  | _ => True

theorem level_probe (success : Bool) (breaker : Breaker T) :
    (probe success breaker).level = reopenings breaker.level breaker (probe success breaker) := by
  cases breaker with
  | closed => rfl
  | opened => rfl
  | halfOpen => cases success <;> rfl

variable [AddCommGroup T] [LinearOrder T] {p : Policy T} {trips : Bool} {now since : T} {k : ℕ}

/-- When the opening at a level is over. -/
def expiry (p : Policy T) (since : T) (level : ℕ) : T := since + 2 ^ level • p.base

/-- The breaker after a reading of the clock, where `trips` says that traffic is bad
enough to open it. -/
def evaluate (p : Policy T) (trips : Bool) (now : T) : Breaker T → Breaker T
  | closed => if trips then opened now 0 else closed
  | opened since level => if expiry p since level ≤ now then halfOpen level 0 0 else opened since level
  | halfOpen level successes failures =>
    if p.successes ≤ successes then closed
    else if p.failures ≤ failures then opened now (level + 1)
    else halfOpen level successes failures

/-- An opening lasts until it is over. -/
theorem evaluate_running (running : now < expiry p since k) :
    evaluate p trips now (opened since k) = opened since k :=
  if_neg (not_le.mpr running)

/-- An open breaker becomes half-open and nothing else, and only when it is over. -/
theorem evaluate_opened (p : Policy T) (trips : Bool) (now since : T) (k : ℕ) :
    evaluate p trips now (opened since k) = opened since k ∨
      expiry p since k ≤ now ∧ evaluate p trips now (opened since k) = halfOpen k 0 0 := by
  by_cases running : expiry p since k ≤ now
  · exact .inr ⟨running, if_pos running⟩
  · exact .inl (if_neg running)

/-- A breaker opens at the reading of its evaluation: a closed one at level 0, because it
trips, and a half-open one at the next level. -/
theorem evaluate_opens {breaker : Breaker T} (opens : evaluate p trips now breaker = opened since k) :
    breaker = opened since k ∨ since = now ∧ (breaker = closed ∧ trips = true ∨
      ∃ level successes failures, breaker = halfOpen level successes failures ∧ k = level + 1) := by
  cases breaker with
  | closed =>
    cases trips with
    | false => cases opens
    | true =>
      cases opens
      exact .inr ⟨rfl, .inl ⟨rfl, rfl⟩⟩
  | opened since' k' =>
    rcases evaluate_opened p trips now since' k' with same | ⟨_, moved⟩
    · exact .inl (same.symm.trans opens)
    · rw [moved] at opens
      cases opens
  | halfOpen level successes failures =>
    simp only [evaluate] at opens
    split at opens
    · cases opens
    · split at opens
      · cases opens
        exact .inr ⟨rfl, .inr ⟨level, successes, failures, rfl, rfl⟩⟩
      · cases opens

theorem unprobed_evaluate {breaker : Breaker T} (unprobed : breaker.Unprobed) :
    (evaluate p trips now breaker).Unprobed := by
  cases breaker with
  | closed => cases trips <;> trivial
  | opened since k =>
    rcases evaluate_opened p trips now since k with same | ⟨_, moved⟩
    · rw [same]
      trivial
    · rw [moved]
      exact ⟨rfl, rfl⟩
  | halfOpen k successes failures =>
    simp only [evaluate]
    split
    · trivial
    · split
      · trivial
      · exact unprobed

theorem level_evaluate (p : Policy T) (trips : Bool) (now : T) (breaker : Breaker T) :
    (evaluate p trips now breaker).level = reopenings breaker.level breaker (evaluate p trips now breaker) := by
  cases breaker with
  | closed => cases trips <;> rfl
  | opened since k =>
    rcases evaluate_opened p trips now since k with same | ⟨_, moved⟩
    · rw [same]
      rfl
    · rw [moved]
      rfl
  | halfOpen k successes failures =>
    simp only [evaluate]
    split
    · rfl
    · split <;> rfl

end Breaker

end RevenueGuard.Library.Backoff
