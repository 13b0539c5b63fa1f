import Mathlib.Data.Int.Init

/-!
Instants on the UTC time line: what an aware `datetime` denotes, as the number
of microseconds since the Unix epoch.  A `timedelta` is a difference of two.
-/

namespace RevenueGuard.Library

namespace Instant

/-- `timedelta(seconds=s)`. -/
def seconds (s : ℤ) : ℤ := s * 1000000

/-- `timedelta(hours=h)`. -/
def hours (h : ℤ) : ℤ := seconds (h * 3600)

/-- `datetime.max`, 9999-12-31T23:59:59.999999Z. -/
def latest : ℤ := 253402300799999999

/-- `t + timedelta(seconds=s)` for `s ≥ 0`, which leaves the range of
`timedelta` first and of `datetime` next. -/
def addSeconds (t : ℤ) (s : ℤ) : Except String ℤ :=
  if 999999999 < s / 86400 then
    .error ("days=" ++ toString (s / 86400) ++ "; must have magnitude <= 999999999")
  else if latest < t + seconds s then .error "date value out of range"
  else .ok (t + seconds s)

/-- The hour of the day in Asia/Kolkata, five and a half hours ahead of UTC. -/
def kolkataHour (t : ℤ) : ℤ := (t + seconds 19800) / hours 1 % 24

theorem addSeconds_ok {t s u : ℤ} : addSeconds t s = .ok u ↔
    s / 86400 ≤ 999999999 ∧ t + seconds s ≤ latest ∧ u = t + seconds s := by
  unfold addSeconds
  split
  · simp only [reduceCtorEq, false_iff]
    omega
  · split
    · simp only [reduceCtorEq, false_iff]
      omega
    · simp only [Except.ok.injEq]
      constructor
      · rintro rfl
        exact ⟨by omega, by omega, rfl⟩
      · rintro ⟨_, _, rfl⟩
        rfl

end Instant

end RevenueGuard.Library
