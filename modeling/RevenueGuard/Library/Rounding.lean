import Mathlib.Data.Rat.Floor
import Mathlib.Tactic.Linarith

/-!
Rounding as `round()` does it: to the nearest number of so many digits, and of two to the even one.
A float is rounded as the number that it is.  A quotient is rounded as the float next to it, which
decides where the quotient lies half way between two numbers.
-/

namespace RevenueGuard.Library

/-- The nearest integer, the even one of two. -/
def roundHalfEven (q : ℚ) : ℤ :=
  if q - ⌊q⌋ < 1 / 2 then ⌊q⌋
  else if 1 / 2 < q - ⌊q⌋ then ⌊q⌋ + 1
  else if ⌊q⌋ % 2 = 0 then ⌊q⌋ else ⌊q⌋ + 1

theorem round_half_even_nearest (q : ℚ) : |roundHalfEven q - q| ≤ 1 / 2 := by
  have below : (⌊q⌋ : ℚ) ≤ q := Int.floor_le q
  have above : q < ⌊q⌋ + 1 := Int.lt_floor_add_one q
  rw [abs_le]
  unfold roundHalfEven
  split
  · constructor <;> linarith
  · rename_i half
    have half := not_lt.mp half
    split
    · push_cast
      constructor <;> linarith
    · rename_i tie
      have tie := not_lt.mp tie
      split
      · constructor <;> linarith
      · push_cast
        constructor <;> linarith

/-- Of two nearest integers the even one is taken. -/
theorem round_half_even_even (q : ℚ) (tie : |roundHalfEven q - q| = 1 / 2) : Even (roundHalfEven q) := by
  have below : (⌊q⌋ : ℚ) ≤ q := Int.floor_le q
  have above : q < ⌊q⌋ + 1 := Int.lt_floor_add_one q
  unfold roundHalfEven at tie ⊢
  by_cases less : q - ⌊q⌋ < 1 / 2
  · rw [if_pos less, abs_of_nonpos (by linarith)] at tie
    linarith
  · by_cases more : 1 / 2 < q - ⌊q⌋
    · rw [if_neg less, if_pos more] at tie
      push_cast at tie
      rw [abs_of_pos (by linarith)] at tie
      linarith
    · rw [if_neg less, if_neg more]
      split
      · rename_i even
        exact Int.even_iff.mpr even
      · rename_i odd
        exact Int.even_iff.mpr (by omega)

/-- `round(x, 6)` of a float. -/
def roundSix (x : ℚ) : ℚ := roundHalfEven (x * 1000000) / 1000000

/-- The float next to a quotient that is at most 1, where it is not too small. -/
def floatOfQuotient (q : ℚ) : ℚ :=
  let bits := ((List.range 64).find? fun k => 1 ≤ q * 2 ^ k).getD 64 + 52
  roundHalfEven (q * 2 ^ bits) / 2 ^ bits

/-- `round(a / b, 6)` for a quotient of integers, in millionths: half way between two of them, it is
the one on whose side the float lies. -/
def roundQuotient (q : ℚ) : ℤ :=
  if Int.fract (q * 1000000) = 1 / 2 ∧ floatOfQuotient q < q then ⌊q * 1000000⌋
  else if Int.fract (q * 1000000) = 1 / 2 ∧ q < floatOfQuotient q then ⌊q * 1000000⌋ + 1
  else roundHalfEven (q * 1000000)

theorem round_quotient_nearest (q : ℚ) : |roundQuotient q - q * 1000000| ≤ 1 / 2 := by
  have parts := Int.floor_add_fract (q * 1000000)
  unfold roundQuotient
  split
  · rename_i below
    rw [below.1] at parts
    rw [abs_le]
    constructor <;> linarith
  · split
    · rename_i above
      rw [above.1] at parts
      rw [abs_le]
      push_cast
      constructor <;> linarith
    · exact round_half_even_nearest _

-- 1/640 is half way between two millionths, and its float is above it.
example : roundQuotient (1 / 640) = 1563 := by decide +kernel

end RevenueGuard.Library
