import RevenueGuard.EvaluationReport
import RevenueGuard.Library.Grouping
import RevenueGuard.Library.Separators

/-!
The amounts of the report.  The loop takes two digits at a time from the right of what stands
before the last three, so that of every length the groups are those of the Indian system, and
the digits are all there.
-/

namespace RevenueGuard.MoneyProofs

open Library Grouping Separators BatchEvaluator

variable {left digits : List Char} {groups : List (List Char)} {paise paise' : ℤ}

/-! ## The loop -/

theorem take_groups_nil (groups : List (List Char)) : takeGroups [] groups = groups := by
  rw [takeGroups, if_pos rfl]

theorem take_groups_step (some_ : left ≠ []) (groups : List (List Char)) :
    takeGroups left groups =
      takeGroups (left.take (left.length - 2)) (groups ++ [left.drop (left.length - 2)]) := by
  rw [takeGroups, if_neg some_]

/-- From the right the loop cuts off groups of two; what it has taken is what was left. -/
theorem take_groups_spec (left : List Char) (groups : List (List Char)) :
    ∃ taken, takeGroups left groups = groups ++ taken.reverse ∧ Cut 2 taken ∧ taken.flatten = left := by
  induction left, groups using takeGroups.induct with
  | case1 groups => exact ⟨[], by simp [take_groups_nil], trivial, rfl⟩
  | case2 left groups some_ ih =>
    obtain ⟨taken, took, cut, rest⟩ := ih
    have positive := List.length_pos_iff.mpr some_
    refine ⟨taken ++ [left.drop (left.length - 2)], ?_, ?_, ?_⟩
    · rw [take_groups_step some_, took, List.reverse_append, List.append_assoc]
      rfl
    · cases taken with
      | nil =>
        -- Nothing is left of the front: this is the first group, of one digit or two.
        have front : min (left.length - 2) left.length = 0 := by
          rw [← List.length_take, ← rest]
          rfl
        refine cut_singleton ?_ ?_ <;> rw [List.length_drop] <;> omega
      | cons first taken =>
        have front : 0 < min (left.length - 2) left.length := by
          rw [← List.length_take, ← rest, List.flatten_cons, List.length_append]
          exact Nat.add_pos_left cut.1.1 _
        refine cut_snoc cut (List.cons_ne_nil first taken) ?_
        rw [List.length_drop]
        omega
    · rw [List.flatten_append, rest, List.flatten_singleton, List.take_append_drop]

/-! ## The digits -/

/-- Groups of the Indian system: one of up to three digits, or one of three after groups of two, of
which the first may be a single digit. -/
inductive Indian : List (List Char) → Prop where
  | single {group : List Char} : 1 ≤ group.length → group.length ≤ 3 → Indian [group]
  | groups {first last : List Char} {middle : List (List Char)} : 1 ≤ first.length → first.length ≤ 2 →
      (∀ group ∈ middle, group.length = 2) → last.length = 3 → Indian (first :: middle ++ [last])

theorem grouped_spec (some_ : digits ≠ []) :
    ∃ groups, grouped digits = [','].intercalate groups ∧ Indian groups ∧ groups.flatten = digits := by
  have positive := List.length_pos_iff.mpr some_
  unfold grouped
  by_cases short : digits.length ≤ 3
  · exact ⟨[digits], by simp [short], .single positive short, List.flatten_singleton⟩
  · obtain ⟨taken, took, cut, rest⟩ := take_groups_spec (digits.take (digits.length - 3)) []
    have three : (digits.drop (digits.length - 3)).length = 3 := by
      rw [List.length_drop]
      omega
    cases taken with
    | nil =>
      have front : (digits.take (digits.length - 3)).length = 0 := by
        rw [← rest]
        rfl
      rw [List.length_take] at front
      omega
    | cons first middle =>
      refine ⟨first :: middle ++ [digits.drop (digits.length - 3)], ?_, .groups cut.1.1 cut.1.2 cut.2 three, ?_⟩
      · rw [if_neg short, took, List.nil_append]
        dsimp only
        rw [List.reverse_reverse, joined_snoc (List.cons_ne_nil first middle)]
      · rw [List.flatten_append, rest, List.flatten_singleton, List.take_append_drop]

/-! ## Rupees -/

/-- `int(round(paise / 100))`. -/
def rupees (paise : ℤ) : ℤ := roundHalfEven ((paise : ℚ) / 100)

/-- The sign of an amount. -/
def signOf (r : ℤ) : List Char := if r < 0 then ['-'] else []

/-- The decimal digits of an amount, less its sign. -/
def digitsOf (r : ℤ) : List Char := (toString r.natAbs).toList

theorem money_text (paise : ℤ) :
    (money paise).toList = signOf (rupees paise) ++ '₹' :: grouped (digitsOf (rupees paise)) := by
  have sign : (if rupees paise < 0 then "-" else "").toList = signOf (rupees paise) := by
    unfold signOf
    split <;> rfl
  rw [money]
  simp only [String.toList_append, String.toList_ofList]
  rw [← rupees, sign, List.append_assoc]
  rfl

theorem comma_not_digit (r : ℤ) : ',' ∉ digitsOf r := by
  intro listed
  rw [digitsOf, Nat.toString_eq_repr, Nat.toList_repr] at listed
  exact absurd (Nat.isDigit_of_mem_toDigits (by decide) (by decide) listed) (by decide)

/-- The text of an amount shows the nearest number of rupees, the even one of two, in groups of the
Indian system, with a minus before an amount below zero. -/
structure Faithful (paise : ℤ) (text : String) : Prop where
  nearest : |(rupees paise : ℚ) - paise / 100| ≤ 1 / 2
  even : |(rupees paise : ℚ) - paise / 100| = 1 / 2 → Even (rupees paise)
  groups : ∃ groups, text.toList = signOf (rupees paise) ++ '₹' :: [','].intercalate groups ∧ Indian groups
  digits : text.toList.filter (· ≠ ',') = signOf (rupees paise) ++ '₹' :: digitsOf (rupees paise)

theorem digits_ne_nil (r : ℤ) : digitsOf r ≠ [] := by
  rw [digitsOf, Nat.toString_eq_repr, Nat.toList_repr]
  exact Nat.toDigits_ne_nil

/-- Without its separators the text is the sign, the rupee and the digits. -/
theorem money_digits (paise : ℤ) :
    (money paise).toList.filter (· ≠ ',') = signOf (rupees paise) ++ '₹' :: digitsOf (rupees paise) := by
  obtain ⟨groups, joined, -, whole⟩ := grouped_spec (digits_ne_nil (rupees paise))
  have plain : ∀ group ∈ groups, ',' ∉ group := by
    intro group listed member
    exact comma_not_digit (rupees paise) (whole ▸ List.mem_flatten.mpr ⟨group, listed, member⟩)
  have sign : (signOf (rupees paise)).filter (· ≠ ',') = signOf (rupees paise) := by
    unfold signOf
    split <;> rfl
  rw [money_text, joined, List.filter_append, sign, List.filter_cons_of_pos (by decide), filter_joined plain,
    whole]

/-- The digits and the sign tell the number. -/
theorem digits_inj {r r' : ℤ} (signs : signOf r = signOf r') (same : digitsOf r = digitsOf r') : r = r' := by
  have sizes : r.natAbs = r'.natAbs := by
    simp only [digitsOf, Nat.toString_eq_repr, Nat.toList_repr] at same
    rw [← Nat.ofDigitChars_ten_toDigits (n := r.natAbs), same, Nat.ofDigitChars_ten_toDigits]
  unfold signOf at signs
  split at signs <;> split at signs
  · omega
  · cases signs
  · cases signs
  · omega

theorem money_inj (same : money paise = money paise') : rupees paise = rupees paise' := by
  have texts := congrArg (fun text => text.toList.filter (· ≠ ',')) same
  rw [money_digits, money_digits] at texts
  have plain (r : ℤ) : '₹' ∉ signOf r := by
    unfold signOf
    split <;> decide
  obtain ⟨signs, digits⟩ := prefix_separator_inj (plain _) (plain _) texts
  exact digits_inj signs digits

/-- Every amount is shown faithfully, and amounts of different rupees are shown differently. -/
theorem money_faithful : (∀ paise, Faithful paise (money paise)) ∧
    ∀ paise paise', money paise = money paise' ↔ rupees paise = rupees paise' := by
  refine ⟨fun paise => ?_, fun paise paise' => ⟨money_inj, fun same => ?_⟩⟩
  · obtain ⟨groups, joined, indian, -⟩ := grouped_spec (digits_ne_nil (rupees paise))
    exact ⟨round_half_even_nearest _, round_half_even_even _, ⟨groups, by rw [money_text, joined], indian⟩,
      money_digits paise⟩
  · exact String.toList_inj.mp (by rw [money_text, money_text, same])

example : money (-123456750) = "-₹12,34,568" := by decide +kernel

end RevenueGuard.MoneyProofs
