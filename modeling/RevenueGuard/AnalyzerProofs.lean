import Mathlib.Analysis.Real.Sqrt
import Mathlib.Tactic.FieldSimp
import Mathlib.Tactic.Linarith
import Mathlib.Tactic.Positivity
import RevenueGuard.Analyzer
import RevenueGuard.Library.Raises

/-!
The figures of an experiment.  The program guards its own divisions, and the bounds and the
verdict follow from the order of the field alone.  The test of the recovery rates divides
by the standard error of the pooled rate, which is zero as long as nobody has recovered and
again when everybody has.  The test of the sample ratio compares with a split of eighty to
twenty, whatever the split of the experiment is.
-/

namespace RevenueGuard.AnalyzerProofs

open Library.Raises ExperimentAnalyzer

variable {α : Type} [Field α] [LinearOrder α] [IsStrictOrderedRing α] {numerics : Numerics α} {a b : α}
  {controlRecovered controlTotal variantRecovered variantTotal : ℤ} {experimentId : String}

/-- What the analyzer relies on: a square root is not negative, and zero only of zero, and a
chi-square variable is certainly not below zero. -/
structure Sound (numerics : Numerics α) : Prop where
  sqrt_nonneg : ∀ x, 0 ≤ x → 0 ≤ numerics.sqrt x
  sqrt_eq_zero : ∀ x, 0 ≤ x → (numerics.sqrt x = 0 ↔ x = 0)
  chi2_zero : numerics.chi2Sf 0 = 1

/-- The counts that `_validate_counts` accepts. -/
structure Accepted (controlRecovered controlTotal variantRecovered variantTotal : ℤ) : Prop where
  control : 0 ≤ controlRecovered ∧ controlRecovered ≤ controlTotal
  variant : 0 ≤ variantRecovered ∧ variantRecovered ≤ variantTotal

theorem validate_counts_iff :
    validateCounts controlRecovered controlTotal variantRecovered variantTotal = .ok () ↔
      Accepted controlRecovered controlTotal variantRecovered variantTotal := by
  unfold validateCounts
  simp only [List.any_cons, List.any_nil, Bool.or_false, Bool.or_eq_true, decide_eq_true_eq]
  constructor
  · intro accepted
    split at accepted
    · cases accepted
    · split at accepted
      · cases accepted
      · exact ⟨by omega, by omega⟩
  · rintro ⟨⟨_, _⟩, _, _⟩
    rw [if_neg (by omega), if_neg (by omega)]

/-! ## Quotients -/

omit [IsStrictOrderedRing α] in
theorem quotient_some (nonzero : b ≠ 0) : quotient a b = some (a / b) := if_neg nonzero

omit [IsStrictOrderedRing α] in
theorem divide_ok (nonzero : b ≠ 0) : divide a b = .ok (a / b) := if_neg nonzero

/-- Where the total is zero the field says what the guard says. -/
theorem rate_eq (recovered total : ℤ) : rate recovered total = .ok ((recovered : α) / total) := by
  unfold rate
  split
  · rename_i empty
    simp [empty]
  · rename_i cases_
    exact divide_ok (Int.cast_ne_zero.mpr cases_)

theorem rate_range {recovered total : ℤ} (nonneg : 0 ≤ recovered) (within : recovered ≤ total) :
    0 ≤ (recovered : α) / total ∧ (recovered : α) / total ≤ 1 := by
  have recovered_nonneg : (0 : α) ≤ recovered := Int.cast_nonneg nonneg
  have total_nonneg : (0 : α) ≤ total := Int.cast_nonneg (nonneg.trans within)
  exact ⟨div_nonneg recovered_nonneg total_nonneg, div_le_one_of_le₀ (Int.cast_le.mpr within) total_nonneg⟩

omit [IsStrictOrderedRing α] in
theorem relative_to_eq (lift base : α) : relativeTo lift base = .ok (lift / base) := by
  unfold relativeTo
  split
  · rename_i zero
    rw [zero, div_zero]
  · rename_i nonzero
    exact divide_ok nonzero

theorem spread_nonneg {r n : α} (nonneg : 0 ≤ r) (le_one : r ≤ 1) (total : 0 ≤ n) : 0 ≤ r * (1 - r) / n :=
  div_nonneg (mul_nonneg nonneg (sub_nonneg.mpr le_one)) total

/-- The standard error is always there. -/
theorem standard_error_returns (numerics : Numerics α) {controlRate variantRate : α}
    (control : 0 ≤ controlRate ∧ controlRate ≤ 1) (variant : 0 ≤ variantRate ∧ variantRate ≤ 1)
    (controls : 0 ≤ controlTotal) (variants : 0 ≤ variantTotal) :
    ∃ error, standardError numerics controlRate controlTotal variantRate variantTotal = .ok error ∧
      (error = 0 ∨ ∃ spread, 0 ≤ spread ∧ error = numerics.sqrt spread) := by
  unfold standardError
  by_cases empty : controlTotal = 0 ∨ variantTotal = 0
  · exact ⟨0, if_pos empty, .inl rfl⟩
  · obtain ⟨controls_ne, variants_ne⟩ := not_or.mp empty
    have spread :=
      add_nonneg (spread_nonneg control.1 control.2 (Int.cast_nonneg controls : (0 : α) ≤ controlTotal))
      (spread_nonneg variant.1 variant.2 (Int.cast_nonneg variants : (0 : α) ≤ variantTotal))
    refine ⟨_, ?_, .inr ⟨_, spread, rfl⟩⟩
    rw [if_neg empty, divide_ok (Int.cast_ne_zero.mpr controls_ne), ok_bind,
      divide_ok (Int.cast_ne_zero.mpr variants_ne), ok_bind, squareRoot, if_neg (not_lt.mpr spread)]

/-- And it is never negative. -/
theorem standard_error_ok (sound : Sound numerics) {controlRate variantRate : α}
    (control : 0 ≤ controlRate ∧ controlRate ≤ 1) (variant : 0 ≤ variantRate ∧ variantRate ≤ 1)
    (controls : 0 ≤ controlTotal) (variants : 0 ≤ variantTotal) :
    ∃ error, standardError numerics controlRate controlTotal variantRate variantTotal = .ok error ∧
      0 ≤ error := by
  obtain ⟨error, returned, zero | ⟨spread, nonneg, root⟩⟩ :=
    standard_error_returns numerics control variant controls variants
  · exact ⟨error, returned, zero.ge⟩
  · exact ⟨error, returned, root ▸ sound.sqrt_nonneg spread nonneg⟩

/-! ## The sample ratio -/

omit [IsStrictOrderedRing α] in
theorem chi_square_pair {observed₁ observed₂ expected₁ expected₂ : α} (first : expected₁ ≠ 0)
    (second : expected₂ ≠ 0) :
    chiSquare [observed₁, observed₂] [expected₁, expected₂] =
      some ((observed₁ - expected₁) ^ 2 / expected₁ + (observed₂ - expected₂) ^ 2 / expected₂) := by
  simp [chiSquare, quotient_some first, quotient_some second]

/-- The statistic of the sample ratio is always there. -/
theorem sample_ratio_some (numerics : Numerics α) (controlTotal variantTotal : ℤ) :
    ∃ statistic pValue, sampleRatioMetrics numerics controlTotal variantTotal =
      (some statistic, some pValue) := by
  unfold sampleRatioMetrics
  by_cases empty : controlTotal + variantTotal = 0
  · exact ⟨0, 1, if_pos empty⟩
  · have total : ((controlTotal + variantTotal : ℤ) : α) ≠ 0 := Int.cast_ne_zero.mpr empty
    rw [if_neg empty, chi_square_pair (mul_ne_zero total (by norm_num)) (mul_ne_zero total (by norm_num))]
    exact ⟨_, _, rfl⟩

/-! ## The recovery rates -/

/-- The pooled rate leaves no variance where nobody has recovered, or everybody. -/
theorem pooled_variance {count nobs factor : α} (positive : 0 < nobs) (factor_pos : 0 < factor)
    (nonneg : 0 ≤ count)
    (within : count ≤ nobs) :
    0 ≤ count / nobs * (1 - count / nobs) * factor ∧
      (count / nobs * (1 - count / nobs) * factor = 0 ↔ count = 0 ∨ count = nobs) := by
  have rate_nonneg : 0 ≤ count / nobs := div_nonneg nonneg positive.le
  have rate_le : count / nobs ≤ 1 := div_le_one_of_le₀ within positive.le
  refine ⟨mul_nonneg (mul_nonneg rate_nonneg (sub_nonneg.mpr rate_le)) factor_pos.le, ?_⟩
  rw [mul_eq_zero, mul_eq_zero, or_iff_left factor_pos.ne', div_eq_zero_iff, or_iff_left positive.ne', sub_eq_zero,
    eq_comm (a := (1 : α)), div_eq_one_iff_eq positive.ne']

/-- The z statistic is there unless the two samples recovered nobody or everybody. -/
theorem z_statistic_some (sound : Sound numerics) {count₁ count₂ nobs₁ nobs₂ : α} (first : 0 < nobs₁)
    (second : 0 < nobs₂) (nonneg : 0 ≤ count₁ + count₂) (within : count₁ + count₂ ≤ nobs₁ + nobs₂) :
    (∃ z, zStatistic numerics count₁ count₂ nobs₁ nobs₂ = some z) ↔
      ¬ (count₁ + count₂ = 0 ∨ count₁ + count₂ = nobs₁ + nobs₂) := by
  have factor : 0 < 1 / nobs₁ + 1 / nobs₂ := add_pos (one_div_pos.mpr first) (one_div_pos.mpr second)
  obtain ⟨variance_nonneg, variance_zero⟩ := pooled_variance (add_pos first second) factor nonneg within
  have computed : zStatistic numerics count₁ count₂ nobs₁ nobs₂ =
      quotient (count₁ / nobs₁ - count₂ / nobs₂)
        (numerics.sqrt ((count₁ + count₂) / (nobs₁ + nobs₂) * (1 - (count₁ + count₂) / (nobs₁ + nobs₂)) *
          (1 / nobs₁ + 1 / nobs₂))) := by
    simp only [zStatistic, quotient_some (add_pos first second).ne', quotient_some first.ne',
      quotient_some second.ne', Option.bind_eq_bind, Option.bind_some]
  rw [computed, ← variance_zero, ← sound.sqrt_eq_zero _ variance_nonneg]
  constructor
  · rintro ⟨z, returned⟩ zero
    rw [quotient, if_pos zero] at returned
    cases returned
  · intro nonzero
    exact ⟨_, quotient_some nonzero⟩

/-- Both figures of the recovery test are numbers. -/
def Tested (numerics : Numerics α) (controlRecovered controlTotal variantRecovered variantTotal : ℤ) : Prop :=
  ∃ z p, recoveryTest numerics controlRecovered controlTotal variantRecovered variantTotal = (some z, some p)

/-- An arm is empty, or somebody has recovered and somebody has not. -/
def Undegenerate (controlRecovered controlTotal variantRecovered variantTotal : ℤ) : Prop :=
  controlTotal = 0 ∨ variantTotal = 0 ∨
    0 < controlRecovered + variantRecovered ∧ controlRecovered + variantRecovered < controlTotal + variantTotal

theorem tested_iff (sound : Sound numerics)
    (accepted : Accepted controlRecovered controlTotal variantRecovered variantTotal) :
    Tested numerics controlRecovered controlTotal variantRecovered variantTotal ↔
      Undegenerate controlRecovered controlTotal variantRecovered variantTotal := by
  obtain ⟨⟨control, controls⟩, variant, variants⟩ := accepted
  unfold Tested Undegenerate recoveryTest
  by_cases empty : controlTotal = 0 ∨ variantTotal = 0
  · rw [← or_assoc]
    exact iff_of_true ⟨0, 1, if_pos empty⟩ (.inl empty)
  · rw [if_neg empty, ← or_assoc, or_iff_right empty]
    obtain ⟨controls_ne, variants_ne⟩ := not_or.mp empty
    have first : (0 : α) < variantTotal := Int.cast_pos.mpr (by omega)
    have second : (0 : α) < controlTotal := Int.cast_pos.mpr (by omega)
    have nonneg : (0 : α) ≤ variantRecovered + controlRecovered := by
      exact_mod_cast (by omega : 0 ≤ variantRecovered + controlRecovered)
    have within : (variantRecovered + controlRecovered : α) ≤ variantTotal + controlTotal := by
      exact_mod_cast (by omega : variantRecovered + controlRecovered ≤ variantTotal + controlTotal)
    have there := z_statistic_some sound first second nonneg within
    have apart : ((variantRecovered + controlRecovered : α) = 0 ∨
        (variantRecovered + controlRecovered : α) = variantTotal + controlTotal) ↔
        variantRecovered + controlRecovered = 0 ∨
          variantRecovered + controlRecovered = variantTotal + controlTotal := by
      norm_cast
    rw [apart] at there
    constructor
    · rintro ⟨z, p, returned⟩
      have apart := there.mp ⟨z, congrArg Prod.fst returned⟩
      omega
    · rintro ⟨somebody, notAll⟩
      obtain ⟨z, returned⟩ := there.mpr (by omega)
      exact ⟨z, numerics.normSf z, by rw [returned]; rfl⟩

/-! ## The analysis -/

/-- Every figure that may fail to be one is a number. -/
structure Numbers (result : ExperimentAnalysis α) : Prop where
  zStatistic : ∃ z, result.zStatistic = some z
  pValue : ∃ p, result.pValue = some p
  srmChiSquare : ∃ statistic, result.srmChiSquare = some statistic
  srmPValue : ∃ p, result.srmPValue = some p

/-- No division by zero raises, every figure is a number, the bounds enclose the lift, and what
is significant is a lift. -/
def AlwaysDefined (numerics : Numerics α) (experimentId : String)
    (controlRecovered controlTotal variantRecovered variantTotal : ℤ) : Prop :=
  ∃ result, analyze numerics experimentId controlRecovered controlTotal variantRecovered variantTotal = .ok result ∧
    Numbers result ∧ (result.ciLower ≤ result.absoluteLift ∧ result.absoluteLift ≤ result.ciUpper) ∧
    (result.isSignificant = true → 0 < result.absoluteLift)

/-- Of accepted counts `analyze` returns, with the counts in its result. -/
theorem analyze_returns (numerics : Numerics α) (experimentId : String)
    (accepted : Accepted controlRecovered controlTotal variantRecovered variantTotal) :
    ∃ result, analyze numerics experimentId controlRecovered controlTotal variantRecovered variantTotal =
      .ok result ∧
      result.controlRecovered = controlRecovered ∧ result.controlTotal = controlTotal ∧
      result.variantRecovered = variantRecovered ∧ result.variantTotal = variantTotal := by
  obtain ⟨error, deviation, _⟩ := standard_error_returns numerics
    (rate_range (α := α) accepted.control.1 accepted.control.2)
    (rate_range (α := α) accepted.variant.1 accepted.variant.2)
    (accepted.control.1.trans accepted.control.2) (accepted.variant.1.trans accepted.variant.2)
  simp only [analyze, validate_counts_iff.mpr accepted, rate_eq, relative_to_eq, deviation, ok_bind]
  exact ⟨_, rfl, rfl, rfl, rfl, rfl⟩

/-- What `analyze` returns of accepted counts. -/
theorem analyze_ok (sound : Sound numerics) (experimentId : String)
    (accepted : Accepted controlRecovered controlTotal variantRecovered variantTotal) :
    ∃ result, analyze numerics experimentId controlRecovered controlTotal variantRecovered variantTotal =
      .ok result ∧
      (result.zStatistic, result.pValue) =
        recoveryTest numerics controlRecovered controlTotal variantRecovered variantTotal ∧
      (result.srmChiSquare, result.srmPValue) = sampleRatioMetrics numerics controlTotal variantTotal ∧
      result.srmPass = result.srmPValue.any (· > 1 / 100) ∧
      (result.ciLower ≤ result.absoluteLift ∧ result.absoluteLift ≤ result.ciUpper) ∧
      (result.isSignificant = true → 0 < result.absoluteLift) := by
  obtain ⟨error, deviation, nonneg⟩ := standard_error_ok sound
    (rate_range (α := α) accepted.control.1 accepted.control.2)
    (rate_range (α := α) accepted.variant.1 accepted.variant.2)
    (accepted.control.1.trans accepted.control.2) (accepted.variant.1.trans accepted.variant.2)
  have margin : 0 ≤ 196 / 100 * error := mul_nonneg (by norm_num) nonneg
  simp only [analyze, validate_counts_iff.mpr accepted, rate_eq, relative_to_eq, deviation, ok_bind]
  refine ⟨_, rfl, rfl, rfl, rfl, ?_, ?_⟩
  · exact ⟨sub_le_self _ margin, le_add_of_nonneg_right margin⟩
  · intro significant
    simp only [Bool.and_eq_true, decide_eq_true_eq] at significant
    exact significant.2

/-- The figures of an experiment are all defined if and only if an arm is empty, or somebody has
recovered and somebody has not.  The arithmetic is exact: the pooled rate of a float is zero or one
where the exact one is for counts below 2^53, and beyond these it may round to one earlier. -/
theorem always_defined_iff (sound : Sound numerics) (experimentId : String)
    (accepted : validateCounts controlRecovered controlTotal variantRecovered variantTotal = .ok ()) :
    AlwaysDefined numerics experimentId controlRecovered controlTotal variantRecovered variantTotal ↔
      Undegenerate controlRecovered controlTotal variantRecovered variantTotal := by
  rw [validate_counts_iff] at accepted
  obtain ⟨result, analyzed, test, ratio, _, bounds, significant⟩ := analyze_ok sound experimentId accepted
  rw [← tested_iff sound accepted, Tested, ← test]
  constructor
  · rintro ⟨result', analyzed', numbers, _, _⟩
    cases analyzed.symm.trans analyzed'
    obtain ⟨z, z_eq⟩ := numbers.zStatistic
    obtain ⟨p, p_eq⟩ := numbers.pValue
    exact ⟨z, p, by rw [z_eq, p_eq]⟩
  · rintro ⟨z, p, tested⟩
    obtain ⟨statistic, pValue, computed⟩ := sample_ratio_some numerics controlTotal variantTotal
    rw [computed] at ratio
    exact ⟨result, analyzed, ⟨⟨z, congrArg Prod.fst tested⟩, ⟨p, congrArg Prod.snd tested⟩,
      ⟨statistic, congrArg Prod.fst ratio⟩, ⟨pValue, congrArg Prod.snd ratio⟩⟩, bounds, significant⟩

/-- The square root of the real numbers, and probabilities that are right at zero. -/
noncomputable def realNumerics : Numerics ℝ where
  sqrt := Real.sqrt
  normSf _ := (1 / 2 : ℚ)
  chi2Sf _ := 1

theorem real_numerics_sound : Sound realNumerics :=
  ⟨fun x _ => Real.sqrt_nonneg x, fun _ nonneg => Real.sqrt_eq_zero nonneg, rfl⟩

theorem always_defined_iff_halves :
    AlwaysDefined realNumerics "recovery_agent_v1" 4 8 1 2 ↔ Undegenerate 4 8 1 2 :=
  always_defined_iff real_numerics_sound "recovery_agent_v1" (by decide)

/-- Ten cases in each arm, of which nobody has recovered yet. -/
theorem nobody_recovered_undefined :
    validateCounts 0 10 0 10 = .ok () ∧ ¬ AlwaysDefined realNumerics "recovery_agent_v1" 0 10 0 10 := by
  refine ⟨by decide, ?_⟩
  rintro ⟨result, analyzed, numbers, _, _⟩
  have accepted : Accepted 0 10 0 10 := ⟨by decide, by decide⟩
  obtain ⟨result', analyzed', test, _⟩ := analyze_ok real_numerics_sound "recovery_agent_v1" accepted
  cases analyzed'.symm.trans analyzed
  obtain ⟨z, z_eq⟩ := numbers.zStatistic
  obtain ⟨p, p_eq⟩ := numbers.pValue
  rw [z_eq, p_eq] at test
  have undegenerate := (tested_iff real_numerics_sound accepted).mp ⟨z, p, test.symm⟩
  revert undegenerate
  unfold Undegenerate
  decide

/-! ## The configured split -/

/-- The analysis tests the split that gives the variant `p` percent: the totals in that ratio
pass with a statistic of zero, and any others are compared with that split of their sum. -/
structure TestsSplit (numerics : Numerics α) (p : ℤ) : Prop where
  inRatio : ∀ experimentId controlRecovered controlTotal variantRecovered variantTotal result,
    analyze numerics experimentId controlRecovered controlTotal variantRecovered variantTotal = .ok result →
    variantTotal * (100 - p) = controlTotal * p → result.srmChiSquare = some 0 ∧ result.srmPass = true
  statistic : ∀ experimentId controlRecovered controlTotal variantRecovered variantTotal result,
    analyze numerics experimentId controlRecovered controlTotal variantRecovered variantTotal = .ok result →
    controlTotal + variantTotal ≠ 0 →
    result.srmChiSquare = chiSquare [(controlTotal : α), (variantTotal : α)]
      [(controlTotal + variantTotal : ℤ) * (100 - p) / 100, (controlTotal + variantTotal : ℤ) * p / 100]

/-- An analysis is one of accepted counts. -/
theorem analyze_inv (sound : Sound numerics) {result : ExperimentAnalysis α}
    (analyzed : analyze numerics experimentId controlRecovered controlTotal variantRecovered variantTotal =
      .ok result) :
    (result.srmChiSquare, result.srmPValue) = sampleRatioMetrics numerics controlTotal variantTotal ∧
      result.srmPass = result.srmPValue.any (· > 1 / 100) := by
  have accepted : Accepted controlRecovered controlTotal variantRecovered variantTotal := by
    rw [analyze] at analyzed
    obtain ⟨⟨⟩, validated, _⟩ := bind_ok.mp analyzed
    exact validate_counts_iff.mp validated
  obtain ⟨result', analyzed', _, ratio, pass, _⟩ := analyze_ok sound experimentId accepted
  cases analyzed'.symm.trans analyzed
  exact ⟨ratio, pass⟩

/-- The statistic of totals that are not both zero, over one denominator. -/
def ratioStatistic (controlTotal variantTotal : ℤ) : α :=
  ((4 * variantTotal - controlTotal : ℤ) : α) ^ 2 / (4 * (controlTotal + variantTotal) : ℤ)

theorem sample_ratio_statistic (numerics : Numerics α) (nonempty : controlTotal + variantTotal ≠ 0) :
    sampleRatioMetrics numerics controlTotal variantTotal =
      (some (ratioStatistic controlTotal variantTotal),
        some (numerics.chi2Sf (ratioStatistic controlTotal variantTotal))) := by
  have total : ((controlTotal + variantTotal : ℤ) : α) ≠ 0 := Int.cast_ne_zero.mpr nonempty
  rw [sampleRatioMetrics, if_neg nonempty, chi_square_pair (mul_ne_zero total (by norm_num))
    (mul_ne_zero total (by norm_num))]
  have common : ((controlTotal : α) - (controlTotal + variantTotal : ℤ) * (8 / 10)) ^ 2 /
      ((controlTotal + variantTotal : ℤ) * (8 / 10)) +
      ((variantTotal : α) - (controlTotal + variantTotal : ℤ) * (2 / 10)) ^ 2 /
        ((controlTotal + variantTotal : ℤ) * (2 / 10)) = ratioStatistic controlTotal variantTotal := by
    rw [ratioStatistic]
    push_cast at total ⊢
    field_simp
    ring
  rw [common]
  rfl

omit [LinearOrder α] [IsStrictOrderedRing α] in
/-- It vanishes for totals of eighty to twenty. -/
theorem ratio_statistic_zero (inRatio : variantTotal * 80 = controlTotal * 20) :
    (ratioStatistic controlTotal variantTotal : α) = 0 := by
  have balanced : 4 * variantTotal - controlTotal = 0 := by omega
  rw [ratioStatistic, balanced]
  simp

/-- Only of a split of eighty to twenty does a sample in its ratio have the statistic zero. -/
theorem twenty_of_tests_split (sound : Sound numerics) {p : ℤ} (positive : 0 < p) (below : p < 100)
    (tests : TestsSplit numerics p) : p = 20 := by
  have accepted : Accepted 0 (100 - p) 0 p := ⟨by omega, by omega⟩
  obtain ⟨result, analyzed, _, ratio, _⟩ := analyze_ok sound "recovery_agent_v1" accepted
  obtain ⟨zero, _⟩ := tests.inRatio _ _ _ _ _ result analyzed (by ring)
  have nonempty : 100 - p + p ≠ 0 := by omega
  rw [sample_ratio_statistic numerics nonempty, Prod.mk.injEq, zero, Option.some.injEq] at ratio
  have total : ((4 * (100 - p + p) : ℤ) : α) ≠ 0 := Int.cast_ne_zero.mpr (by omega)
  have balanced : ((4 * p - (100 - p) : ℤ) : α) ^ 2 = 0 :=
    (div_eq_zero_iff.mp ratio.1.symm).resolve_right total
  rw [sq_eq_zero_iff, Int.cast_eq_zero] at balanced
  omega

/-- A split of eighty to twenty is tested as it is. -/
theorem tests_split_twenty (sound : Sound numerics) : TestsSplit numerics 20 := by
  constructor
  case statistic =>
    intro _ _ controlTotal _ variantTotal result analyzed nonempty
    obtain ⟨ratio, _⟩ := analyze_inv sound analyzed
    rw [sampleRatioMetrics, if_neg nonempty, Prod.mk.injEq] at ratio
    rw [ratio.1]
    congr 2
    · push_cast
      ring
    · congr 1
      push_cast
      ring
  case inRatio =>
    intro _ _ controlTotal _ variantTotal result analyzed inRatio
    obtain ⟨ratio, pass⟩ := analyze_inv sound analyzed
    by_cases empty : controlTotal + variantTotal = 0
    · rw [sampleRatioMetrics, if_pos empty, Prod.mk.injEq] at ratio
      rw [pass, ratio.2]
      exact ⟨ratio.1, by norm_num⟩
    · rw [sample_ratio_statistic numerics empty, ratio_statistic_zero (by omega), sound.chi2_zero,
        Prod.mk.injEq] at ratio
      rw [pass, ratio.2]
      exact ⟨ratio.1, by norm_num⟩

/-- What the program sets up at its start: the experiment is tested as it is split only while
nobody changes the setting. -/
theorem default_experiment_tested (sound : Sound numerics) {settings : Settings}
    (positive : 0 < settings.experimentVariantPct) (below : settings.experimentVariantPct < 100) :
    (∀ experiment ∈ createDefaultExperiment settings [], TestsSplit numerics experiment.variantSplitPct) ↔
      settings.experimentVariantPct = 20 := by
  have created : createDefaultExperiment settings [] =
      [{ experimentId := "recovery_agent_v1", variantSplitPct := settings.experimentVariantPct }] := rfl
  rw [created, List.forall_mem_singleton]
  constructor
  · exact twenty_of_tests_split sound positive below
  · intro twenty
    rw [twenty]
    exact tests_split_twenty sound

/-- The sample-ratio check tests the configured split if and only if that is twenty percent. -/
theorem tests_split_iff (sound : Sound numerics) {p : ℤ} (positive : 0 < p) (below : p < 100) :
    TestsSplit numerics p ↔ p = 20 := by
  constructor
  · exact twenty_of_tests_split sound positive below
  · rintro rfl
    exact tests_split_twenty sound

theorem tests_split_iff_twenty : TestsSplit realNumerics 20 :=
  (tests_split_iff real_numerics_sound (by decide) (by decide)).mpr rfl

/-- A sample of fifty to fifty under a split of fifty percent. -/
theorem even_split_fails :
    (∃ result, analyze realNumerics "recovery_agent_v1" 0 50 0 50 = .ok result ∧
      result.srmChiSquare = some (225 / 4)) ∧ ¬ TestsSplit realNumerics 50 := by
  have accepted : Accepted 0 50 0 50 := ⟨by decide, by decide⟩
  obtain ⟨result, analyzed, _, ratio, _⟩ := analyze_ok real_numerics_sound "recovery_agent_v1" accepted
  have statistic : result.srmChiSquare = some (225 / 4) := by
    rw [sample_ratio_statistic realNumerics (by decide), Prod.mk.injEq] at ratio
    rw [ratio.1, ratioStatistic]
    norm_num
  refine ⟨⟨result, analyzed, statistic⟩, fun tests => ?_⟩
  obtain ⟨zero, _⟩ := tests.inRatio _ _ _ _ _ result analyzed rfl
  rw [statistic, Option.some.injEq] at zero
  norm_num at zero

/-! ## The endpoint -/

/-- The endpoint counts no more recovered cases than cases. -/
theorem arm_counts_accepted (db : Database) :
    Accepted (armCounts db .control).2 (armCounts db .control).1 (armCounts db .treatment).2
      (armCounts db .treatment).1 := by
  have within (arm : ExperimentArm) : 0 ≤ (armCounts db arm).2 ∧ (armCounts db arm).2 ≤ (armCounts db arm).1 :=
    ⟨Int.natCast_nonneg _, Int.ofNat_le.mpr List.countP_le_length⟩
  exact ⟨within .control, within .treatment⟩

/-- It reports on every experiment that there is. -/
theorem experiment_results_ok (sound : Sound numerics) {experiments : List Experiment} {experiment : Experiment}
    (stored : experiment ∈ experiments) (db : Database) :
    ∃ result, experimentResults numerics experiments experiment.experimentId db = .ok result := by
  obtain ⟨result, analyzed, _⟩ := analyze_ok sound experiment.experimentId (arm_counts_accepted db)
  have known : (experiments.any fun e => e.experimentId = experiment.experimentId) = true :=
    List.any_eq_true.mpr ⟨experiment, stored, decide_eq_true rfl⟩
  exact ⟨result, (if_pos known).trans analyzed⟩

omit [IsStrictOrderedRing α] in
/-- Whatever split an experiment is stored with, its results are the same. -/
theorem experiment_results_blind (numerics : Numerics α) {experiments experiments' : List Experiment}
    (same : experiments.map (·.experimentId) = experiments'.map (·.experimentId)) (db : Database) :
    experimentResults numerics experiments experimentId db =
      experimentResults numerics experiments' experimentId db := by
  have known (listed : List Experiment) : (listed.any fun e => e.experimentId = experimentId) =
      (listed.map (·.experimentId)).any (· = experimentId) := by
    simp [List.any_map, Function.comp_def]
  rw [experimentResults, experimentResults, known, known, same]

end RevenueGuard.AnalyzerProofs
