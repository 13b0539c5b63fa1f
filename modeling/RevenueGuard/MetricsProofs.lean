import RevenueGuard.AnalyzerProofs
import RevenueGuard.EvaluationReport
import RevenueGuard.Library.Contingency
import RevenueGuard.SimulationProofs

/-!
The metrics of an evaluation against the rows.  The counts of the four classes and of the
two arms are those of the rows and each add up to them, so every ratio is one of a part to
its whole, and the analyzer accepts the counts of the arms.
-/

namespace RevenueGuard.MetricsProofs

open Library Library.Raises Contingency BatchEvaluator ExperimentAnalyzer AnalyzerProofs SimulationProofs

variable {α : Type} [Field α] [LinearOrder α] [IsStrictOrderedRing α] {rows : List EvaluationRow}
  {row : EvaluationRow}

/-- A row of which the revenue is the amount where it was recovered, and nothing else. -/
structure Accounted (row : EvaluationRow) : Prop where
  amount : 0 ≤ row.amountPaise
  revenue : row.simulatedRevenuePaise = if row.simulatedRecovered then row.amountPaise else 0

/-- The rows that `run` evaluates are such, of amounts that are not negative. -/
theorem evaluated_accounted {md5 : String → ℕ} {score : Dict → HealthDict → Except String ℚ}
    {events : List Dict}
    (ran : events.mapM (evaluateEvent md5 score) = .ok rows) (amounts : ∀ row ∈ rows, 0 ≤ row.amountPaise) :
    ∀ row ∈ rows, Accounted row := by
  have revenues : ∀ row ∈ rows,
      row.simulatedRevenuePaise = if row.simulatedRecovered then row.amountPaise else 0 := by
    refine map_m_ok (fun event row evaluated => ?_) ran
    obtain ⟨_, _, evaluates⟩ := evaluate_event_ok evaluated
    exact evaluates.revenue
  exact fun row listed => ⟨amounts row listed, revenues row listed⟩

/-! ## Sums over the rows -/

theorem revenue_range (accounted : Accounted row) :
    0 ≤ row.simulatedRevenuePaise ∧ row.simulatedRevenuePaise ≤ row.amountPaise := by
  rw [accounted.revenue]
  split
  · exact ⟨accounted.amount, le_refl _⟩
  · exact ⟨le_refl 0, accounted.amount⟩

/-- What is recovered is a part of what is at risk. -/
theorem recovered_range (accounted : ∀ row ∈ rows, Accounted row) :
    0 ≤ (rows.map (·.simulatedRevenuePaise)).sum ∧
      (rows.map (·.simulatedRevenuePaise)).sum ≤ (rows.map (·.amountPaise)).sum := by
  refine ⟨List.sum_nonneg fun revenue listed => ?_, List.sum_le_sum fun row listed => ?_⟩
  · obtain ⟨row, there, rfl⟩ := List.mem_map.mp listed
    exact (revenue_range (accounted row there)).1
  · exact (revenue_range (accounted row listed)).2

/-- The amounts of the rows that satisfy something, as a sum over all of them. -/
theorem filtered_amounts (p : EvaluationRow → Bool) (rows : List EvaluationRow) :
    ((rows.filter p).map (·.amountPaise)).sum =
      (rows.map fun row => if p row then row.amountPaise else 0).sum := by
  rw [List.sum_map_ite]
  simp

/-- What is recovered is the amounts of the recovered rows. -/
theorem recovered_amounts (accounted : ∀ row ∈ rows, Accounted row) :
    (rows.map (·.simulatedRevenuePaise)).sum =
      ((rows.filter (·.simulatedRecovered)).map (·.amountPaise)).sum := by
  rw [filtered_amounts, List.map_congr_left fun row listed => (accounted row listed).revenue]

theorem classes_partition (rows : List EvaluationRow) :
    (countRows rows fun row => row.predictedRecoverable && row.actualRecoverable) +
        (countRows rows fun row => row.predictedRecoverable && !row.actualRecoverable) +
        (countRows rows fun row => !row.predictedRecoverable && row.actualRecoverable) +
        (countRows rows fun row => !row.predictedRecoverable && !row.actualRecoverable) = rows.length := by
  have partition := count_partition rows (·.predictedRecoverable) (·.actualRecoverable)
  unfold countRows
  exact_mod_cast partition

theorem arms_partition (rows : List EvaluationRow) :
    ((rows.filter fun row => row.arm = .control).length : ℤ) +
      (rows.filter fun row => row.arm = .treatment).length = rows.length := by
  have other : (fun row : EvaluationRow => decide (row.arm = ExperimentArm.treatment)) =
      fun row => !decide (row.arm = .control) := by
    funext row
    cases row.arm <;> rfl
  rw [other]
  exact_mod_cast (List.length_eq_length_filter_add
    fun row : EvaluationRow => decide (row.arm = ExperimentArm.control)).symm

/-- The counts of the arms are accepted. -/
theorem arms_accepted (rows : List EvaluationRow) :
    Accepted (countRows (rows.filter fun row => row.arm = .control) (·.simulatedRecovered))
      (rows.filter fun row => row.arm = .control).length
      (countRows (rows.filter fun row => row.arm = .treatment) (·.simulatedRecovered))
      (rows.filter fun row => row.arm = .treatment).length := by
  have within (rows : List EvaluationRow) :
      0 ≤ countRows rows (·.simulatedRecovered) ∧ countRows rows (·.simulatedRecovered) ≤ rows.length :=
    ⟨Int.natCast_nonneg _, Int.ofNat_le.mpr List.countP_le_length⟩
  exact ⟨within _, within _⟩

/-! ## Ratios -/

/-- The f1 of three counts, over one denominator. -/
theorem f1_eq {tp fp fn : ℤ} (true_pos : 0 ≤ tp) (false_pos : 0 ≤ fp) (false_neg : 0 ≤ fn) :
    2 * ((tp : α) / (tp + fp : ℤ)) * ((tp : α) / (tp + fn : ℤ)) /
        ((tp : α) / (tp + fp : ℤ) + (tp : α) / (tp + fn : ℤ)) =
      if 2 * tp + fp + fn = 0 then 0 else 2 * (tp : α) / (2 * tp + fp + fn) := by
  have mean :=
    harmonic_mean (α := α) (Int.cast_nonneg true_pos) (Int.cast_nonneg false_pos) (Int.cast_nonneg false_neg)
  push_cast
  rw [mean]
  split
  · rename_i none
    have zero : 2 * (tp : α) + fp + fn = 0 := by exact_mod_cast none
    rw [zero, div_zero]
  · rfl

theorem f1_range {tp fp fn : ℤ} (true_pos : 0 ≤ tp) (false_pos : 0 ≤ fp) (false_neg : 0 ≤ fn) :
    0 ≤ (if 2 * tp + fp + fn = 0 then 0 else 2 * (tp : α) / (2 * tp + fp + fn)) ∧
      (if 2 * tp + fp + fn = 0 then 0 else 2 * (tp : α) / (2 * tp + fp + fn)) ≤ 1 := by
  split
  · exact ⟨le_refl 0, zero_le_one⟩
  · have range : 0 ≤ ((2 * tp : ℤ) : α) / (2 * tp + fp + fn : ℤ) ∧
        ((2 * tp : ℤ) : α) / (2 * tp + fp + fn : ℤ) ≤ 1 := rate_range (by omega) (by omega)
    push_cast at range
    exact range

omit [LinearOrder α] [IsStrictOrderedRing α] in
/-- The ratio of a part to its whole, where there is one. -/
theorem ratio_eq (part whole : ℤ) : (part : α) / whole = if whole = 0 then 0 else (part : α) / whole := by
  split
  · rename_i none
    rw [none, Int.cast_zero, div_zero]
  · rfl

/-! ## The metrics -/

/-- The classes are counts of the rows, and add up to all of them. -/
structure ClassesOf (rows : List EvaluationRow) (metrics : Metrics α) : Prop where
  events : metrics.totalEvents = rows.length
  truePositives : metrics.truePositives =
    countRows rows fun row => row.predictedRecoverable && row.actualRecoverable
  falsePositives : metrics.falsePositives =
    countRows rows fun row => row.predictedRecoverable && !row.actualRecoverable
  falseNegatives : metrics.falseNegatives =
    countRows rows fun row => !row.predictedRecoverable && row.actualRecoverable
  trueNegatives : metrics.trueNegatives =
    countRows rows fun row => !row.predictedRecoverable && !row.actualRecoverable
  all : metrics.truePositives + metrics.falsePositives + metrics.falseNegatives + metrics.trueNegatives =
    rows.length

/-- The amounts are sums over the rows. -/
structure AmountsOf (rows : List EvaluationRow) (metrics : Metrics α) : Prop where
  atRisk : metrics.revenueAtRiskPaise = (rows.map (·.amountPaise)).sum
  recovered : metrics.simulatedRecoveryPaise = ((rows.filter (·.simulatedRecovered)).map (·.amountPaise)).sum
  cost : metrics.falsePositiveCostPaise = (rows.map (·.falsePositiveCostPaise)).sum

/-- The ratios are those of the counts and amounts, and between zero and one. -/
structure RatiosOf (metrics : Metrics α) : Prop where
  precision : metrics.precision =
    if metrics.truePositives + metrics.falsePositives = 0 then 0
    else (metrics.truePositives : α) / (metrics.truePositives + metrics.falsePositives : ℤ)
  «recall» : metrics.recall =
    if metrics.truePositives + metrics.falseNegatives = 0 then 0
    else (metrics.truePositives : α) / (metrics.truePositives + metrics.falseNegatives : ℤ)
  f1 : metrics.f1 =
    if 2 * metrics.truePositives + metrics.falsePositives + metrics.falseNegatives = 0 then 0
    else 2 * (metrics.truePositives : α) /
      (2 * metrics.truePositives + metrics.falsePositives + metrics.falseNegatives)
  recovery : metrics.simulatedRecoveryRate =
    if metrics.revenueAtRiskPaise = 0 then 0
    else (metrics.simulatedRecoveryPaise : α) / metrics.revenueAtRiskPaise
  precision_range : 0 ≤ metrics.precision ∧ metrics.precision ≤ 1
  recall_range : 0 ≤ metrics.recall ∧ metrics.recall ≤ 1
  f1_range : 0 ≤ metrics.f1 ∧ metrics.f1 ≤ 1
  recovery_range : 0 ≤ metrics.simulatedRecoveryRate ∧ metrics.simulatedRecoveryRate ≤ 1

/-- The experiment is the analysis of the arms, which add up to all of the rows and are such as
the analyzer accepts. -/
structure ArmsOf (numerics : Numerics α) (rows : List EvaluationRow) (metrics : Metrics α) : Prop where
  controlTotal : metrics.experiment.controlTotal = (rows.filter fun row => row.arm = .control).length
  controlRecovered : metrics.experiment.controlRecovered =
    countRows (rows.filter fun row => row.arm = .control) (·.simulatedRecovered)
  variantTotal : metrics.experiment.variantTotal = (rows.filter fun row => row.arm = .treatment).length
  variantRecovered : metrics.experiment.variantRecovered =
    countRows (rows.filter fun row => row.arm = .treatment) (·.simulatedRecovered)
  all : metrics.experiment.controlTotal + metrics.experiment.variantTotal = rows.length
  accepted : validateCounts metrics.experiment.controlRecovered metrics.experiment.controlTotal
    metrics.experiment.variantRecovered metrics.experiment.variantTotal = .ok ()
  analyzed : analyze numerics "recovery_agent_v1" metrics.experiment.controlRecovered
    metrics.experiment.controlTotal metrics.experiment.variantRecovered metrics.experiment.variantTotal =
      .ok metrics.experiment

/-- Every figure of the metrics is the right function of the rows. -/
structure RightOf (numerics : Numerics α) (rows : List EvaluationRow) (metrics : Metrics α) : Prop where
  classes : ClassesOf rows metrics
  amounts : AmountsOf rows metrics
  ratios : RatiosOf metrics
  arms : ArmsOf numerics rows metrics

/-- Of rows that are accounted for, the metrics are always there, and right. -/
theorem metrics_right (numerics : Numerics α) (accounted : ∀ row ∈ rows, Accounted row) :
    ∃ metrics, calculateMetrics numerics rows = .ok metrics ∧ RightOf numerics rows metrics := by
  obtain ⟨experiment, analyzed, controlRecovered, controlTotal, variantRecovered, variantTotal⟩ :=
    analyze_returns numerics "recovery_agent_v1" (arms_accepted rows)
  obtain ⟨recovered_nonneg, recovered_le⟩ := recovered_range accounted
  have counted (p : EvaluationRow → Bool) : 0 ≤ countRows rows p := Int.natCast_nonneg _
  simp only [calculateMetrics, rate_eq, relative_to_eq, analyzed, ok_bind, Int.cast_ofNat]
  refine ⟨_, rfl, ?_⟩
  constructor
  case classes => exact ⟨rfl, rfl, rfl, rfl, rfl, classes_partition rows⟩
  case amounts => exact ⟨rfl, recovered_amounts accounted, rfl⟩
  case ratios =>
    constructor
    case precision => exact ratio_eq _ _
    case «recall» => exact ratio_eq _ _
    case f1 => exact f1_eq (α := α) (counted _) (counted _) (counted _)
    case recovery => exact ratio_eq _ _
    case precision_range => exact rate_range (counted _) (Int.le_add_of_nonneg_right (counted _))
    case recall_range => exact rate_range (counted _) (Int.le_add_of_nonneg_right (counted _))
    case f1_range =>
      dsimp only
      rw [f1_eq (α := α) (counted _) (counted _) (counted _)]
      exact f1_range (α := α) (counted _) (counted _) (counted _)
    case recovery_range => exact rate_range recovered_nonneg recovered_le
  case arms =>
    constructor
    case controlTotal => exact controlTotal
    case controlRecovered => exact controlRecovered
    case variantTotal => exact variantTotal
    case variantRecovered => exact variantRecovered
    case all =>
      rw [controlTotal, variantTotal]
      exact arms_partition rows
    case accepted =>
      rw [controlRecovered, controlTotal, variantRecovered, variantTotal]
      exact validate_counts_iff.mpr (arms_accepted rows)
    case analyzed =>
      rw [controlRecovered, controlTotal, variantRecovered, variantTotal]
      exact analyzed

/-- Two rows, of which the first is predicted and recovered. -/
def sampleRows : List EvaluationRow :=
  [timedOutRow .treatment (1 / 2) true, timedOutRow .control (1 / 5) false]

theorem metrics_right_sample :
    ∃ metrics, calculateMetrics realNumerics sampleRows = .ok metrics ∧
      RightOf realNumerics sampleRows metrics := by
  refine metrics_right realNumerics fun row listed => ?_
  simp only [sampleRows, List.mem_cons, List.not_mem_nil, or_false] at listed
  rcases listed with rfl | rfl <;> exact ⟨by decide, rfl⟩

end RevenueGuard.MetricsProofs
