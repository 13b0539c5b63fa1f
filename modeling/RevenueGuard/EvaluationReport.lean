import RevenueGuard.Analyzer
import RevenueGuard.BatchEvaluator

/-!
The report of `evals/batch_runner.py`: the metrics of the evaluated rows and the amounts in
rupees.  The arithmetic is that of an ordered field, as in the analyzer.
-/

namespace RevenueGuard.BatchEvaluator

open Library ExperimentAnalyzer

/-- What `_calculate_metrics` returns. -/
structure Metrics (α : Type) where
  totalEvents : ℤ
  revenueAtRiskPaise : ℤ
  truePositives : ℤ
  falsePositives : ℤ
  falseNegatives : ℤ
  trueNegatives : ℤ
  precision : α
  «recall» : α
  f1 : α
  simulatedRecoveryPaise : ℤ
  simulatedRecoveryRate : α
  falsePositiveCostPaise : ℤ
  experiment : ExperimentAnalysis α

/-- The sum of a truth value over the rows. -/
def countRows (rows : List EvaluationRow) (p : EvaluationRow → Bool) : ℤ := rows.countP p

/-- `_calculate_metrics`. -/
def calculateMetrics {α : Type} [Field α] [LinearOrder α] (numerics : Numerics α) (rows : List EvaluationRow) :
    Except String (Metrics α) := do
  let revenueAtRisk := (rows.map (·.amountPaise)).sum
  let tp := countRows rows fun row => row.predictedRecoverable && row.actualRecoverable
  let fp := countRows rows fun row => row.predictedRecoverable && !row.actualRecoverable
  let fn := countRows rows fun row => !row.predictedRecoverable && row.actualRecoverable
  let tn := countRows rows fun row => !row.predictedRecoverable && !row.actualRecoverable
  let precision : α ← rate tp (tp + fp)
  let «recall» : α ← rate tp (tp + fn)
  let f1 ← relativeTo ((2 : ℤ) * precision * «recall») (precision + «recall»)
  let recovered := (rows.map (·.simulatedRevenuePaise)).sum
  let falsePositiveCost := (rows.map (·.falsePositiveCostPaise)).sum
  let controlRows := rows.filter fun row => row.arm = .control
  let variantRows := rows.filter fun row => row.arm = .treatment
  let controlRecovered := countRows controlRows (·.simulatedRecovered)
  let variantRecovered := countRows variantRows (·.simulatedRecovered)
  let experiment ← analyze numerics "recovery_agent_v1" controlRecovered controlRows.length variantRecovered
    variantRows.length
  return {
    totalEvents := rows.length
    revenueAtRiskPaise := revenueAtRisk
    truePositives := tp
    falsePositives := fp
    falseNegatives := fn
    trueNegatives := tn
    precision
    «recall»
    f1
    simulatedRecoveryPaise := recovered
    simulatedRecoveryRate := ← rate recovered revenueAtRisk
    falsePositiveCostPaise := falsePositiveCost
    experiment }

/-! ## Amounts -/

/-- The loop of `_money`: the last two digits of what is left go to the groups. -/
def takeGroups (left : List Char) (groups : List (List Char)) : List (List Char) :=
  if left = [] then groups
  else takeGroups (left.take (left.length - 2)) (groups ++ [left.drop (left.length - 2)])
termination_by left.length
decreasing_by
  rw [List.length_take]
  have := List.length_pos_iff.mpr ‹left ≠ []›
  omega

/-- The digits of an amount with their separators. -/
def grouped (digits : List Char) : List Char :=
  if digits.length ≤ 3 then digits
  else
    let groups := takeGroups (digits.take (digits.length - 3)) []
    [','].intercalate groups.reverse ++ ',' :: digits.drop (digits.length - 3)

/-- `_money`. -/
def money (paise : ℤ) : String :=
  let rupees := roundHalfEven ((paise : ℚ) / 100)
  let sign := if rupees < 0 then "-" else ""
  sign ++ "₹" ++ String.ofList (grouped (toString rupees.natAbs).toList)

end RevenueGuard.BatchEvaluator
