import Mathlib.Algebra.Order.Field.Basic
import Mathlib.Data.Int.Cast.Lemmas
import RevenueGuard.Tables

/-!
`experiments/analyzer.py`, and the endpoint of `api/main.py` that reports its figures.
The arithmetic is that of an ordered field, without the rounding of floats.  A division
by zero raises where the program divides itself; inside `scipy` and `statsmodels`, which
divide arrays, it makes a figure that is no number, `none`.
-/

namespace RevenueGuard

/-- What is taken from `math` and from `scipy`: the square root, and the probabilities that
a standard normal variable, and a chi-square variable with one degree of freedom, exceed
a value. -/
structure Numerics (α : Type) where
  sqrt : α → α
  normSf : α → α
  chi2Sf : α → α

/-- What `analyze` returns. -/
structure ExperimentAnalysis (α : Type) where
  experimentId : String
  controlRecovered : ℤ
  controlTotal : ℤ
  variantRecovered : ℤ
  variantTotal : ℤ
  sampleSize : ℤ
  controlRate : α
  variantRate : α
  absoluteLift : α
  relativeLift : α
  ciLower : α
  ciUpper : α
  zStatistic : Option α
  pValue : Option α
  isSignificant : Bool
  srmChiSquare : Option α
  srmPValue : Option α
  srmPass : Bool

namespace ExperimentAnalyzer

variable {α : Type} [Field α] [LinearOrder α]

/-- `a / b` of two Python numbers. -/
def divide (a b : α) : Except String α := if b = 0 then .error "division by zero" else .ok (a / b)

/-- `a / b` of two elements of an array. -/
def quotient (a b : α) : Option α := if b = 0 then none else some (a / b)

/-- `math.sqrt`. -/
def squareRoot (numerics : Numerics α) (x : α) : Except String α :=
  if x < 0 then .error "math domain error" else .ok (numerics.sqrt x)

/-- The statistic of `scipy.stats.chisquare`. -/
def chiSquare (observed expected : List α) : Option α :=
  ((observed.zip expected).mapM fun pair : α × α => quotient ((pair.1 - pair.2) ^ 2) pair.2).map List.sum

/-- The statistic of `proportions_ztest`, for two samples. -/
def zStatistic (numerics : Numerics α) (count₁ count₂ nobs₁ nobs₂ : α) : Option α := do
  let pooled ← quotient (count₁ + count₂) (nobs₁ + nobs₂)
  let variance := pooled * (1 - pooled) * ((← quotient 1 nobs₁) + (← quotient 1 nobs₂))
  quotient ((← quotient count₁ nobs₁) - (← quotient count₂ nobs₂)) (numerics.sqrt variance)

/-- `_validate_counts`. -/
def validateCounts (controlRecovered controlTotal variantRecovered variantTotal : ℤ) : Except String Unit :=
  if [controlRecovered, controlTotal, variantRecovered, variantTotal].any (· < 0) then
    .error "Experiment counts must be non-negative integers"
  else if controlRecovered > controlTotal ∨ variantRecovered > variantTotal then
    .error "Recovered counts cannot exceed total counts"
  else .ok ()

/-- `_sample_ratio_metrics`. -/
def sampleRatioMetrics (numerics : Numerics α) (controlTotal variantTotal : ℤ) : Option α × Option α :=
  let total := controlTotal + variantTotal
  if total = 0 then (some 0, some 1)
  else
    let statistic := chiSquare [(controlTotal : α), (variantTotal : α)] [total * (8 / 10), total * (2 / 10)]
    (statistic, statistic.map numerics.chi2Sf)

/-- `_recovery_test`. -/
def recoveryTest (numerics : Numerics α) (controlRecovered controlTotal variantRecovered variantTotal : ℤ) :
    Option α × Option α :=
  if controlTotal = 0 ∨ variantTotal = 0 then (some 0, some 1)
  else
    let zStat := zStatistic numerics (variantRecovered : α) controlRecovered variantTotal controlTotal
    (zStat, zStat.map numerics.normSf)

/-- `_standard_error`. -/
def standardError (numerics : Numerics α) (controlRate : α) (controlTotal : ℤ) (variantRate : α)
    (variantTotal : ℤ) : Except String α := do
  if controlTotal = 0 ∨ variantTotal = 0 then return 0
  else
    squareRoot numerics ((← divide (controlRate * (1 - controlRate)) (controlTotal : α)) +
      (← divide (variantRate * (1 - variantRate)) (variantTotal : α)))

/-- `recovered / total if total else 0.0`. -/
def rate (recovered total : ℤ) : Except String α :=
  if total = 0 then .ok 0 else divide (recovered : α) total

/-- `absolute_lift / control_rate if control_rate else 0.0`. -/
def relativeTo (absoluteLift controlRate : α) : Except String α :=
  if controlRate = 0 then .ok 0 else divide absoluteLift controlRate

/-- `analyze`.  No comparison holds of a figure that is no number. -/
def analyze (numerics : Numerics α) (experimentId : String)
    (controlRecovered controlTotal variantRecovered variantTotal : ℤ) :
    Except String (ExperimentAnalysis α) := do
  validateCounts controlRecovered controlTotal variantRecovered variantTotal
  let controlRate : α ← rate controlRecovered controlTotal
  let variantRate ← rate variantRecovered variantTotal
  let absoluteLift := variantRate - controlRate
  let relativeLift ← relativeTo absoluteLift controlRate
  let (srmChiSquare, srmPValue) := sampleRatioMetrics numerics controlTotal variantTotal
  let (zStat, pValue) := recoveryTest numerics controlRecovered controlTotal variantRecovered variantTotal
  let standardError ← standardError numerics controlRate controlTotal variantRate variantTotal
  return {
    experimentId
    controlRecovered
    controlTotal
    variantRecovered
    variantTotal
    sampleSize := controlTotal + variantTotal
    controlRate
    variantRate
    absoluteLift
    relativeLift
    ciLower := absoluteLift - 196 / 100 * standardError
    ciUpper := absoluteLift + 196 / 100 * standardError
    zStatistic := zStat
    pValue
    isSignificant := pValue.any (· < 5 / 100) && absoluteLift > 0
    srmChiSquare
    srmPValue
    srmPass := srmPValue.any (· > 1 / 100) }

end ExperimentAnalyzer

/-- `experiments`, as far as an operation reads it. -/
structure Experiment where
  experimentId : String
  variantSplitPct : ℤ := 20

/-- The row of `_create_default_experiment`, where there is none. -/
def createDefaultExperiment (settings : Settings) (experiments : List Experiment) : List Experiment :=
  if experiments.any fun e => e.experimentId = "recovery_agent_v1" then experiments
  else experiments ++
    [{ experimentId := "recovery_agent_v1", variantSplitPct := settings.experimentVariantPct }]

/-- The totals of an arm in the query of `experiment_results`: its cases, and those recovered. -/
def armCounts (db : Database) (arm : ExperimentArm) : ℤ × ℤ :=
  let cases := db.recoveryCases.filter fun r => r.experimentArm = some arm
  (cases.length, cases.countP fun r => r.status = .recovered)

/-- `experiment_results`. -/
def experimentResults {α : Type} [Field α] [LinearOrder α] (numerics : Numerics α)
    (experiments : List Experiment) (experimentId : String) (db : Database) :
    Except String (ExperimentAnalysis α) :=
  if experiments.any fun e => e.experimentId = experimentId then
    let (controlTotal, controlRecovered) := armCounts db .control
    let (variantTotal, variantRecovered) := armCounts db .treatment
    ExperimentAnalyzer.analyze numerics experimentId controlRecovered controlTotal variantRecovered variantTotal
  else .error "404: Experiment not found"

end RevenueGuard
