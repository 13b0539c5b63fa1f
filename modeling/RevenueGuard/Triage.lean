import RevenueGuard.Features
import RevenueGuard.Library.Rounding

/-!
`ml/triage_model.py`: the score of a failure, and the three features that explain it.  The model and
the SHAP explainer are files that the training leaves; what they compute of a row of features is a
parameter, as is `numpy.argsort`.
-/

namespace RevenueGuard.TriageScorer

open Library FeatureEngineering

/-- `FEATURE_NAMES`, which the training saves as `feature_names.json`. -/
def featureNames : List String :=
  ["amount_paise", "amount_log", "amount_bucket", "failure_category", "failure_source", "payment_method",
   "bank_encoded", "error_reason_encoded", "hour_of_day", "day_of_week", "is_peak_hours",
   "customer_lifetime_value_log", "customer_total_transactions", "customer_failed_transactions",
   "customer_failure_rate", "customer_opted_out", "gateway_health_score", "gateway_is_degraded",
   "prior_retry_count"]

/-- `REASON_CODE_BY_FEATURE`. -/
def reasonCodeByFeature : List (String × String) :=
  [("prior_retry_count", "RC01"), ("customer_failed_transactions", "RC01"), ("customer_failure_rate", "RC01"),
   ("hour_of_day", "RC01"), ("day_of_week", "RC01"), ("is_peak_hours", "RC01"),
   ("gateway_health_score", "RC02"), ("gateway_is_degraded", "RC02"), ("failure_category", "RC02"),
   ("customer_total_transactions", "RC03"), ("customer_lifetime_value_log", "RC03"),
   ("customer_opted_out", "RC03"), ("amount_paise", "RC04"), ("amount_log", "RC04"), ("amount_bucket", "RC04"),
   ("payment_method", "RC05"), ("bank_encoded", "RC05"), ("error_reason_encoded", "RC05"),
   ("failure_source", "RC05")]

/-- What `TriageScorer()` loads, with what `extract_features` reads: `predict` is
`predict_proba(row)[0, 1]`, `shapValues` what `_get_shap_values` returns, and `argsort` lists entries
in the order of their sizes. -/
structure Artifacts where
  context : FeatureContext
  predict : Features → ℚ
  shapValues : Features → List ℚ
  argsort : List (String × ℚ) → List (String × ℚ)

/-- `_priority`. -/
def priority (probability : ℚ) (amountPaise : ℤ) : Priority :=
  if 7 / 10 < probability ∧ 1000000 < amountPaise then .critical
  else if 5 / 10 < probability ∧ 100000 < amountPaise then .high
  else if 3 / 10 < probability then .medium
  else .low

/-- The `TriageResult` of a score. -/
structure TriageScore extends TriageResult where
  expectedRecoveryPaise : ℤ
  shapFeatureImportances : List (String × ℚ)

/-- `REASON_CODE_BY_FEATURE[name]`. -/
def reasonCode (name : String) : Except String String :=
  match reasonCodeByFeature.lookup name with
  | some code => .ok code
  | none => .error ("'" ++ name ++ "'")

/-- The three features with the largest SHAP values. -/
def rankedFeatures (artifacts : Artifacts) (features : Features) : List (String × ℚ) :=
  (artifacts.argsort (featureNames.zip (artifacts.shapValues features))).reverse.take 3

/-- A SHAP value as a score shows it. -/
def shown (entry : String × ℚ) : String × ℚ := (entry.1, roundSix entry.2)

/-- `score`. -/
def score (artifacts : Artifacts) (event : Dict) (timestamp : Timestamp)
    (gatewayHealth : Option HealthDict := none) : Except String TriageScore := do
  let features ← extractFeatures artifacts.context event timestamp gatewayHealth
  let recoveryProbability := artifacts.predict features
  let amountPaise := max 0 (← ((event.get "amount_paise").orElse (.int 0)).pyInt)
  let ranked := rankedFeatures artifacts features
  let reasonCodes ← ranked.mapM fun entry => reasonCode entry.1
  return {
    recoveryProbability
    expectedRecoveryPaise := roundHalfEven (recoveryProbability * amountPaise)
    priority := priority recoveryProbability amountPaise
    shapReasonCodes := reasonCodes.eraseDups
    shapFeatureImportances := ranked.map shown }

end RevenueGuard.TriageScorer
