import RevenueGuard.CircuitBreaker
import RevenueGuard.State

/-!
`ml/feature_engineering.py`: the features that the triage model scores.  The worker and
the batch evaluator hand their failures over as dictionaries with different keys, and
every look-up falls back to a default.
-/

namespace RevenueGuard

open Library

/-- `case_data` as a dictionary, less its two `datetime`s. -/
def CaseData.toDict (case : CaseData) : Dict :=
  [("case_id", .str case.caseId), ("event_type", .str case.eventType.value),
   ("external_payment_id", .str case.externalPaymentId),
   ("external_order_id", (case.externalOrderId.map Json.str).getD .null),
   ("amount_paise", .int case.amountPaise), ("currency", .str case.currency),
   ("category", .str case.category), ("source", .str case.source), ("reason", .str case.reason),
   ("error_code", .str case.errorCode), ("error_description", case.errorDescription),
   ("customer", .obj case.customer), ("merchant_id", .str case.merchantId), ("metadata", case.metadata),
   ("retry_count", .int case.retryCount)]

/-- A `gateway_health` dictionary: the keys that `extract_features` and `_agent_decide`
look up, where present. -/
structure HealthDict where
  gatewayHealthScore : Option ℚ := none
  healthScore : Option ℚ := none
  successRate : Option ℚ := none
  state : Option String := none
  gatewayIsDegraded : Option Bool := none
  isDegraded : Option Bool := none

/-- `snapshot.model_dump(mode="json")`. -/
def GatewayHealthSnapshot.dump (snapshot : GatewayHealthSnapshot) : HealthDict :=
  { successRate := some snapshot.successRate, state := some snapshot.state.value }

namespace FeatureEngineering

/-- What the features read of a `datetime`, in its own time zone. -/
structure Datetime where
  hour : ℤ
  weekday : ℤ
  deriving DecidableEq, Repr

/-- The aware `datetime` of an instant in UTC.  The epoch was a Thursday. -/
def utcDatetime (t : ℤ) : Datetime :=
  { hour := t / Instant.hours 1 % 24, weekday := (t / Instant.hours 24 + 3) % 7 }

/-- What a `timestamp` may be. -/
inductive Timestamp where
  | datetime (value : Datetime)
  | json (value : Json)

/-- What `extract_features` reads besides its arguments: the classes of the fitted label
encoders, `str.lower()` where every letter counts, `math.log10`, `datetime.fromisoformat` and
the clock. -/
structure FeatureContext where
  labelClasses : String → Option (List String)
  lower : String → String
  log10 : ℤ → ℚ
  fromIsoFormat : String → Option Datetime
  now : Datetime

/-- `FEATURE_NAMES`. -/
structure Features where
  amountPaise : ℤ
  amountLog : ℚ
  amountBucket : ℕ
  failureCategory : ℕ
  failureSource : ℕ
  paymentMethod : ℕ
  bankEncoded : ℕ
  errorReasonEncoded : ℕ
  hourOfDay : ℤ
  dayOfWeek : ℤ
  isPeakHours : Bool
  customerLifetimeValueLog : ℚ
  customerTotalTransactions : ℤ
  customerFailedTransactions : ℤ
  customerFailureRate : ℚ
  customerOptedOut : Bool
  gatewayHealthScore : ℚ
  gatewayIsDegraded : Bool
  priorRetryCount : ℤ

/-- `FAILURE_CATEGORY_ENCODING`. -/
def failureCategoryEncoding : List (String × ℕ) :=
  [("customer", 0), ("systemic", 1), ("business", 2), ("unknown", 3)]

/-- `FAILURE_SOURCE_ENCODING`. -/
def failureSourceEncoding : List (String × ℕ) :=
  [("customer", 0), ("bank", 1), ("gateway", 2), ("network", 3), ("business", 4)]

/-- `PAYMENT_METHOD_ENCODING`. -/
def paymentMethodEncoding : List (String × ℕ) :=
  [("upi", 0), ("card", 1), ("netbanking", 2), ("wallet", 3)]

/-- `UNKNOWN_LABEL`. -/
def unknownLabel : String := "__unknown__"

/-- `_metadata`. -/
def metadataOf (event : Dict) : Dict := (event.get "metadata").dictOrEmpty

/-- `_enum_value`. -/
def enumValue (value : Json) : String := lower value.pyStr

/-- `_infer_failure_category`. -/
def inferFailureCategory (source reason : String) : String :=
  if source = "business" then "business"
  else if source ∈ ["gateway", "network"] then "systemic"
  else if source = "customer" then "customer"
  else if source = "bank" ∧ reason ∈ ["payment_failed", "gateway_error", "server_error", "timeout"] then
    "systemic"
  else if source = "bank" ∧
      reason ∈ ["insufficient_funds", "incorrect_pin", "wrong_pin", "card_expired", "authentication_failed"] then
    "customer"
  else "unknown"

/-- The source that `extract_features` goes by. -/
def sourceOf (event : Dict) : String :=
  enumValue (((event.get "error_source").orElse (event.get "source")).orElse (.str "unknown"))

/-- `str(…)` of the reason of an event. -/
def reasonText (event : Dict) : String :=
  (((event.get "error_reason").orElse (event.get "reason")).orElse (.str unknownLabel)).pyStr

/-- The reason that `extract_features` compares. -/
def reasonOf (event : Dict) : String := lower (reasonText event)

/-- The category that `extract_features` goes by. -/
def categoryOf (event : Dict) : String :=
  let category := enumValue (((event.get "failure_category").orElse (event.get "category")).orElse (.str ""))
  if category = "" then inferFailureCategory (sourceOf event) (reasonOf event) else category

/-- `_parse_timestamp`. -/
def parseTimestamp (context : FeatureContext) : Timestamp → Datetime
  | .datetime value => value
  | .json (.str text) => (context.fromIsoFormat (text.replace "Z" "+00:00")).getD context.now
  | .json _ => context.now

/-- `_amount_bucket`. -/
def amountBucketOf (amountPaise : ℤ) : ℕ :=
  [20000, 50000, 100000, 500000, 1000000].countP fun boundary : ℤ => boundary < amountPaise

/-- `_encode_label`. -/
def encodeLabel (context : FeatureContext) (name : String) (value : Json) : Except String ℕ :=
  match context.labelClasses name with
  | none => .error ("Label encoders are not initialized. Call fit_label_encoders() during training " ++
      "or set_label_encoders() before scoring.")
  | some classes =>
    let label := (value.orElse (.str unknownLabel)).pyStr
    let label := if label ∈ classes then label else unknownLabel
    if label ∈ classes then .ok (classes.idxOf label)
    else .error ("y contains previously unseen labels: ['" ++ label ++ "']")

/-- `bank_encoded`. -/
def bankEncodedOf (context : FeatureContext) (event : Dict) : Except String ℕ :=
  encodeLabel context "bank" ((metadataOf event).get "bank_name")

/-- `error_reason_encoded`. -/
def errorReasonEncodedOf (context : FeatureContext) (event : Dict) : Except String ℕ :=
  encodeLabel context "error_reason" (.str (context.lower (reasonText event)))

/-- `health_score`, with its fall-backs, within 0 and 1. -/
def healthScoreOf (health : HealthDict) : ℚ :=
  min 1 (max 0 (health.gatewayHealthScore.getD (health.healthScore.getD (health.successRate.getD (95 / 100)))))

/-- `degraded`. -/
def degradedOf (health : HealthDict) : Bool :=
  let state := lower ((health.state.filter (· ≠ "")).getD "closed")
  match health.gatewayIsDegraded.or health.isDegraded with
  | some degraded => degraded
  | none => state ∈ ["open", "half_open", "degraded", "down"] || healthScoreOf health < 90 / 100

/-- `prior_retry_count`, with its fall-backs. -/
def priorRetryCountOf (event : Dict) : Except String ℤ := do
  let value := match event.get "prior_retry_count" with
    | .null => (metadataOf event).getD "prior_retry_count" ((metadataOf event).getD "retry_count" (.int 0))
    | value => value
  return max 0 (← (value.orElse (.int 0)).pyInt)

/-- `extract_features`. -/
def extractFeatures (context : FeatureContext) (event : Dict) (timestamp : Timestamp)
    (gatewayHealth : Option HealthDict := none) : Except String Features := do
  let amountPaise := max 0 (← ((event.get "amount_paise").orElse (.int 0)).pyInt)
  let datetime := parseTimestamp context timestamp
  let customer ← ((event.get "customer").orElse (.obj [])).asDict
  let totalTransactions := max 0 (← ((customer.get "total_transactions").orElse (.int 0)).pyInt)
  let failedTransactions := max 0 (← ((customer.get "failed_transactions").orElse (.int 0)).pyInt)
  let failureRate : ℚ := if totalTransactions = 0 then 0 else failedTransactions / totalTransactions
  let health := gatewayHealth.getD {}
  let bankEncoded ← bankEncodedOf context event
  let errorReasonEncoded ← errorReasonEncodedOf context event
  let lifetimeValue ← ((customer.get "lifetime_value_paise").orElse (.int 0)).pyInt
  let priorRetryCount ← priorRetryCountOf event
  return {
    amountPaise
    amountLog := context.log10 (max amountPaise 1)
    amountBucket := amountBucketOf amountPaise
    failureCategory := (failureCategoryEncoding.lookup (categoryOf event)).getD 3
    failureSource := (failureSourceEncoding.lookup (sourceOf event)).getD 4
    paymentMethod := (paymentMethodEncoding.lookup
      (lower (((metadataOf event).get "payment_method").orElse (.str "")).pyStr)).getD 3
    bankEncoded
    errorReasonEncoded
    hourOfDay := datetime.hour
    dayOfWeek := datetime.weekday
    isPeakHours := (10 ≤ datetime.hour && datetime.hour < 14) || (19 ≤ datetime.hour && datetime.hour < 23)
    customerLifetimeValueLog := context.log10 (max lifetimeValue 1)
    customerTotalTransactions := totalTransactions
    customerFailedTransactions := failedTransactions
    customerFailureRate := min 1 failureRate
    customerOptedOut := (customer.get "opted_out").truthy
    gatewayHealthScore := healthScoreOf health
    gatewayIsDegraded := degradedOf health
    priorRetryCount }

/-! ## The label encoders -/

/-- `set_label_encoders`, for encoders as their classes. -/
def setLabelEncoders (encoders : List (String × List String)) (context : FeatureContext) :
    Except String FeatureContext :=
  let missing := ["bank", "error_reason"].filter fun name => (encoders.lookup name).isNone
  if missing ≠ [] then .error ("Missing label encoders: " ++ ", ".intercalate missing)
  else .ok { context with labelClasses := fun name => encoders.lookup name }

/-- `str(…)` of the bank of an event. -/
def bankText (event : Dict) : String :=
  (((metadataOf event).get "bank_name").orElse (.str unknownLabel)).pyStr

/-- `fit_label_encoders`, where `fit` gives the classes that `LabelEncoder().fit` makes of the
labels. -/
def fitLabelEncoders (fit : List String → List String) (events : List Dict) (context : FeatureContext) :
    Except String FeatureContext :=
  let banks := events.map bankText
  let reasons := events.map reasonText
  setLabelEncoders
    [("bank", fit (banks ++ [unknownLabel])), ("error_reason", fit (reasons ++ [unknownLabel]))] context

end FeatureEngineering

/-- The features that `enrich_with_ml` has the scorer extract from the state it is handed. -/
def scoredFeatures (context : FeatureEngineering.FeatureContext) (s : RecoveryState) :
    Except String FeatureEngineering.Features :=
  FeatureEngineering.extractFeatures context s.caseData.toDict
    (.datetime (FeatureEngineering.utcDatetime s.caseData.timestamp)) (s.gatewayHealth.map (·.dump))

end RevenueGuard
