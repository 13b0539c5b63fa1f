import RevenueGuard.Features
import RevenueGuard.Library.Rounding
import RevenueGuard.Nodes

/-!
`evals/batch_runner.py`: the offline evaluation of an event, and the ground truth that
`data/generator.py` writes into the events.  The bank and the rail of the health
dictionary, which nothing reads, are left out.
-/

namespace RevenueGuard.BatchEvaluator

open Library FeatureEngineering

/-- `_normalize_event`. -/
def normalizeEvent (event : Dict) : Except String Dict := do
  let amountPaise ← ((event.get "amount_paise").orElse (.int 0)).pyInt
  let metadata := (event.get "metadata").orElse (.obj [])
  let priorRetryCount ← (((← metadata.asDict).getD "prior_retry_count" (.int 0)).orElse (.int 0)).pyInt
  return [
    ("case_id", (event.get "case_id").orElse (event.get "event_id")),
    ("event_type", event.getD "event_type" (.str "payment_failed")), ("amount_paise", .int amountPaise),
    ("currency", event.getD "currency" (.str "INR")),
    ("error_source", event.getD "error_source" (.str "unknown")),
    ("error_step", event.getD "error_step" (.str "payment_authorization")),
    ("error_reason", event.getD "error_reason" (.str "unknown")),
    ("error_code", event.getD "error_code" (.str "UNKNOWN_ERROR")),
    ("error_description", event.getD "error_description" (.str "")),
    ("customer", (event.get "customer").orElse (.obj [])),
    ("merchant_id", event.getD "merchant_id" (.str "unknown")), ("timestamp", event.get "timestamp"),
    ("metadata", metadata), ("prior_retry_count", .int priorRetryCount)]

/-- `str(event.get(key, "")).lower()`. -/
def loweredField (event : Dict) (key : String) : String := lower (event.getD key (.str "")).pyStr

/-- `_simulate_gateway_health`. -/
def simulateGatewayHealth (event : Dict) : HealthDict :=
  let reason := loweredField event "error_reason"
  let source := loweredField event "error_source"
  if reason ∈ ["gateway_error", "server_error", "timeout"] ∨ source ∈ ["gateway", "network"] then
    { successRate := some (68 / 100), gatewayHealthScore := some (68 / 100)
      state := some (if reason = "gateway_error" then "open" else "half_open") }
  else if source = "business" then
    { successRate := some (96 / 100), gatewayHealthScore := some (96 / 100), state := some "closed" }
  else { successRate := some (91 / 100), gatewayHealthScore := some (91 / 100), state := some "closed" }

/-- `_agent_decide`. -/
def agentDecide (event : Dict) (health : HealthDict) (probability : ℚ) : Except String ActionType := do
  let customer ← ((event.get "customer").orElse (.obj [])).asDict
  let reason := loweredField event "error_reason"
  let source := loweredField event "error_source"
  return if (customer.get "opted_out").truthy ∨ probability ≤ 15 / 100 then .stop
    else if source = "business" then .escalateHuman
    else if health.state = some "open" then .defer
    else if reason ∈ ["gateway_error", "server_error", "timeout", "payment_failed"] then .smartRetry
    else if reason ∈ ["card_expired", "mandate_revoked"] then .paymentLink
    else if lower (customer.getD "preferred_language" (.str "en")).pyStr = "hi" then .nudgeWhatsapp
    else .nudgeEmail

/-- The features that `_evaluate_event` has the scorer extract from an event, with the
health it goes by. -/
def evaluatedFeatures (context : FeatureContext) (event : Dict) (health : HealthDict) :
    Except String Features := do
  let normalized ← normalizeEvent event
  extractFeatures context normalized (.json (normalized.get "timestamp")) (some health)

/-! ## The simulated outcome -/

/-- The reasons for which a retry by rule recovers a payment. -/
def retriedReasons : List String := ["gateway_error", "server_error", "timeout", "payment_failed"]

/-- `_simulate_baseline_recovery`. -/
def simulateBaselineRecovery (event : Dict) (actualRecoverable : Bool) : Bool :=
  actualRecoverable && loweredField event "error_reason" ∈ retriedReasons

/-- The `action_match` of a recovery method. -/
def actionMatch (method : String) (actionType : ActionType) : Bool :=
  if method = "smart_retry" then actionType ∈ [.smartRetry, .defer]
  else if method = "payment_link" then actionType = .paymentLink
  else if method = "nudge" then actionType ∈ [.nudgeEmail, .nudgeSms, .nudgeWhatsapp]
  else false

/-- `_simulate_agent_recovery`. -/
def simulateAgentRecovery (event : Dict) (actionType : ActionType) (probability : ℚ)
    (actualRecoverable : Bool) :
    Except String Bool :=
  if !actualRecoverable || actionType ∈ [.stop, .escalateHuman] then .ok false
  else do
    let truth ← (event.getD "ground_truth" (.obj [])).asDict
    let method := lower (truth.getD "expected_recovery_method" (.str "none")).pyStr
    return actionMatch method actionType && 35 / 100 ≤ probability

/-- `_false_positive_cost`. -/
def falsePositiveCost : ActionType → ℤ
  | .nudgeSms => 25
  | .nudgeWhatsapp => 50
  | .nudgeEmail => 0
  | .paymentLink => 100
  | .smartRetry => 35
  | .defer => 10
  | .escalateHuman => 500
  | .stop => 0

structure EvaluationRow where
  eventId : String
  arm : ExperimentArm
  amountPaise : ℤ
  probability : ℚ
  predictedRecoverable : Bool
  actualRecoverable : Bool
  actionType : ActionType
  simulatedRecovered : Bool
  simulatedRevenuePaise : ℤ
  falsePositiveCostPaise : ℤ
  deriving DecidableEq

/-- The decision and the outcome of an event in its arm, in `_evaluate_event`. -/
def simulateArm (arm : ExperimentArm) (event normalized : Dict) (health : HealthDict) (probability : ℚ)
    (actualRecoverable : Bool) : Except String (ActionType × Bool) :=
  match arm with
  | .control => .ok ((baselineDecide 0).actionType, simulateBaselineRecovery event actualRecoverable)
  | .treatment => do
    let actionType ← agentDecide normalized health probability
    return (actionType, ← simulateAgentRecovery event actionType probability actualRecoverable)

/-- `_evaluate_event`, where `score` is the recovery probability of the triage model. -/
def evaluateEvent (md5 : String → ℕ) (score : Dict → HealthDict → Except String ℚ) (event : Dict) :
    Except String EvaluationRow := do
  let normalized ← normalizeEvent event
  let health := simulateGatewayHealth normalized
  let probability ← score normalized health
  let truth ← (event.getD "ground_truth" (.obj [])).asDict
  let predictedRecoverable := decide (1 / 2 ≤ probability)
  let actualRecoverable := (truth.getD "is_recoverable" (.bool false)).truthy
  let amountPaise ← ((normalized.get "amount_paise").orElse (.int 0)).pyInt
  let arm ← assignExperimentArm md5 (normalized.get "case_id").pyStr 20
  let (actionType, simulatedRecovered) ← simulateArm arm event normalized health probability actualRecoverable
  return {
    eventId := (event.getD "event_id" (normalized.get "case_id")).pyStr
    arm, amountPaise
    probability := roundSix probability
    predictedRecoverable, actualRecoverable, actionType, simulatedRecovered
    simulatedRevenuePaise := if simulatedRecovered then amountPaise else 0
    falsePositiveCostPaise :=
      if predictedRecoverable && !actualRecoverable then falsePositiveCost actionType else 0 }

/-! ## The ground truth -/

/-- The `method_by_reason` of `_ground_truth`. -/
def methodByReason : List (String × String) :=
  [("payment_failed", "smart_retry"), ("gateway_error", "smart_retry"), ("server_error", "smart_retry"),
   ("timeout", "smart_retry"), ("insufficient_funds", "nudge"), ("card_expired", "payment_link"),
   ("authentication_failed", "nudge"), ("incorrect_pin", "nudge"), ("mandate_revoked", "payment_link")]

/-- The method that recovers a payment which failed for a reason, if anything does. -/
def recoveryMethod (errorReason : String) (isRecoverable : Bool) : String :=
  if isRecoverable then (methodByReason.lookup errorReason).getD "none" else "none"

/-- The recovery probability that `_ground_truth` draws against. -/
def recoveryOdds (errorSource errorReason paymentMethod : String) (isSystemicBucket optedOut : Bool) : ℚ :=
  if optedOut || errorSource = "business" then 0
  else if paymentMethod = "upi" && errorReason = "timeout" && isSystemicBucket then 85 / 100
  else if errorReason = "gateway_error" then 90 / 100
  else if errorReason = "insufficient_funds" then 60 / 100
  else if errorReason = "card_expired" then 70 / 100
  else if errorReason = "authentication_failed" then 40 / 100
  else if errorReason = "incorrect_pin" then 30 / 100
  else if errorReason = "mandate_revoked" then 20 / 100
  else if isSystemicBucket then 55 / 100 else 35 / 100

/-- `_ground_truth`, where `draw` is what `random.random()` gives. -/
def groundTruth (errorSource errorReason paymentMethod : String) (isSystemicBucket optedOut : Bool) (draw : ℚ) :
    Dict :=
  let probability := recoveryOdds errorSource errorReason paymentMethod isSystemicBucket optedOut
  let isRecoverable := decide (draw < probability)
  [("is_recoverable", .bool isRecoverable),
   ("expected_recovery_method", .str (recoveryMethod errorReason isRecoverable)),
   ("recovery_difficulty", .str
     (if 80 / 100 ≤ probability then "easy" else if 50 / 100 ≤ probability then "medium" else "hard"))]

end RevenueGuard.BatchEvaluator
