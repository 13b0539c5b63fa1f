import RevenueGuard.State

/-!
The nodes of the recovery graph that lead to a proposed strategy:
`triage_node.py`, `health_node.py`, `experiment_node.py`, `diagnosis_node.py`,
`strategy_node.py` and `channel_node.py`.  The model, the gateway monitor, the
language model and the bandit answer from outside; their answers are inputs.
-/

namespace RevenueGuard

open Library

/-- What `parse_json_response(await get_llm().ainvoke(prompt))` gives: a JSON
object, or whatever the call or the parse raises. -/
abbrev LlmReply := Except String Dict

/-- The answers from outside that a decision rests on.  `expectations` is the
bandit's draw for a segment. -/
structure DecisionInputs where
  score : Except String TriageResult
  unifiedHealth : Except String GatewayHealthSnapshot
  diagnosisReply : LlmReply
  strategyReply : LlmReply
  expectations : String → RecoveryChannel → ℚ

/-! ## Enrichment -/

/-- `enrich_with_ml`. -/
def enrichWithMl (inputs : DecisionInputs) (s : RecoveryState) : Except String RecoveryState := do
  let triage ← inputs.score
  return { s with triage := some triage, auditTrail := appendAudit s "triage_model" "enrich_ml" }

/-- The bank `enrich_with_health` asks about: the worker gives no `bank_name`
beside the metadata. -/
def bankOf (case : CaseData) : String :=
  (((metadataFromCase case).get "bank_name").orElse (.str "unknown")).pyStr

/-- The rail `enrich_with_health` asks about. -/
def railOf (case : CaseData) : String :=
  (((metadataFromCase case).get "payment_method").orElse (.str "unknown")).pyStr

/-- The healthy snapshot `enrich_with_health` falls back to. -/
def healthyDefault (case : CaseData) : GatewayHealthSnapshot :=
  { bank := bankOf case
    rail := railOf case
    state := .closed
    successRate := 95 / 100
    technicalFailureRate := 0
    baselineSuccessRate := 95 / 100
    sampleSize := 0
    confidence := "LOW" }

/-- The snapshot `enrich_with_health` puts in the state. -/
def healthSnapshot (inputs : DecisionInputs) (case : CaseData) : GatewayHealthSnapshot :=
  match inputs.unifiedHealth with
  | .ok snapshot => snapshot
  | .error _ => healthyDefault case

/-- `enrich_with_health`. -/
def enrichWithHealth (inputs : DecisionInputs) (s : RecoveryState) : RecoveryState :=
  { s with
    gatewayHealth := some (healthSnapshot inputs s.caseData)
    auditTrail := appendAudit s "gateway_health" "enrich_health" }

/-! ## Experiment and baseline -/

/-- `assignment.py::assign_experiment_arm`, where `md5` reads the digest of the
bucket text as a number. -/
def assignExperimentArm (md5 : String → ℕ) (caseId : String) (variantPct : ℤ)
    (experimentId : String := "recovery_agent_v1") : Except String ExperimentArm :=
  if 0 ≤ variantPct ∧ variantPct ≤ 100 then
    let bucket := md5 (experimentId ++ ":" ++ caseId) % 100
    .ok (if (bucket : ℤ) < variantPct then .treatment else .control)
  else .error "variant_pct must be between 0 and 100"

/-- `assign_experiment`. -/
def assignExperiment (md5 : String → ℕ) (cfg : Settings) (s : RecoveryState) :
    Except String RecoveryState := do
  let arm ← assignExperimentArm md5 s.caseId cfg.experimentVariantPct
  return { s with
    experimentArm := some arm
    auditTrail := appendAudit s "experiment_router" "assign_experiment" }

/-- `baseline.py::RETRY_SCHEDULE`, in seconds. -/
def retrySchedule : List ℤ := [15 * 60, 6 * 3600, 24 * 3600]

/-- `baseline.py::baseline_decide`. -/
def baselineDecide (retryCount : ℤ) : StrategyDecision :=
  match retrySchedule[(max retryCount 0).toNat]? with
  | none =>
    { actionType := .stop
      reasoning := "Rule-based retry limit reached"
      stoppingReason := some "Maximum of three baseline retries reached" }
  | some delay =>
    { actionType := .smartRetry
      retryDelaySeconds := delay
      channel := some .email
      reasoning := "Rule-based retry #" ++ toString (max retryCount 0 + 1) }

/-- `baseline_decide_node`. -/
def baselineDecideNode (s : RecoveryState) : RecoveryState :=
  { s with
    strategy := some (baselineDecide s.caseData.retryCount)
    auditTrail := appendAudit s "baseline" "baseline_decide" }

/-! ## Diagnosis and strategy -/

/-- `agent_diagnose`. -/
def agentDiagnose (inputs : DecisionInputs) (s : RecoveryState) : Except String RecoveryState := do
  let diagnosis ← DiagnosisResult.validate (← inputs.diagnosisReply)
  return { s with
    diagnosis := some diagnosis
    auditTrail := appendAudit s "diagnosis_agent" "agent_diagnose" }

/-- `_deterministic_override`. -/
def deterministicOverride (cfg : Settings) (s : RecoveryState) : Option StrategyDecision :=
  if s.gatewayHealth.map (·.state) = some .open then
    some
      { actionType := .defer
        retryDelaySeconds := match s.gatewayHealth with
          | some health => if health.retryAfterSeconds = 0 then 600 else health.retryAfterSeconds
          | none => 600
        reasoning := "Gateway circuit breaker is open." }
  else if (s.caseData.customer.get "opted_out").truthy then
    some
      { actionType := .stop
        reasoning := "Customer has opted out of recovery contact."
        stoppingReason := some "Customer opted out" }
  else if s.caseData.retryCount ≥ cfg.maxRetryAttempts then
    some
      { actionType := .stop
        reasoning := "Maximum retry count reached."
        stoppingReason := some "Retry limit reached" }
  else if lower s.caseData.category = "business" then
    some
      { actionType := .escalateHuman
        reasoning := "Business failures require merchant review."
        escalationReason := some "Business-rule failure" }
  else none

/-- `_normalize_strategy_payload`: the action text, the delay, and the other
fields of the payload. -/
def normalizeStrategyPayload (payload : Dict) : Except String (String × ℤ × Dict) := do
  let payload := payload.erase "recovery_probability"
  let actionType := lower (payload.getD "action_type" (.str "stop")).pyStr
  let delay ← ((payload.get "retry_delay_seconds").orElse (.int 0)).pyInt
  return (actionType, max 0 delay, payload)

/-- The decision the strategy reply is read as, with what an `int` field takes. -/
def readDecision (intField : Json → Except String ℤ) (reply : LlmReply) : Except String StrategyDecision := do
  let (actionType, delay, payload) ← normalizeStrategyPayload (← reply)
  StrategyDecision.validate intField actionType delay payload

/-- The decision the strategy reply is read as. -/
def llmDecision (reply : LlmReply) : Except String StrategyDecision := readDecision Json.intField reply

/-- The decision of `agent_strategize`: the override where one applies, and
otherwise what the language model chose. -/
def strategyDecision (cfg : Settings) (inputs : DecisionInputs) (s : RecoveryState) :
    Except String StrategyDecision :=
  match deterministicOverride cfg s with
  | some override => .ok override
  | none => llmDecision inputs.strategyReply

/-- `agent_strategize`. -/
def agentStrategize (cfg : Settings) (inputs : DecisionInputs) (s : RecoveryState) :
    Except String RecoveryState := do
  let decision ← strategyDecision cfg inputs s
  return { s with
    strategy := some decision
    auditTrail := appendAudit s "strategy_agent" "agent_strategize" }

/-! ## Channel selection -/

/-- `whatsapp_eligible is not False`. -/
def whatsappAllowed (customer : Dict) : Bool :=
  match customer.get "whatsapp_eligible" with
  | .bool false => false
  | _ => true

/-- `channel_node.py::_eligible_channels`. -/
def eligibleChannels (customer : Dict) : List RecoveryChannel :=
  if (customer.get "opted_out").truthy then []
  else
    (if (customer.get "phone").truthy then [.sms] else []) ++
    (if (customer.get "email").truthy then [.email] else []) ++
    (if (customer.get "phone").truthy && whatsappAllowed customer then [.whatsapp] else [])

/-- `ChannelBandit.segment_customer`. -/
def segmentCustomer (customer : Dict) : Except String String := do
  let language := lower (strip (customer.getD "preferred_language" (.str "en")).pyStr)
  let lifetimeValue ← ((customer.get "lifetime_value_paise").orElse (.int 0)).pyInt
  let explicitEligibility := customer.get "whatsapp_eligible"
  let eligible := match explicitEligibility with
    | .null => (customer.get "phone").truthy
    | value => value.truthy
  return (if language = "" then "en" else language) ++ "_" ++
    (if lifetimeValue ≥ 1000000 then "high" else "low") ++ "_" ++
    (if eligible && !(customer.get "opted_out").truthy then "wa" else "nowa")

/-- `max(…, key=…)`: the first channel with the greatest expectation. -/
def bestChannel (expectation : RecoveryChannel → ℚ) : RecoveryChannel → List RecoveryChannel → RecoveryChannel
  | best, [] => best
  | best, channel :: rest =>
    bestChannel expectation (if expectation best < expectation channel then channel else best) rest

/-- `ChannelBandit.select_channel`. -/
def banditSelect (expectation : RecoveryChannel → ℚ) (eligible : List RecoveryChannel) :
    Except String RecoveryChannel :=
  match eligible with
  | [] => .error "At least one eligible channel is required"
  | channel :: rest => .ok (bestChannel expectation channel rest)

/-- `channel_node.py::_ACTION_BY_CHANNEL`. -/
def actionByChannel : RecoveryChannel → Except String ActionType
  | .email => .ok .nudgeEmail
  | .sms => .ok .nudgeSms
  | .whatsapp => .ok .nudgeWhatsapp
  | .inApp => .error "'in_app'"

/-- `channel_node.py::_NUDGE_ACTIONS`. -/
def nudgeActions : List ActionType := [.nudgeEmail, .nudgeSms, .nudgeWhatsapp]

/-- `select_channel`. -/
def selectChannel (inputs : DecisionInputs) (s : RecoveryState) : Except String RecoveryState :=
  match s.strategy with
  | none => .ok { s with selectedChannel := none }
  | some strategy =>
    if strategy.actionType ∉ nudgeActions then .ok { s with selectedChannel := strategy.channel }
    else
      match eligibleChannels s.caseData.customer with
      | [] => .ok
        { s with
          strategy := some { strategy with
            actionType := .stop
            channel := none
            reasoning := "No eligible customer communication channel is available."
            stoppingReason := some "No eligible channel" }
          selectedChannel := none
          auditTrail := appendAudit s "channel_bandit" "select_channel" }
      | eligible => do
        let segment ← segmentCustomer s.caseData.customer
        let channel ← banditSelect (inputs.expectations segment) eligible
        let actionType ← actionByChannel channel
        return { s with
          strategy := some { strategy with channel := some channel, actionType }
          selectedChannel := some channel
          auditTrail := appendAudit s "channel_bandit" "select_channel" }

end RevenueGuard
