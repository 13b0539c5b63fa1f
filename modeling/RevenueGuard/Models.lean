import RevenueGuard.Library.PyValue
import RevenueGuard.Library.Instants

/-!
`config.py`, `models/enums.py` and `models/schemas.py`: the settings, the
enumerations with the text each member stands for, and the validated records
that pass between the nodes of the recovery graph.
-/

namespace RevenueGuard

open Library

/-! ## Settings -/

/-- The fields of `config.py::Settings` that the modelled code reads. -/
structure Settings where
  razorpayWebhookSecret : String := ""
  highValueThreshold : ℤ := 5000000
  maxRetryAttempts : ℤ := 3
  cooldownHours : ℤ := 24
  quietHoursStart : ℤ := 21
  quietHoursEnd : ℤ := 9
  experimentVariantPct : ℤ := 20

/-! ## Enumerations -/

inductive EventType where
  | paymentFailed | subscriptionHalted | subscriptionPending | checkoutAbandoned
  | invoiceExpired | invoiceOverdue
  deriving DecidableEq, Repr

def EventType.value : EventType → String
  | paymentFailed => "payment_failed"
  | subscriptionHalted => "subscription_halted"
  | subscriptionPending => "subscription_pending"
  | checkoutAbandoned => "checkout_abandoned"
  | invoiceExpired => "invoice_expired"
  | invoiceOverdue => "invoice_overdue"

inductive EventStatus where
  | detected | triaging | diagnosing | strategizing | executing | recovered | failed | escalated
  | stopped
  deriving DecidableEq, Repr

inductive FailureCategory where
  | customer | systemic | business | unknown
  deriving DecidableEq, Repr

def FailureCategory.value : FailureCategory → String
  | customer => "customer"
  | systemic => "systemic"
  | business => "business"
  | unknown => "unknown"

inductive FailureSource where
  | customer | bank | gateway | network | business | razorpay | unknown
  deriving DecidableEq, Repr

def FailureSource.value : FailureSource → String
  | customer => "customer"
  | bank => "bank"
  | gateway => "gateway"
  | network => "network"
  | business => "business"
  | razorpay => "razorpay"
  | unknown => "unknown"

inductive ActionType where
  | smartRetry | paymentLink | nudgeEmail | nudgeSms | nudgeWhatsapp | escalateHuman | defer | stop
  deriving DecidableEq, Repr

def ActionType.value : ActionType → String
  | smartRetry => "smart_retry"
  | paymentLink => "payment_link"
  | nudgeEmail => "nudge_email"
  | nudgeSms => "nudge_sms"
  | nudgeWhatsapp => "nudge_whatsapp"
  | escalateHuman => "escalate_human"
  | defer => "defer"
  | stop => "stop"

/-- `ActionType(text)`. -/
def ActionType.ofValue (text : String) : Except String ActionType :=
  match text with
  | "smart_retry" => .ok smartRetry
  | "payment_link" => .ok paymentLink
  | "nudge_email" => .ok nudgeEmail
  | "nudge_sms" => .ok nudgeSms
  | "nudge_whatsapp" => .ok nudgeWhatsapp
  | "escalate_human" => .ok escalateHuman
  | "defer" => .ok defer
  | "stop" => .ok stop
  | _ => .error ("'" ++ text ++ "' is not a valid ActionType")

inductive RecoveryChannel where
  | sms | email | whatsapp | inApp
  deriving DecidableEq, Repr

/-- `RecoveryChannel(text)`. -/
def RecoveryChannel.ofValue (text : String) : Except String RecoveryChannel :=
  match text with
  | "sms" => .ok sms
  | "email" => .ok email
  | "whatsapp" => .ok whatsapp
  | "in_app" => .ok inApp
  | _ => .error ("'" ++ text ++ "' is not a valid RecoveryChannel")

inductive Priority where
  | critical | high | medium | low
  deriving DecidableEq, Repr

/-- Circuit breaker states; `closed` is healthy. -/
inductive GatewayHealthState where
  | closed | open | halfOpen
  deriving DecidableEq, Repr

inductive ExperimentArm where
  | control | treatment
  deriving DecidableEq, Repr

/-- `recovery_approvals.status`. -/
inductive ApprovalStatus where
  | pending | approved | rejected
  deriving DecidableEq, Repr

/-! ## Records -/

/-- `schemas.py::TriageResult`, as far as the graph and the worker read it. -/
structure TriageResult where
  recoveryProbability : ℚ
  priority : Priority
  shapReasonCodes : List String := []

structure GatewayHealthSnapshot where
  bank : String
  rail : String
  state : GatewayHealthState
  successRate : ℚ
  technicalFailureRate : ℚ
  businessDeclineRate : ℚ := 0
  timeoutRate : ℚ := 0
  baselineSuccessRate : ℚ := 95 / 100
  sampleSize : ℤ
  windowMinutes : ℤ := 15
  recommendedAction : String := "RETRY_NOW"
  retryAfterSeconds : ℤ := 0
  confidence : String := "HIGH"

structure DiagnosisResult where
  rootCause : String
  isTransient : Bool
  failureCategory : String
  reasoning : String
  timeSensitivity : String := "hours"

structure StrategyDecision where
  actionType : ActionType
  channel : Option RecoveryChannel := none
  reasoning : String := ""
  retryDelaySeconds : ℤ := 0
  messageContent : Option String := none
  paymentLinkAmountPaise : Option ℤ := none
  escalationReason : Option String := none
  stoppingReason : Option String := none
  deriving DecidableEq

/-- `DiagnosisResult(**payload)`. -/
def DiagnosisResult.validate (payload : Dict) : Except String DiagnosisResult := do
  let rootCause ← payload.required "root_cause" Json.strField
  let isTransient ← payload.required "is_transient" Json.boolField
  let failureCategory ← payload.required "failure_category" Json.strField
  let reasoning ← payload.required "reasoning" Json.strField
  let timeSensitivity ← payload.withDefault "time_sensitivity" Json.strField "hours"
  return { rootCause, isTransient, failureCategory, reasoning, timeSensitivity }

/-- An enumeration field accepts the text of a member. -/
def enumField {α : Type} (ofValue : String → Except String α) (value : Json) : Except String α := do
  ofValue (← value.strField)

/-- `StrategyDecision(**payload)` for the payload `_normalize_strategy_payload`
leaves, whose action text and delay it has already replaced.  What an `int` field
takes is a matter of the library that validates it. -/
def StrategyDecision.validate (intField : Json → Except String ℤ) (actionType : String)
    (retryDelaySeconds : ℤ) (payload : Dict) : Except String StrategyDecision := do
  let actionType ← ActionType.ofValue actionType
  let channel ← payload.withDefault "channel" (Json.optionalField (enumField RecoveryChannel.ofValue)) none
  let reasoning ← payload.withDefault "reasoning" Json.strField ""
  let messageContent ← payload.withDefault "message_content" (Json.optionalField Json.strField) none
  let paymentLinkAmountPaise ←
    payload.withDefault "payment_link_amount_paise" (Json.optionalField intField) none
  let escalationReason ← payload.withDefault "escalation_reason" (Json.optionalField Json.strField) none
  let stoppingReason ← payload.withDefault "stopping_reason" (Json.optionalField Json.strField) none
  return { actionType, channel, reasoning, retryDelaySeconds, messageContent, paymentLinkAmountPaise,
           escalationReason, stoppingReason }

/-- `schemas.py::ApprovalRecord`, as `request_approval_node` builds it. -/
structure ApprovalRecord where
  approvalId : String
  caseId : String
  paymentId : String
  amountPaise : ℤ
  requestedAction : ActionType
  agentRecommendation : String
  requestedAt : ℤ
  expiresAt : ℤ

end RevenueGuard
