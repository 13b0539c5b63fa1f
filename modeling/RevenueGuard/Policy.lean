import RevenueGuard.State

/-!
`guardrails/policy_engine.py` and `guardrails/hitl_gate.py`: the deterministic
checks between the proposed strategy and its execution, and the request for a
human decision.
-/

namespace RevenueGuard

open Library

/-- The instants at which `policy_check_node` reads the clock: for the cooldown
and the quiet hours in `check_all`, and for the approval in `needs_approval`. -/
structure PolicyClock where
  cooldown : ℤ
  quietHours : ℤ
  approval : ℤ

namespace PolicyEngine

/-- `_customer_contact_actions`. -/
def customerContactActions : List ActionType :=
  [.paymentLink, .nudgeEmail, .nudgeSms, .nudgeWhatsapp]

/-- `_contact_or_retry_actions`. -/
def contactOrRetryActions : List ActionType := .smartRetry :: customerContactActions

/-- The quiet interval of `check_all`, which wraps around midnight when it
starts later in the day than it ends. -/
def inQuietHours (cfg : Settings) (hour : ℤ) : Bool :=
  if cfg.quietHoursStart > cfg.quietHoursEnd then
    hour ≥ cfg.quietHoursStart || hour < cfg.quietHoursEnd
  else cfg.quietHoursStart ≤ hour && hour < cfg.quietHoursEnd

/-- The cooldown test of `check_all`: too little time since the last retry. -/
def cooldownActive (cfg : Settings) (now : ℤ) : Option ℤ → Bool
  | none => false
  | some lastRetry => now - lastRetry < Instant.hours cfg.cooldownHours

/-- `check_all`: the first rule that forbids the action, or leave to go on. -/
def checkAll (cfg : Settings) (clock : PolicyClock) (s : RecoveryState) : Bool × Option String :=
  if (s.caseData.customer.get "opted_out").truthy && s.action ≠ some .stop then
    (false, some "Customer opted out")
  else if s.caseData.retryCount ≥ cfg.maxRetryAttempts && s.action ≠ some .stop then
    (false, some "Maximum retry attempts reached")
  else if s.caseData.amountPaise < 10000 && s.action ∉ [some .stop, some .escalateHuman] then
    (false, some "Recovery amount is below INR 100 cost threshold")
  else if s.action ∈ contactOrRetryActions.map some &&
      cooldownActive cfg clock.cooldown s.caseData.lastRetryAt then
    (false, some "Recovery cooldown is still active")
  else if s.action ∈ customerContactActions.map some &&
      inQuietHours cfg (Instant.kolkataHour clock.quietHours) then
    (false, some "Customer contact blocked during quiet hours")
  else (true, none)

/-- `has_valid_approval`.  The record holds `expires_at` as text that
`_parse_datetime` reads back to the instant it was written from. -/
def hasValidApproval (now : ℤ) (s : RecoveryState) : Bool :=
  if s.approvalStatus ≠ some .approved then false
  else match s.approvalRecord with
    | none => true
    | some approval => approval.expiresAt > now

/-- `needs_approval`. -/
def needsApproval (cfg : Settings) (now : ℤ) (s : RecoveryState) : Bool :=
  s.caseData.amountPaise > cfg.highValueThreshold && s.action ≠ some .stop && !hasValidApproval now s

/-- `assert_approved`. -/
def assertApproved (cfg : Settings) (now : ℤ) (s : RecoveryState) : Except String Unit :=
  if needsApproval cfg now s then
    .error "Valid approval required for high-value recovery action"
  else .ok ()

end PolicyEngine

/-- `policy_check_node`. -/
def policyCheckNode (cfg : Settings) (clock : PolicyClock) (s : RecoveryState) : RecoveryState :=
  match PolicyEngine.checkAll cfg clock s with
  | (false, reason) =>
    { s with
      strategy := some
        { actionType := .stop
          reasoning := "Policy blocked recovery: " ++ reason.getD "None"
          stoppingReason := reason }
      needsApproval := false
      auditTrail := appendAudit s "policy_engine" "policy_check" reason.toList }
  | (true, _) =>
    { s with
      needsApproval := PolicyEngine.needsApproval cfg clock.approval s
      auditTrail := appendAudit s "policy_engine" "policy_check"
        ["opt_out", "retry_limit", "cooldown", "quiet_hours", "recovery_cost"] }

/-- `request_approval_node`.  The notification of the approver, when one is
configured, catches every `httpx.HTTPError`; `notify` is the error of any other
kind that it raises. -/
def requestApprovalNode (approvalId : String) (now : ℤ) (notify : Except String Unit)
    (s : RecoveryState) : Except String RecoveryState := do
  let record : ApprovalRecord :=
    { approvalId
      caseId := s.caseId
      paymentId := s.caseData.externalPaymentId
      amountPaise := s.caseData.amountPaise
      requestedAction := s.action.getD .stop
      agentRecommendation := (s.strategy.map (·.reasoning)).getD ""
      requestedAt := now
      expiresAt := ← Instant.addSeconds now 7200 }
  notify
  return { s with
    approvalStatus := some .pending
    approvalRecord := some (.requested record)
    auditTrail := appendAudit s "hitl_gate" "request_approval" ["high_value_approval"] }

end RevenueGuard
