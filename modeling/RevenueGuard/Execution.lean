import RevenueGuard.Policy

/-!
`agents/execution_node.py`: the execution of a checked strategy and the
terminal audit entry.
-/

namespace RevenueGuard

open Library

/-- The instants at which `execute_action` reads the clock: for the approval,
for the delays of `_execute`, and for the action's own timestamp. -/
structure ExecutionClock where
  approval : ℤ
  execute : ℤ
  timestamp : ℤ

/-- The arguments of one call of `razorpay_client.create_payment_link`, under
the idempotency key of the action it is made for. -/
structure PaymentLinkCall where
  key : IdempotencyKey
  amountPaise : ℤ
  customerName : String
  customerEmail : String
  customerPhone : String
  description : String
  noteCaseId : String
  deriving DecidableEq

/-- `_idempotency_key`. -/
def idempotencyKey (s : RecoveryState) (actionType : ActionType) (channel : Option RecoveryChannel) :
    IdempotencyKey :=
  { caseId := s.caseId, actionType, channel, retryCount := s.caseData.retryCount }

/-- `_channel_cost`. -/
def channelCost : Option RecoveryChannel → ℤ
  | some .sms => 25
  | some .whatsapp => 50
  | _ => 0

/-- The channel of the action: the strategy's, or else the selected one. -/
def executionChannel (s : RecoveryState) : Option RecoveryChannel :=
  (s.strategy.bind (·.channel)).or s.selectedChannel

/-- The call `_execute` makes for a payment link. -/
def paymentLinkCall (s : RecoveryState) : PaymentLinkCall :=
  { key := idempotencyKey s .paymentLink (executionChannel s)
    amountPaise := s.caseData.amountPaise
    customerName := (s.caseData.customer.getD "name" (.str "Customer")).pyStr
    customerEmail := (s.caseData.customer.getD "email" (.str "unknown@example.com")).pyStr
    customerPhone := (s.caseData.customer.getD "phone" (.str "+910000000000")).pyStr
    description := "RevenueGuard payment recovery"
    noteCaseId := s.caseData.caseId }

/-- `_execute`, where `link` is what the payment-link call answers. -/
def execute (now : ℤ) (link : Except String Json) (actionType : ActionType)
    (strategy : Option StrategyDecision) (channel : Option RecoveryChannel) :
    Except String (ActionOutput × String) :=
  let delay := max 0 ((strategy.map (·.retryDelaySeconds)).getD 0)
  match actionType with
  | .paymentLink => do return (.paymentLink (← link), "created")
  | .smartRetry => do return (.scheduledFor (← Instant.addSeconds now delay), "scheduled")
  | .defer => do return (.deferredUntil (← Instant.addSeconds now delay), "deferred")
  | .nudgeEmail | .nudgeSms | .nudgeWhatsapp =>
    .ok (.notificationLogged channel (strategy.bind (·.messageContent)), "queued")
  | .escalateHuman => .ok (.escalationLogged, "escalated")
  | .stop => .ok (.stopLogged, "stopped")

/-- The answers from outside that an execution rests on: the fresh action
identifier and the answer to a payment-link call. -/
structure ExecutionInputs where
  clock : ExecutionClock
  actionId : String
  link : Except String Json

/-- `execute_action`, with the payment-link calls it makes before it returns or
raises. -/
def executeAction (cfg : Settings) (inputs : ExecutionInputs) (s : RecoveryState) :
    List PaymentLinkCall × Except String RecoveryState :=
  match PolicyEngine.assertApproved cfg inputs.clock.approval s with
  | .error exc => ([], .error exc)
  | .ok () =>
    let actionType := s.action.getD .stop
    let channel := executionChannel s
    (if actionType = .paymentLink then [paymentLinkCall s] else [], do
      let (outputResult, status) ← execute inputs.clock.execute inputs.link actionType s.strategy channel
      let action : RecoveryAction :=
        { actionId := inputs.actionId
          caseId := s.caseId
          actionType
          channel
          status
          inputState := s.strategy
          outputResult
          costPaise := channelCost channel
          timestamp := inputs.clock.timestamp
          idempotencyKey := idempotencyKey s actionType channel }
      return { s with
        actions := s.actions ++ [action]
        auditTrail := appendAudit s "execution" "execute_action" [] (some inputs.actionId) })

/-- `log_audit`. -/
def logAudit (s : RecoveryState) : RecoveryState :=
  { s with
    finalDecision :=
      if s.approvalStatus = some .pending then some "approval_pending"
      else if s.error.isSome then some "error"
      else some (s.action.getD .stop).value
    auditTrail := appendAudit s "recovery_graph" "log_audit" }

end RevenueGuard
