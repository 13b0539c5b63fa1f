import RevenueGuard.Models

/-!
`db/orm_models.py`: the rows of the tables that the intake, the worker and the
approval endpoints read or write.  Primary keys that nothing refers to, and the
tables `experiments`, `experiment_results` and `channel_bandit_state`, which no
modelled operation reads, are left out.  So are the widths of the columns: a transaction
that PostgreSQL refuses because of one is a request that aborts.
-/

namespace RevenueGuard

open Library

/-- `webhook_events`.  `insertedBy` is no column: it numbers the transaction
that inserted the row, so that statements can speak of one transaction. -/
structure WebhookEvent where
  razorpayEventId : String
  eventType : String
  paymentId : Option String
  orderId : Option String
  rawPayload : Dict
  insertedBy : ℕ

/-- Which producer inserted a case, and in which transaction. -/
inductive CaseOrigin where
  | webhook (transaction : ℕ)
  | batch (transaction : ℕ)
  deriving DecidableEq, Repr

/-- `recovery_cases`.  `origin` is no column. -/
structure RecoveryCase where
  caseId : String
  eventType : EventType
  status : EventStatus
  externalPaymentId : String
  externalOrderId : Option String
  amountPaise : ℤ
  currency : String
  failureCategory : String
  failureSource : String
  failureReason : String
  errorCode : String
  customerId : String
  customerData : Dict
  merchantId : String
  recoveryProbability : Option ℚ := none
  shapReasonCodes : List String := []
  experimentArm : Option ExperimentArm := none
  gatewayHealthState : Option GatewayHealthState := none
  retryCount : ℤ := 0
  lastRetryAt : Option ℤ := none
  createdAt : ℤ
  updatedAt : Option ℤ := none
  origin : CaseOrigin

/-- What `_idempotency_key` hashes; the digest is taken to be collision free. -/
structure IdempotencyKey where
  caseId : String
  actionType : ActionType
  channel : Option RecoveryChannel
  retryCount : ℤ
  deriving DecidableEq, Repr

/-- The `output_result` of an action. -/
inductive ActionOutput where
  | paymentLink (link : Json)
  | scheduledFor (at_ : ℤ)
  | deferredUntil (at_ : ℤ)
  | notificationLogged (channel : Option RecoveryChannel) (messageContent : Option String)
  | escalationLogged
  | stopLogged

/-- `schemas.py::RecoveryAction`, and the `recovery_actions` row made of it. -/
structure RecoveryAction where
  actionId : String
  caseId : String
  actionType : ActionType
  channel : Option RecoveryChannel
  status : String
  inputState : Option StrategyDecision
  outputResult : ActionOutput
  costPaise : ℤ
  timestamp : ℤ
  idempotencyKey : IdempotencyKey

/-- An audit entry.  Its identifier and its free texts, which no modelled
operation reads, are left out. -/
structure AuditEntry where
  caseId : String
  actionId : Option String
  agentName : String
  step : String
  guardrailsApplied : List String
  deriving DecidableEq, Repr

/-- `gateway_health_snapshots`. -/
structure GatewayHealthRecord where
  caseId : String
  snapshot : GatewayHealthSnapshot

/-- `experiment_assignments`. -/
structure ExperimentAssignmentRecord where
  experimentId : String
  caseId : String
  arm : ExperimentArm
  deriving DecidableEq, Repr

/-- `recovery_approvals`. -/
structure RecoveryApproval where
  approvalId : String
  caseId : String
  paymentId : String
  amountPaise : ℤ
  requestedAction : ActionType
  agentRecommendation : String
  status : ApprovalStatus
  requestedAt : ℤ
  expiresAt : ℤ
  approvedBy : Option String := none
  approvedAt : Option ℤ := none
  decisionChannel : Option String := none
  deriving DecidableEq, Repr

/-- The databases the service runs on. -/
inductive DatabaseKind where
  | sqlite | postgresql
  deriving DecidableEq, Repr

/-- SQLite leaves foreign keys unchecked unless a connection turns them on,
which no connection here does. -/
def DatabaseKind.enforcesForeignKeys (kind : DatabaseKind) : Bool := kind = .postgresql

/-- The committed tables. -/
structure Database where
  webhookEvents : List WebhookEvent := []
  recoveryCases : List RecoveryCase := []
  recoveryActions : List RecoveryAction := []
  auditLogs : List AuditEntry := []
  gatewayHealthSnapshots : List GatewayHealthRecord := []
  experimentAssignments : List ExperimentAssignmentRecord := []
  recoveryApprovals : List RecoveryApproval := []

end RevenueGuard
