import RevenueGuard.Tables

/-!
`agents/state.py` and `agents/common.py`: the state that the nodes of the
recovery graph hand to each other, and the helpers they share.
-/

namespace RevenueGuard

open Library

/-- `case_data`, with the keys `worker.py::_build_state` gives it. -/
structure CaseData where
  caseId : String
  eventType : EventType
  externalPaymentId : String
  externalOrderId : Option String
  amountPaise : ℤ
  currency : String
  category : String
  source : String
  reason : String
  errorCode : String
  errorDescription : Json
  customer : Dict
  merchantId : String
  metadata : Json
  timestamp : ℤ
  retryCount : ℤ
  lastRetryAt : Option ℤ

/-- `approval_record`: the two keys the worker puts in for a loaded row, or the
record `request_approval_node` made. -/
inductive ApprovalData where
  | loaded (approvalId : String) (expiresAt : ℤ)
  | requested (record : ApprovalRecord)

def ApprovalData.expiresAt : ApprovalData → ℤ
  | loaded _ expiresAt => expiresAt
  | requested record => record.expiresAt

/-- `state.py::RecoveryState`.  An absent key is `none` or empty. -/
structure RecoveryState where
  caseId : String
  caseData : CaseData
  triage : Option TriageResult := none
  gatewayHealth : Option GatewayHealthSnapshot := none
  experimentArm : Option ExperimentArm := none
  diagnosis : Option DiagnosisResult := none
  strategy : Option StrategyDecision := none
  selectedChannel : Option RecoveryChannel := none
  actions : List RecoveryAction := []
  needsApproval : Bool := false
  approvalStatus : Option ApprovalStatus := none
  auditTrail : List AuditEntry := []
  error : Option String := none
  finalDecision : Option String := none
  approvalRecord : Option ApprovalData := none

/-- The `action_type` of the strategy, where there is one. -/
def RecoveryState.action (s : RecoveryState) : Option ActionType := s.strategy.map (·.actionType)

/-- `common.py::metadata_from_case`. -/
def metadataFromCase (case : CaseData) : Dict := case.metadata.dictOrEmpty

/-- `common.py::append_audit`. -/
def appendAudit (s : RecoveryState) (agentName step : String) (guardrails : List String := [])
    (actionId : Option String := none) : List AuditEntry :=
  s.auditTrail ++ [{ caseId := s.caseId, actionId, agentName, step, guardrailsApplied := guardrails }]

end RevenueGuard
