import RevenueGuard.Library.Keyed
import RevenueGuard.Graph

/-!
`worker.py`: the rebuilding of the graph state from committed rows, and the
writes that one processed case commits.
-/

namespace RevenueGuard

open Library

/-- `_approval_state`. -/
def approvalState (approval : RecoveryApproval) : ApprovalData :=
  .loaded approval.approvalId approval.expiresAt

/-- The key of `customer_data` that hides the failure's context. -/
def contextKey : String := "_revenueguard_context"

/-- `_build_state`. -/
def buildState (case : RecoveryCase) (approval : Option RecoveryApproval) :
    Except String RecoveryState := do
  let context ← (case.customerData.getD contextKey (.obj [])).asDict
  return {
    caseId := case.caseId
    caseData :=
      { caseId := case.caseId
        eventType := case.eventType
        externalPaymentId := case.externalPaymentId
        externalOrderId := case.externalOrderId
        amountPaise := case.amountPaise
        currency := case.currency
        category := case.failureCategory
        source := case.failureSource
        reason := case.failureReason
        errorCode := case.errorCode
        errorDescription := context.getD "error_description" (.str "")
        customer := case.customerData.erase contextKey
        merchantId := case.merchantId
        metadata := context.getD "metadata" (.obj [])
        timestamp := case.createdAt
        retryCount := case.retryCount
        lastRetryAt := case.lastRetryAt }
    approvalStatus := approval.map (·.status)
    approvalRecord := approval.map approvalState }

/-- The part of `process_case` between the reads and the writes: `_build_state`
and the graph run, with the payment-link calls it makes. -/
def graphRun (d : Deployment) (decision : DecisionInputs) (clock : PolicyClock)
    (finish : FinishInputs) (case : RecoveryCase) (approval : Option RecoveryApproval) :
    List PaymentLinkCall × Except String RecoveryState :=
  match buildState case approval with
  | .error exc => ([], .error exc)
  | .ok s => runGraph d decision clock finish s

/-- The rows `_active_approval` may return: the approved ones of the case that
no other one was approved after.  The query leaves open which of several rows
approved at one instant comes first. -/
def activeApprovals (db : Database) (caseId : String) : List RecoveryApproval :=
  let approved := db.recoveryApprovals.filter fun r => r.caseId = caseId && r.status = .approved
  approved.filter fun r => approved.all fun other => other.approvedAt.getD 0 ≤ r.approvedAt.getD 0

/-- `_active_approval`, where `pick` says which of the rows in question comes
first. -/
def activeApproval (pick : ℕ) (db : Database) (caseId : String) : Option RecoveryApproval :=
  let rows := activeApprovals db caseId
  rows[pick % rows.length]?

/-- `_case_status`. -/
def caseStatus (result : RecoveryState) : EventStatus :=
  if result.approvalStatus = some .pending then .escalated
  else match result.action with
    | some .stop => .stopped
    | some .escalateHuman => .escalated
    | _ => .executing

/-- What a flush leaves in a column: an attribute that was set to the value it
was loaded with is not part of the update. -/
def written {α : Type} [DecidableEq α] (loaded new current : α) : α :=
  if new = loaded then current else new

/-- The attributes of the loaded case that `_persist_result` sets, as the update
leaves them in the committed row. -/
def updateCase (now : ℤ) (loaded : RecoveryCase) (result : RecoveryState) (current : RecoveryCase) :
    RecoveryCase :=
  let retried := result.action = some .smartRetry
  { current with
    recoveryProbability :=
      written loaded.recoveryProbability (result.triage.map (·.recoveryProbability)) current.recoveryProbability
    shapReasonCodes :=
      written loaded.shapReasonCodes ((result.triage.map (·.shapReasonCodes)).getD []) current.shapReasonCodes
    experimentArm := written loaded.experimentArm result.experimentArm current.experimentArm
    gatewayHealthState :=
      written loaded.gatewayHealthState (result.gatewayHealth.map (·.state)) current.gatewayHealthState
    status := caseStatus result
    updatedAt := some now
    retryCount := if retried then loaded.retryCount + 1 else current.retryCount
    lastRetryAt := if retried then some now else current.lastRetryAt }

/-- The experiment whose assignments the worker writes. -/
def experimentId : String := "recovery_agent_v1"

/-- The assignment row of `_persist_result`, which the first run writes. -/
def insertAssignment (caseId : String) (arm : Option ExperimentArm)
    (rows : List ExperimentAssignmentRecord) : List ExperimentAssignmentRecord :=
  match arm with
  | none => rows
  | some arm =>
    if rows.any fun r => r.caseId = caseId && r.experimentId = experimentId then rows
    else rows ++ [{ experimentId, caseId, arm }]

/-- The action rows of `_persist_result`: an action whose idempotency key has a
row is skipped. -/
def insertActions (caseId : String) :
    List RecoveryAction → List RecoveryAction → Except String (List RecoveryAction)
  | rows, [] => .ok rows
  | rows, action :: rest =>
    if rows.any fun r => r.idempotencyKey = action.idempotencyKey then insertActions caseId rows rest
    else if rows.any fun r => r.actionId = action.actionId then
      .error "UNIQUE constraint failed: recovery_actions.id"
    else insertActions caseId (rows ++ [{ action with caseId }]) rest

/-- The row that `_persist_result` makes of a new approval request. -/
def pendingApproval (caseId : String) (record : ApprovalRecord) : RecoveryApproval :=
  { approvalId := record.approvalId
    caseId
    paymentId := record.paymentId
    amountPaise := record.amountPaise
    requestedAction := record.requestedAction
    agentRecommendation := record.agentRecommendation
    status := .pending
    requestedAt := record.requestedAt
    expiresAt := record.expiresAt }

/-- The approval row of `_persist_result`. -/
def insertApproval (caseId : String) (result : RecoveryState) (rows : List RecoveryApproval) :
    Except String (List RecoveryApproval) :=
  if result.approvalStatus = some .pending then
    match result.approvalRecord with
    | none => .ok rows
    | some (.loaded approvalId _) =>
      if rows.any fun r => r.approvalId = approvalId then .ok rows else .error "'payment_id'"
    | some (.requested record) =>
      if rows.any fun r => r.approvalId = record.approvalId then .ok rows
      else .ok (rows ++ [pendingApproval caseId record])
  else .ok rows

/-- Every audit row points at a stored action, or at none. -/
def auditsRefer (actions : List RecoveryAction) (audits : List AuditEntry) : Bool :=
  audits.all fun audit => match audit.actionId with
    | none => true
    | some actionId => actions.any fun r => r.actionId = actionId

/-- `_persist_result` and the commit after it, as one transaction over the
committed tables. -/
def persistResult (kind : DatabaseKind) (now : ℤ) (loaded : RecoveryCase)
    (result : RecoveryState) (db : Database) : Except String Database := do
  let recoveryActions ← insertActions loaded.caseId db.recoveryActions result.actions
  if kind.enforcesForeignKeys && !auditsRefer recoveryActions result.auditTrail then
    throw "FOREIGN KEY constraint failed: audit_logs.action_id"
  let recoveryApprovals ← insertApproval loaded.caseId result db.recoveryApprovals
  return { db with
    recoveryCases :=
      Keyed.modify (·.caseId) loaded.caseId (updateCase now loaded result) db.recoveryCases
    gatewayHealthSnapshots := db.gatewayHealthSnapshots ++
      (result.gatewayHealth.map fun snapshot => { caseId := loaded.caseId, snapshot }).toList
    experimentAssignments :=
      insertAssignment loaded.caseId result.experimentArm db.experimentAssignments
    recoveryActions
    auditLogs := db.auditLogs ++ result.auditTrail.map fun audit => { audit with caseId := loaded.caseId }
    recoveryApprovals }

/-- `_record_failure` and the commit after it. -/
def recordFailure (now : ℤ) (caseId : String) (db : Database) : Database :=
  { db with
    recoveryCases :=
      Keyed.modify (·.caseId) caseId
        (fun case => { case with status := .failed, updatedAt := some now }) db.recoveryCases
    auditLogs := db.auditLogs ++
      [{ caseId, actionId := none, agentName := "worker", step := "process_case", guardrailsApplied := [] }] }

/-- What one delivery reads from outside, apart from the answers its decision
rests on. -/
structure Visit where
  pick : ℕ
  clock : PolicyClock
  finish : FinishInputs
  now : ℤ

/-- The graph run of one delivery of a loaded case. -/
def visitRun (d : Deployment) (decision : DecisionInputs) (visit : Visit) (case : RecoveryCase)
    (db : Database) : List PaymentLinkCall × Except String RecoveryState :=
  graphRun d decision visit.clock visit.finish case (activeApproval visit.pick db case.caseId)

/-- `process_case`, undisturbed: its effect on the committed tables. -/
def processCase (d : Deployment) (decision : DecisionInputs) (visit : Visit) (caseId : String)
    (db : Database) : Database :=
  match Keyed.find (·.caseId) caseId db.recoveryCases with
  | none => db
  | some case =>
    match (visitRun d decision visit case db).2 >>= fun result =>
        persistResult d.database visit.now case result db with
    | .error _ => recordFailure visit.now caseId db
    | .ok committed => committed

end RevenueGuard
