import RevenueGuard.Library.Sessions
import RevenueGuard.Worker

/-!
`worker.py`, statement by statement: `process_case` as a program of the session that it
opens.  `Worker.lean` has the effect of an undisturbed run on the committed tables; here any
statement may raise.
-/

namespace RevenueGuard

open Library Library.Sessions

namespace WorkerSession

/-- `select(RecoveryCase).where(RecoveryCase.case_id == case_id)`. -/
def loadCase (caseId : String) : Program Database (Option RecoveryCase) :=
  scalar fun db => Keyed.find (·.caseId) caseId db.recoveryCases

/-- Attributes set on the loaded case, which the next flush writes to its row. -/
def setCase (caseId : String) (set : RecoveryCase → RecoveryCase) : Program Database Unit :=
  add fun db => .ok { db with recoveryCases := Keyed.modify (·.caseId) caseId set db.recoveryCases }

/-- `db.add(GatewayHealthRecord(…))`. -/
def addSnapshot (caseId : String) (snapshot : GatewayHealthSnapshot) : Program Database Unit :=
  add fun db => .ok { db with gatewayHealthSnapshots := db.gatewayHealthSnapshots ++ [{ caseId, snapshot }] }

/-- `db.add(ExperimentAssignmentRecord(…))`. -/
def addAssignment (caseId : String) (arm : ExperimentArm) : Program Database Unit :=
  add fun db =>
    .ok { db with experimentAssignments := db.experimentAssignments ++ [{ experimentId, caseId, arm }] }

/-- `db.add(RecoveryActionRecord(…))`. -/
def addAction (caseId : String) (action : RecoveryAction) : Program Database Unit :=
  add fun db =>
    if db.recoveryActions.any fun r => r.actionId = action.actionId then
      .error "UNIQUE constraint failed: recovery_actions.id"
    else .ok { db with recoveryActions := db.recoveryActions ++ [{ action with caseId }] }

/-- `db.add(AuditLog(…))`. -/
def addAudit (kind : DatabaseKind) (audit : AuditEntry) : Program Database Unit :=
  add fun db =>
    if kind.enforcesForeignKeys && !auditsRefer db.recoveryActions [audit] then
      .error "FOREIGN KEY constraint failed: audit_logs.action_id"
    else .ok { db with auditLogs := db.auditLogs ++ [audit] }

/-- `db.add(RecoveryApproval(…))`. -/
def addApproval (caseId : String) (record : ApprovalRecord) : Program Database Unit :=
  add fun db => .ok { db with recoveryApprovals := db.recoveryApprovals ++ [pendingApproval caseId record] }

/-- The snapshot of `_persist_result`. -/
def persistSnapshot (caseId : String) : Option GatewayHealthSnapshot → Program Database Unit
  | none => pure ()
  | some snapshot => addSnapshot caseId snapshot

/-- The assignment of `_persist_result`. -/
def persistAssignment (caseId : String) : Option ExperimentArm → Program Database Unit
  | none => pure ()
  | some arm => do
    let existing ← scalar fun db : Database =>
      db.experimentAssignments.any fun r => r.caseId = caseId && r.experimentId = experimentId
    if existing then return () else addAssignment caseId arm

/-- One action of `_persist_result`. -/
def persistAction (caseId : String) (action : RecoveryAction) : Program Database Unit := do
  let existing ← scalar fun db : Database =>
    db.recoveryActions.any fun r => r.idempotencyKey = action.idempotencyKey
  if existing then return () else addAction caseId action

/-- The approval request of `_persist_result`: the record of a loaded approval has no
`payment_id`. -/
def persistApproval (caseId : String) (result : RecoveryState) : Program Database Unit :=
  if result.approvalStatus = some .pending then
    match result.approvalRecord with
    | none => pure ()
    | some (.loaded approvalId _) => do
      let existing ← scalar fun db : Database => db.recoveryApprovals.any fun r => r.approvalId = approvalId
      if existing then return () else evaluate (.error "'payment_id'")
    | some (.requested record) => do
      let existing ← scalar fun db : Database => db.recoveryApprovals.any fun r => r.approvalId = record.approvalId
      if existing then return () else addApproval caseId record
  else pure ()

/-- `_persist_result`. -/
def persistResult (kind : DatabaseKind) (now : ℤ) (loaded : RecoveryCase) (result : RecoveryState) :
    Program Database Unit := do
  setCase loaded.caseId (updateCase now loaded result)
  persistSnapshot loaded.caseId result.gatewayHealth
  persistAssignment loaded.caseId result.experimentArm
  result.actions.forM (persistAction loaded.caseId)
  -- Audit entries can reference newly created actions through a foreign key.
  flush
  result.auditTrail.forM fun audit => addAudit kind { audit with caseId := loaded.caseId }
  persistApproval loaded.caseId result

/-- The block of `process_case` that its handler guards, up to the commit.  Setting the
status also sets `updated_at`, as every update of the row does. -/
def attempt (d : Deployment) (decision : DecisionInputs) (visit : Visit) (case : RecoveryCase) :
    Program Database RecoveryState := do
  setCase case.caseId fun row => { row with status := .triaging, updatedAt := some visit.now }
  let approval ← scalar fun db => activeApproval visit.pick db case.caseId
  let result ← evaluate (graphRun d decision visit.clock visit.finish case approval).2
  persistResult d.database visit.now case result
  return result

/-- The audit row of `_record_failure`. -/
def failureEntry (caseId : String) : AuditEntry :=
  { caseId, actionId := none, agentName := "worker", step := "process_case", guardrailsApplied := [] }

/-- The case's row in `_record_failure`, if there still is one. -/
def markFailed (now : ℤ) (caseId : String) : Option RecoveryCase → Program Database Unit
  | none => pure ()
  | some _ => setCase caseId fun case => { case with status := .failed, updatedAt := some now }

/-- `_record_failure`. -/
def recordFailure (now : ℤ) (caseId : String) : Program Database Unit := do
  let case ← loadCase caseId
  markFailed now caseId case
  add fun db => .ok { db with auditLogs := db.auditLogs ++ [failureEntry caseId] }

/-- What a run comes to: it publishes nothing, `case_failed` or `case_processed`. -/
inductive Outcome where
  | skipped
  | failed (error : String)
  | processed (result : RecoveryState)

/-- The `try` of `process_case` and its handler, which rolls back before it writes and
commits in the same session. -/
def runCase (d : Deployment) (decision : DecisionInputs) (visit : Visit) (caseId : String)
    (case : RecoveryCase) :
    Program Database Outcome :=
  tryCatch (do
      let result ← transaction (attempt d decision visit case)
      return .processed result)
    fun exc => do
      recovery (recordFailure visit.now caseId)
      return .failed exc

/-- `process_case`. -/
def processCase (d : Deployment) (decision : DecisionInputs) (visit : Visit) (caseId : String) :
    Program Database Outcome := do
  match ← loadCase caseId with
  | none => return .skipped
  | some case => runCase d decision visit caseId case

end WorkerSession

end RevenueGuard
