import Mathlib.Logic.Relation
import RevenueGuard.TableProofs

/-!
The tables as one file for each case.  A `CaseFile` is everything that the tables hold under
one case identifier, and `FileStep` is what one transaction can make of a file: the case comes
in, a graph run is committed, a failed run is put on record, an approver decides.

No operation of the service reads or writes a file as such.  The files say what the tables are
for; that the transactions of the service do nothing else to them is in `CaseFileProofs`.
-/

namespace RevenueGuard

open Library TableProofs

/-- What the tables hold about one case. -/
structure CaseFile where
  case : Option RecoveryCase := none
  actions : List RecoveryAction := []
  audits : List AuditEntry := []
  snapshots : List GatewayHealthRecord := []
  assignments : List ExperimentAssignmentRecord := []
  approvals : List RecoveryApproval := []

/-- The file of a case in the tables. -/
def fileOf (caseId : String) (db : Database) : CaseFile :=
  { case := Keyed.find (·.caseId) caseId db.recoveryCases
    actions := db.recoveryActions.filter fun r => r.caseId = caseId
    audits := db.auditLogs.filter fun r => r.caseId = caseId
    snapshots := db.gatewayHealthSnapshots.filter fun r => r.caseId = caseId
    assignments := db.experimentAssignments.filter fun r => r.caseId = caseId
    approvals := db.recoveryApprovals.filter fun r => r.caseId = caseId }

namespace CaseFile

/-- The file after a run that read `loaded` and came to `result`, with the rows that were
inserted for its actions and its request for approval. -/
def worked (now : ℤ) (loaded : RecoveryCase) (result : RecoveryState) (actions : List RecoveryAction)
    (approvals : List RecoveryApproval) (file : CaseFile) : CaseFile :=
  { case := file.case.map (updateCase now loaded result)
    actions
    audits := file.audits ++ result.auditTrail.map fun audit => { audit with caseId := loaded.caseId }
    snapshots := file.snapshots ++
      (result.gatewayHealth.map fun snapshot => { caseId := loaded.caseId, snapshot }).toList
    assignments := insertAssignment loaded.caseId result.experimentArm file.assignments
    approvals }

/-- The file after a run that raised. -/
def failed (now : ℤ) (caseId : String) (file : CaseFile) : CaseFile :=
  { file with
    case := file.case.map fun case => { case with status := .failed, updatedAt := some now }
    audits := file.audits ++
      [{ caseId, actionId := none, agentName := "worker", step := "process_case", guardrailsApplied := [] }] }

/-- The file after the verdict of an approver. -/
def decided (verdict : Verdict) (now : ℤ) (loaded : RecoveryApproval) (file : CaseFile) : CaseFile :=
  { file with
    approvals :=
      Keyed.modify (·.approvalId) loaded.approvalId (decideApproval verdict now loaded) file.approvals }

end CaseFile

/-- What one transaction makes of a file. -/
inductive FileStep (d : Deployment) (caseId : String) : CaseFile → CaseFile → Prop where
  | opened {case : RecoveryCase} : case.caseId = caseId → intakePart case = case →
      FileStep d caseId {} { case := some case }
  | worked {file : CaseFile} {stored : RecoveryCase} {x : GraphRun} {result : RecoveryState} {now : ℤ}
      {actions : List RecoveryAction} {approvals : List RecoveryApproval} :
      file.case = some stored → x.rows.case.caseId = caseId → intakePart x.rows.case = intakePart stored →
      0 ≤ x.rows.case.retryCount →
      (∀ row, x.rows.approval = some row → row.status = .approved) → (x.outcome d).2 = .ok result →
      insertActions caseId file.actions result.actions = .ok actions →
      (approvals = file.approvals ∨ ∃ record, result.approvalRecord = some (.requested record) ∧
        approvals = file.approvals ++ [pendingApproval caseId record]) →
      FileStep d caseId file (file.worked now x.rows.case result actions approvals)
  | failed {file : CaseFile} {stored : RecoveryCase} {now : ℤ} : file.case = some stored →
      FileStep d caseId file (file.failed now caseId)
  | decided {file : CaseFile} {known loaded : RecoveryApproval} {verdict : Verdict} {now : ℤ} :
      known ∈ file.approvals → known.approvalId = loaded.approvalId →
      FileStep d caseId file (file.decided verdict now loaded)

/-- A file through any number of transactions. -/
def FilePath (d : Deployment) (caseId : String) : CaseFile → CaseFile → Prop :=
  Relation.ReflTransGen (FileStep d caseId)

/-- One transaction on the files of all cases: some files move, and the others stay. -/
def StoreStep (d : Deployment) (files files' : String → CaseFile) : Prop :=
  ∃ cases : List String, (∀ caseId ∈ cases, FileStep d caseId (files caseId) (files' caseId)) ∧
    ∀ caseId, caseId ∉ cases → files' caseId = files caseId

/-- The files that a step may change: those of the cases that its transaction is about. -/
def touched (s : System) : Event → List String
  | .request i (.commit _) =>
    match s.requests i with
    | .webhookAdded _ case => (case.map (·.caseId)).toList
    | .batchAdded cases => cases.map (·.caseId)
    | .deciding _ loaded => [loaded.caseId]
    | _ => []
  | .worker w (.persist _) => (s.workers w).caseId.toList
  | .worker w (.recordFailure _) => (s.workers w).caseId.toList
  | _ => []

end RevenueGuard
