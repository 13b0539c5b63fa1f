import RevenueGuard.Library.Calendar
import RevenueGuard.Library.Pages
import RevenueGuard.Library.StableSort
import RevenueGuard.Worker

/-!
What `api/main.py` reads of the cases: the listing, page by page, of `list_cases` and the
timeline of `get_case`.  The database may answer two queries in different orders; the
answer to a query is an argument here.
-/

namespace RevenueGuard

open Library Datetimes StableSort

def EventStatus.value : EventStatus → String
  | detected => "detected"
  | triaging => "triaging"
  | diagnosing => "diagnosing"
  | strategizing => "strategizing"
  | executing => "executing"
  | recovered => "recovered"
  | failed => "failed"
  | escalated => "escalated"
  | stopped => "stopped"

def ExperimentArm.value : ExperimentArm → String
  | control => "control"
  | treatment => "treatment"

/-- `_iso`. -/
def iso (value : Option Timestamp) : Option (List Char) := value.map (·.isoText)

/-- `_case_summary`. -/
structure CaseSummary where
  caseId : String
  status : String
  eventType : String
  amountPaise : ℤ
  currency : String
  failureCategory : String
  recoveryProbability : Option ℚ
  experimentArm : Option String
  createdAt : Option (List Char)
  deriving DecidableEq

def caseSummary (case : RecoveryCase) : CaseSummary where
  caseId := case.caseId
  status := case.status.value
  eventType := case.eventType.value
  amountPaise := case.amountPaise
  currency := case.currency
  failureCategory := case.failureCategory
  recoveryProbability := case.recoveryProbability
  experimentArm := case.experimentArm.map (·.value)
  createdAt := iso (Timestamp.ofInstant? case.createdAt)

/-- The filters of a request. -/
structure CaseFilters where
  status : Option String := none
  experimentArm : Option String := none

/-- A filter that is missing or empty lets every value pass; NULL equals no text. -/
def admits (filter : Option String) (column : Option String) : Bool :=
  filter.getD "" = "" || column = filter

def CaseFilters.accept (filters : CaseFilters) (case : RecoveryCase) : Bool :=
  admits filters.status (some case.status.value) &&
    admits filters.experimentArm (case.experimentArm.map (·.value))

/-- The cases that both queries of a request select. -/
def matchingCases (filters : CaseFilters) (db : Database) : List RecoveryCase :=
  db.recoveryCases.filter filters.accept

/-- `page` and `page_size`, as the endpoint lets them in. -/
structure PageQuery where
  page : ℕ
  pageSize : ℕ
  valid : 1 ≤ page ∧ 1 ≤ pageSize ∧ pageSize ≤ 100

structure CaseListing where
  items : List CaseSummary
  page : ℕ
  pageSize : ℕ
  total : ℕ
  deriving DecidableEq

/-- `list_cases`, where `rows` is the order in which the database has the matching cases
for this query. -/
def listCases (filters : CaseFilters) (query : PageQuery) (rows : List RecoveryCase) (db : Database) :
    CaseListing where
  items := (Pages.page query.pageSize (query.page - 1) rows).map caseSummary
  page := query.page
  pageSize := query.pageSize
  total := (matchingCases filters db).length

/-! ## The timeline of a case -/

/-- An action row with its `created_at`, which the insert fills in.  `run` and `position` are
no columns: they say which run inserted the row, and as which. -/
structure StampedAction where
  run : ℕ
  position : ℕ
  action : RecoveryAction
  createdAt : Timestamp

/-- An audit row with its `created_at`. -/
structure StampedAudit where
  run : ℕ
  position : ℕ
  audit : AuditEntry
  createdAt : Timestamp

/-- What the queries order the rows by. -/
def StampedAction.stamp (row : StampedAction) : ℤ := row.createdAt.instant

def StampedAudit.stamp (row : StampedAudit) : ℤ := row.createdAt.instant

inductive TimelineItem where
  | caseCreated (instant : Option (List Char))
  | action (actionType : String) (instant : Option (List Char))
  | audit (step : String) (instant : Option (List Char))
  deriving DecidableEq

/-- `item["at"]`. -/
def TimelineItem.instant : TimelineItem → Option (List Char)
  | caseCreated instant => instant
  | action _ instant => instant
  | audit _ instant => instant

def StampedAction.item (row : StampedAction) : TimelineItem :=
  .action row.action.actionType.value (iso (some row.createdAt))

def StampedAudit.item (row : StampedAudit) : TimelineItem := .audit row.audit.step (iso (some row.createdAt))

/-- `_timeline`. -/
def timeline (case : RecoveryCase) (actions : List StampedAction) (audits : List StampedAudit) :
    List TimelineItem :=
  sortedBy (fun item => item.instant.getD [])
    (.caseCreated (iso (Timestamp.ofInstant? case.createdAt)) ::
      (actions.map StampedAction.item ++ audits.map StampedAudit.item))

/-- The readings of the clock that the inserts of a run make, one for every row in the
order of the flushes: the actions first, since audit rows may refer to them. -/
structure Flush where
  actions : ℕ → Timestamp
  audits : ℕ → Timestamp

/-- One run of `process_case`, with the database that it finds. -/
structure CaseRun where
  db : Database
  decision : DecisionInputs
  visit : Visit
  flush : Flush

def CaseRun.committed (d : Deployment) (caseId : String) (run : CaseRun) : Database :=
  processCase d run.decision run.visit caseId run.db

/-- The action rows that a run inserts. -/
def CaseRun.actions (d : Deployment) (caseId : String) (number : ℕ) (run : CaseRun) : List StampedAction :=
  ((run.committed d caseId).recoveryActions.drop run.db.recoveryActions.length).zipIdx.map fun row =>
    { run := number, position := row.2, action := row.1, createdAt := run.flush.actions row.2 }

/-- The audit rows that a run inserts. -/
def CaseRun.audits (d : Deployment) (caseId : String) (number : ℕ) (run : CaseRun) : List StampedAudit :=
  ((run.committed d caseId).auditLogs.drop run.db.auditLogs.length).zipIdx.map fun row =>
    { run := number, position := row.2, audit := row.1, createdAt := run.flush.audits row.2 }

/-- The rows of a case after its runs. -/
def historyActions (d : Deployment) (caseId : String) (runs : List CaseRun) : List StampedAction :=
  runs.zipIdx.flatMap fun run => run.1.actions d caseId run.2

def historyAudits (d : Deployment) (caseId : String) (runs : List CaseRun) : List StampedAudit :=
  runs.zipIdx.flatMap fun run => run.1.audits d caseId run.2

end RevenueGuard
