import RevenueGuard.CaseFiles
import RevenueGuard.CaseQueries

/-!
`get_case` of `api/main.py`: what one request shows of a case.  Transactions may commit between its five
queries, so each query has its own state of the tables; what the database answers to it is an argument.
The timeline is in `CaseQueries`.  The columns of actions, audit entries and requests are handed through.
-/

namespace RevenueGuard

open Library Datetimes

/-- `_public_customer`. -/
def publicCustomer (customer : Dict) : Dict := customer.filter fun entry => entry.1 ≠ contextKey

/-- `_case_detail`, without the two columns that nothing writes. -/
structure CaseDetail where
  summary : CaseSummary
  externalPaymentId : String
  externalOrderId : Option String
  failureSource : String
  failureReason : String
  errorCode : String
  customerId : String
  customer : Dict
  merchantId : String
  shapReasonCodes : List String
  gatewayHealthState : Option GatewayHealthState
  retryCount : ℤ
  lastRetryAt : Option (List Char)
  updatedAt : Option (List Char)

def caseDetail (case : RecoveryCase) : CaseDetail where
  summary := caseSummary case
  externalPaymentId := case.externalPaymentId
  externalOrderId := case.externalOrderId
  failureSource := case.failureSource
  failureReason := case.failureReason
  errorCode := case.errorCode
  customerId := case.customerId
  customer := publicCustomer case.customerData
  merchantId := case.merchantId
  shapReasonCodes := case.shapReasonCodes
  gatewayHealthState := case.gatewayHealthState
  retryCount := case.retryCount
  lastRetryAt := iso (case.lastRetryAt.bind Timestamp.ofInstant?)
  updatedAt := iso (case.updatedAt.bind Timestamp.ofInstant?)

structure CasePage where
  case : CaseDetail
  recoveryProbability : Option ℚ
  shapReasonCodes : List String
  gatewayHealth : Option GatewayHealthSnapshot
  actions : List RecoveryAction
  auditTrail : List AuditEntry
  approvals : List RecoveryApproval

/-- What the database answers to the queries of one request, in their order. -/
structure CaseAnswers where
  case : Option RecoveryCase
  actions : List RecoveryAction
  audits : List AuditEntry
  approvals : List RecoveryApproval
  records : List GatewayHealthRecord

/-- The tables as these queries find them. -/
structure CaseReads where
  case : Database
  actions : Database
  audits : Database
  approvals : Database
  records : Database

/-- The answers are the rows of the case, in any order; the records of the gateways are those of all
cases. -/
structure CaseAnswers.Of (answers : CaseAnswers) (caseId : String) (reads : CaseReads) : Prop where
  case : answers.case = (fileOf caseId reads.case).case
  actions : answers.actions.Perm (fileOf caseId reads.actions).actions
  audits : answers.audits.Perm (fileOf caseId reads.audits).audits
  approvals : answers.approvals.Perm (fileOf caseId reads.approvals).approvals
  records : answers.records.Perm reads.records.gatewayHealthSnapshots

/-- `_case_gateway_health`. -/
def caseGatewayHealth (caseId : String) (records : List GatewayHealthRecord) : Option GatewayHealthSnapshot :=
  (records.find? fun record => record.caseId = caseId).map (·.snapshot)

/-- `_get_case_or_404` and `get_case`. -/
def getCase (caseId : String) (answers : CaseAnswers) : Except String CasePage :=
  match answers.case with
  | none => .error "Recovery case not found"
  | some case => .ok {
    case := caseDetail case
    recoveryProbability := case.recoveryProbability
    shapReasonCodes := case.shapReasonCodes
    gatewayHealth := caseGatewayHealth caseId answers.records
    actions := answers.actions
    auditTrail := answers.audits
    approvals := answers.approvals }

end RevenueGuard
