import RevenueGuard.Features
import RevenueGuard.Library.Objects
import RevenueGuard.Worker

/-!
The dictionary `case_data` between the two ends that know it: `_build_state`, which takes
it out of the stored objects, and the diagnosis, which looks it up under several names.
-/

namespace RevenueGuard

open Library Objects

/-- What `_build_state` returns, given what it has taken out of `customer_data`. -/
def assembleState (case : RecoveryCase) (approval : Option RecoveryApproval) (context customer : Dict) :
    RecoveryState :=
  { caseId := case.caseId
    caseData :=
      { caseId := case.caseId
        eventType := case.eventType
        externalPaymentId := case.externalPaymentId
        externalOrderId := case.externalOrderId
        amountPaise := case.amountPaise
        currency := case.currency
        category := case.failureCategory
        source := case.failureSource
        reason := case.failureReason
        errorCode := case.errorCode
        errorDescription := context.getD "error_description" (.str "")
        customer
        merchantId := case.merchantId
        metadata := context.getD "metadata" (.obj [])
        timestamp := case.createdAt
        retryCount := case.retryCount
        lastRetryAt := case.lastRetryAt }
    approvalStatus := approval.map (·.status)
    approvalRecord := approval.map approvalState }

/-- `_build_state`, where `case.customer_data` is the object at an address. -/
def buildStateFrom (customerData : ℕ) (case : RecoveryCase) (approval : Option RecoveryApproval) :
    Program RecoveryState := do
  let storedCustomer ← copy customerData
  let context ← pop storedCustomer contextKey (.obj [])
  let context ← context.asDict
  return assembleState case approval context (← read storedCustomer)

/-- The first of the names that a dictionary has a value under. -/
def firstValue (case : Dict) (names : List String) : Option Json :=
  names.findSome? fun name =>
    match case.get name with
    | .null => none
    | value => some value

/-- `common.py::case_value`. -/
def caseValue (case : Dict) (names : List String) (default : Json := .str "") : Json :=
  (firstValue case names).getD default

/-- The names that `agent_diagnose` knows the failed step by. -/
def stepNames : List String := ["error_step", "stage"]

/-- What the prompt of `agent_diagnose` says of the failure. -/
structure FailurePrompt where
  errorSource : Json
  errorStep : Json
  errorReason : Json
  description : Json
  paymentMethod : Json
  bank : Json

/-- The look-ups of `agent_diagnose`. -/
def failurePrompt (case : Dict) : FailurePrompt :=
  let metadata := (case.get "metadata").dictOrEmpty
  { errorSource := caseValue case ["error_source", "source", "failure_source"]
    errorStep := caseValue case stepNames
    errorReason := caseValue case ["error_reason", "reason", "failure_reason"]
    description := case.getD "error_description" (.str "")
    paymentMethod := metadata.getD "payment_method" (.str "unknown")
    bank := metadata.getD "bank_name" (.str "unknown") }

end RevenueGuard
