import RevenueGuard.Worker

/-!
`api/main.py::approve` and `reject`: the two endpoints that decide an approval
request.  Each reads the row first and commits its own attributes afterwards.
-/

namespace RevenueGuard

open Library

/-- `_get_approval_or_404`. -/
def getApproval (approvalId : String) (db : Database) : Option RecoveryApproval :=
  Keyed.find (·.approvalId) approvalId db.recoveryApprovals

/-- `_is_expired`. -/
def isExpired (now expiresAt : ℤ) : Bool := expiresAt < now

/-- The decision a call of one of the endpoints makes. -/
inductive Verdict where
  | approve (approvedBy : String)
  | reject
  deriving DecidableEq, Repr

def Verdict.status : Verdict → ApprovalStatus
  | approve _ => .approved
  | reject => .rejected

/-- The calls that reach the assignments: a known row, and for `approve` one
that has not expired. -/
def acceptVerdict (verdict : Verdict) (now : ℤ) (approvalId : String) (db : Database) :
    Except String RecoveryApproval :=
  match getApproval approvalId db, verdict with
  | none, _ => .error "404: Approval not found"
  | some loaded, .approve _ =>
    if isExpired now loaded.expiresAt then .error "409: Approval request has expired" else .ok loaded
  | some loaded, .reject => .ok loaded

/-- The attributes an endpoint sets, as the update leaves them in the committed
row: the status is part of it only where it differs from the loaded one. -/
def decideApproval (verdict : Verdict) (now : ℤ) (loaded current : RecoveryApproval) : RecoveryApproval :=
  { current with
    status := written loaded.status verdict.status current.status
    approvedBy := match verdict with
      | .approve approvedBy => written loaded.approvedBy (some approvedBy) current.approvedBy
      | .reject => current.approvedBy
    approvedAt := written loaded.approvedAt (some now) current.approvedAt
    decisionChannel := written loaded.decisionChannel (some "api") current.decisionChannel }

/-- The commit of an endpoint's transaction. -/
def commitVerdict (verdict : Verdict) (now : ℤ) (loaded : RecoveryApproval) (db : Database) : Database :=
  { db with
    recoveryApprovals :=
      Keyed.modify (·.approvalId) loaded.approvalId (decideApproval verdict now loaded) db.recoveryApprovals }

end RevenueGuard
