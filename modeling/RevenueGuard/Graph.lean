import RevenueGuard.Nodes
import RevenueGuard.Execution

/-!
`agents/graph.py`: the topology of the recovery graph.  A run falls into two
parts, the nodes up to `policy_check`, which propose and check a strategy, and
the nodes after it, which act on it.  The worker model lets other parties move
between the two.
-/

namespace RevenueGuard

open Library

/-- What every run of one deployment shares: its settings, its database and the
digest that the experiment assignment reads. -/
structure Deployment where
  settings : Settings := {}
  database : DatabaseKind := .sqlite
  md5 : String → ℕ

/-- `_route_experiment`. -/
def routeExperiment (s : RecoveryState) : ExperimentArm :=
  if s.experimentArm = some .control then .control else .treatment

/-- Where `_route_policy` sends a run. -/
inductive PolicyRoute where
  | approval | stop | execute
  deriving DecidableEq, Repr

/-- `_route_policy`. -/
def routePolicy (s : RecoveryState) : PolicyRoute :=
  if s.needsApproval then .approval
  else if s.action.getD .stop = .stop then .stop
  else .execute

/-- The nodes from `START` to the proposed strategy. -/
def propose (d : Deployment) (inputs : DecisionInputs) (s : RecoveryState) :
    Except String RecoveryState := do
  let s ← enrichWithMl inputs s
  let s := enrichWithHealth inputs s
  let s ← assignExperiment d.md5 d.settings s
  match routeExperiment s with
  | .control => return baselineDecideNode s
  | .treatment =>
    let s ← agentDiagnose inputs s
    let s ← agentStrategize d.settings inputs s
    selectChannel inputs s

/-- The nodes from `START` to `policy_check`. -/
def decideGraph (d : Deployment) (inputs : DecisionInputs) (clock : PolicyClock) (s : RecoveryState) :
    Except String RecoveryState := do
  return policyCheckNode d.settings clock (← propose d inputs s)

/-- The answers from outside that the second part of a run rests on. -/
structure FinishInputs where
  execution : ExecutionInputs
  approvalId : String
  requestedAt : ℤ
  notify : Except String Unit

/-- The nodes from `policy_check` to `END`. -/
def finishGraph (d : Deployment) (inputs : FinishInputs) (s : RecoveryState) :
    List PaymentLinkCall × Except String RecoveryState :=
  match routePolicy s with
  | .approval =>
    ([], do return logAudit (← requestApprovalNode inputs.approvalId inputs.requestedAt inputs.notify s))
  | .stop => ([], .ok (logAudit s))
  | .execute =>
    let (calls, executed) := executeAction d.settings inputs.execution s
    (calls, do return logAudit (← executed))

/-- `_get_graph().ainvoke(state)`: a whole run, with the payment-link calls it
makes before it returns or raises. -/
def runGraph (d : Deployment) (decision : DecisionInputs) (clock : PolicyClock) (finish : FinishInputs)
    (s : RecoveryState) : List PaymentLinkCall × Except String RecoveryState :=
  match decideGraph d decision clock s with
  | .error exc => ([], .error exc)
  | .ok decided => finishGraph d finish decided

end RevenueGuard
