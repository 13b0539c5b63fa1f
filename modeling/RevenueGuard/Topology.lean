import RevenueGuard.Graph

/-!
`agents/graph.py` node by node: the nodes under their names, what each of them
does to the state it is handed, and the edges between them.
-/

namespace RevenueGuard

/-- The nodes of `build_recovery_graph`. -/
inductive Node where
  | enrichMl | enrichHealth | assignExperiment | baselineDecide | agentDiagnose | agentStrategize
  | selectChannel | policyCheck | requestApproval | executeAction | logAudit
  deriving DecidableEq, Repr

/-- The state a node leaves. -/
def runNode (d : Deployment) (decision : DecisionInputs) (clock : PolicyClock) (finish : FinishInputs)
    (s : RecoveryState) : Node → Except String RecoveryState
  | .enrichMl => enrichWithMl decision s
  | .enrichHealth => .ok (enrichWithHealth decision s)
  | .assignExperiment => assignExperiment d.md5 d.settings s
  | .baselineDecide => .ok (baselineDecideNode s)
  | .agentDiagnose => agentDiagnose decision s
  | .agentStrategize => agentStrategize d.settings decision s
  | .selectChannel => selectChannel decision s
  | .policyCheck => .ok (policyCheckNode d.settings clock s)
  | .requestApproval => requestApprovalNode finish.approvalId finish.requestedAt finish.notify s
  | .executeAction => (executeAction d.settings finish.execution s).2
  | .logAudit => .ok (logAudit s)

/-- The edge that leaves a node, which may depend on the state it leaves. -/
def successor (s : RecoveryState) : Node → Option Node
  | .enrichMl => some .enrichHealth
  | .enrichHealth => some .assignExperiment
  | .assignExperiment =>
    match routeExperiment s with
    | .control => some .baselineDecide
    | .treatment => some .agentDiagnose
  | .baselineDecide => some .policyCheck
  | .agentDiagnose => some .agentStrategize
  | .agentStrategize => some .selectChannel
  | .selectChannel => some .policyCheck
  | .policyCheck =>
    match routePolicy s with
    | .approval => some .requestApproval
    | .stop => some .logAudit
    | .execute => some .executeAction
  | .requestApproval => some .logAudit
  | .executeAction => some .logAudit
  | .logAudit => none

/-- The run from this state hands a state to a node. -/
inductive Visits (d : Deployment) (decision : DecisionInputs) (clock : PolicyClock) (finish : FinishInputs)
    (init : RecoveryState) : Node → RecoveryState → Prop where
  | start : Visits d decision clock finish init .enrichMl init
  | next {node after : Node} {s s' : RecoveryState} : Visits d decision clock finish init node s →
      runNode d decision clock finish s node = .ok s' → successor s' node = some after →
      Visits d decision clock finish init after s'

end RevenueGuard
