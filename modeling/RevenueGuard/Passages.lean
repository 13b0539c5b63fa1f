import RevenueGuard.CaseFiles
import RevenueGuard.Topology

/-!
The ways through the recovery graph, and the history that a case's file tells.  A `Passage` is
one way from `enrich_ml` to `log_audit`; a delivery of a case that commits anything has either
come through the graph by a passage or raised.  `Chronicle` reads the rows of a file as the
traces of its deliveries, in their order.
-/

namespace RevenueGuard

/-- The `step` that a node's audit entry names. -/
def Node.step : Node → String
  | .enrichMl => "enrich_ml"
  | .enrichHealth => "enrich_health"
  | .assignExperiment => "assign_experiment"
  | .baselineDecide => "baseline_decide"
  | .agentDiagnose => "agent_diagnose"
  | .agentStrategize => "agent_strategize"
  | .selectChannel => "select_channel"
  | .policyCheck => "policy_check"
  | .requestApproval => "request_approval"
  | .executeAction => "execute_action"
  | .logAudit => "log_audit"

/-- One way through the graph: the arm, whether `select_channel` has a nudge to find a channel
for, and where `policy_check` sends the run. -/
structure Passage where
  arm : ExperimentArm
  nudged : Bool
  route : PolicyRoute
  deriving DecidableEq, Repr

namespace Passage

def deciding (passage : Passage) : List Node :=
  match passage.arm with
  | .control => [.baselineDecide]
  | .treatment => [.agentDiagnose, .agentStrategize, .selectChannel]

def acting (passage : Passage) : List Node :=
  match passage.route with
  | .approval => [.requestApproval]
  | .stop => []
  | .execute => [.executeAction]

/-- The nodes on the way, in their order. -/
def nodes (passage : Passage) : List Node :=
  [.enrichMl, .enrichHealth, .assignExperiment] ++ passage.deciding ++ [.policyCheck] ++ passage.acting ++
    [.logAudit]

/-- `select_channel` is the only node that may leave no entry. -/
def writes (passage : Passage) (node : Node) : Bool := node ≠ .selectChannel || passage.nudged

/-- The steps that the audit trail of the run names. -/
def steps (passage : Passage) : List String := (passage.nodes.filter passage.writes).map Node.step

/-- What a run that came this way leaves the status of its case at. -/
def statuses (passage : Passage) : List EventStatus :=
  match passage.route with
  | .approval => [.escalated]
  | .stop => [.stopped]
  | .execute => [.executing, .escalated]

end Passage

/-- What a delivery has come to when it commits. -/
inductive Delivered where
  | raised
  | passed (passage : Passage)
  deriving DecidableEq, Repr

namespace Delivered

def steps : Delivered → List String
  | raised => ["process_case"]
  | passed passage => passage.steps

def passage? : Delivered → Option Passage
  | raised => none
  | passed passage => some passage

def statuses : Delivered → List EventStatus
  | raised => [.failed]
  | passed passage => passage.statuses

end Delivered

/-- How many deliveries the graph sent along a route. -/
def routed (route : PolicyRoute) (deliveries : List Delivered) : ℕ :=
  (deliveries.filterMap (·.passage?)).countP fun passage => passage.route = route

/-- A file as the traces of these deliveries. -/
structure Chronicle (d : Deployment) (caseId : String) (file : CaseFile) (deliveries : List Delivered) :
    Prop where
  trail : file.audits.map (·.step) = deliveries.flatMap (·.steps)
  arms : ∀ passage ∈ deliveries.filterMap (·.passage?),
    assignExperimentArm d.md5 caseId d.settings.experimentVariantPct = .ok passage.arm
  assignments : file.assignments =
    ((deliveries.filterMap (·.passage?)).head?.map fun passage =>
      { experimentId, caseId, arm := passage.arm }).toList
  snapshots : file.snapshots.length = (deliveries.filterMap (·.passage?)).length
  actions : file.actions.length ≤ routed .execute deliveries
  approvals : file.approvals.length ≤ routed .approval deliveries
  status : ∀ case, file.case = some case →
    case.status ∈ (deliveries.getLast?.map (·.statuses)).getD [.detected]
  unopened : file.case = none → deliveries = []

end RevenueGuard
