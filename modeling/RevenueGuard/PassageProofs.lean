import RevenueGuard.HistoryProofs
import RevenueGuard.Passages
import RevenueGuard.TimelineProofs

/-!
Every file is the record of its deliveries.  `graph_run_passage` reads off the audit trail of a
run which way it took through the graph and what it did at the end; `chronicles` says that in
every reached state the rows of a case are what some sequence of deliveries has left, row for row.
-/

namespace RevenueGuard.PassageProofs

open Library Library.Runs Library.Raises GraphProofs WorkerProofs SystemProofs TableProofs DeliveryProofs
  TimelineProofs CaseFileProofs

variable {d : Deployment} {s s' : System} {e : Event} {es : List Event} {caseId : String}
  {decision : DecisionInputs} {clock : PolicyClock} {finish : FinishInputs} {case : RecoveryCase}
  {approval : Option RecoveryApproval} {init proposed result : RecoveryState}

/-! ## The steps of a trail -/

def stepsOf (s : RecoveryState) : List String := s.auditTrail.map (·.step)

/-- The steps in front of `policy_check`. -/
def decidingSteps (arm : ExperimentArm) (nudged : Bool) : List String :=
  ["enrich_ml", "enrich_health", "assign_experiment"] ++
    match arm with
    | .control => ["baseline_decide"]
    | .treatment => ["agent_diagnose", "agent_strategize"] ++ if nudged then ["select_channel"] else []

/-- The steps between `policy_check` and `log_audit`. -/
def actingSteps : PolicyRoute → List String
  | .approval => ["request_approval"]
  | .stop => []
  | .execute => ["execute_action"]

theorem passage_steps (passage : Passage) : passage.steps =
    decidingSteps passage.arm passage.nudged ++ ["policy_check"] ++ actingSteps passage.route ++
      ["log_audit"] := by
  obtain ⟨arm, nudged, route⟩ := passage
  cases arm <;> cases nudged <;> cases route <;> rfl

theorem propose_steps (ran : propose d decision init = .ok proposed) :
    ∃ arm nudged, assignExperimentArm d.md5 init.caseId d.settings.experimentVariantPct = .ok arm ∧
      proposed.experimentArm = some arm ∧
      stepsOf proposed = stepsOf init ++ decidingSteps arm nudged := by
  simp only [propose, bind_ok] at ran
  obtain ⟨scored, ranScore, enriched, ranAssign, ran⟩ := ran
  obtain ⟨triage, _, rfl⟩ := enrich_with_ml_ok.mp ranScore
  obtain ⟨arm, assigned, rfl⟩ := assign_experiment_ok.mp ranAssign
  cases arm with
  | control =>
    simp only [routeExperiment, ↓reduceIte, pure_ok] at ran
    refine ⟨.control, false, assigned, by rw [← ran]; rfl, ?_⟩
    rw [← ran]
    simp [stepsOf, decidingSteps, baselineDecideNode, enrichWithHealth, appendAudit]
  | treatment =>
    simp only [routeExperiment, Option.some.injEq, reduceCtorEq, ↓reduceIte, bind_ok] at ran
    obtain ⟨diagnosed, ranDiagnose, strategized, ranStrategize, ranSelect⟩ := ran
    obtain ⟨_, _, _, _, rfl⟩ := agent_diagnose_ok.mp ranDiagnose
    obtain ⟨_, _, rfl⟩ := agent_strategize_ok.mp ranStrategize
    cases select_channel_cases ranSelect with
    | absent =>
      refine ⟨.treatment, false, assigned, rfl, ?_⟩
      simp [stepsOf, decidingSteps, enrichWithHealth, appendAudit]
    | other =>
      refine ⟨.treatment, false, assigned, rfl, ?_⟩
      simp [stepsOf, decidingSteps, enrichWithHealth, appendAudit]
    | stopped =>
      refine ⟨.treatment, true, assigned, rfl, ?_⟩
      simp [stepsOf, decidingSteps, enrichWithHealth, appendAudit]
    | nudged =>
      refine ⟨.treatment, true, assigned, rfl, ?_⟩
      simp [stepsOf, decidingSteps, enrichWithHealth, appendAudit]

theorem finish_steps (ran : (finishGraph d finish init).2 = .ok result) :
    stepsOf result = stepsOf init ++ actingSteps (routePolicy init) ++ ["log_audit"] := by
  unfold finishGraph at ran
  split at ran <;> rename_i route
  · simp only [bind_ok, pure_ok, requestApprovalNode] at ran
    obtain ⟨_, ⟨_, _, _, _, rfl⟩, rfl⟩ := ran
    simp [stepsOf, route, actingSteps, logAudit, appendAudit]
  · cases ran
    simp [stepsOf, route, actingSteps, logAudit, appendAudit]
  · simp only [bind_ok, pure_ok] at ran
    obtain ⟨executed, made, rfl⟩ := ran
    unfold executeAction at made
    split at made
    · cases made
    · simp only [bind_ok, pure_ok] at made
      obtain ⟨_, _, rfl⟩ := made
      simp [stepsOf, route, actingSteps, logAudit, appendAudit]

/-- A strategy that was proposed is still there after its check, if only as `STOP`. -/
theorem checked_action (cfg : Settings) (clock : PolicyClock)
    (proposes : ∃ strategy, proposed.strategy = some strategy) :
    ∃ actionType, (policyCheckNode cfg clock proposed).action = some actionType := by
  obtain ⟨strategy, proposes⟩ := proposes
  rcases policy_check_node_cases cfg clock proposed with ⟨_, stops, _⟩ | ⟨_, same, _⟩
  · exact ⟨_, stops⟩
  · exact ⟨strategy.actionType, by rw [RecoveryState.action, same, proposes]; rfl⟩

theorem case_status_unasked {actionType : ActionType} (moves : result.action = some actionType)
    (unasked : result.approvalStatus ≠ some .pending) : caseStatus result =
      if actionType = .stop then .stopped else if actionType = .escalateHuman then .escalated else .executing := by
  rw [caseStatus, if_neg unasked, moves]
  cases actionType <;> rfl

/-- What a run that came by a passage has in its hands at the end. -/
structure CameBy (d : Deployment) (caseId : String) (passage : Passage) (result : RecoveryState) : Prop where
  steps : stepsOf result = passage.steps
  assigned : assignExperimentArm d.md5 caseId d.settings.experimentVariantPct = .ok passage.arm
  arm : result.experimentArm = some passage.arm
  health : ∃ snapshot, result.gatewayHealth = some snapshot
  status : caseStatus result ∈ passage.statuses
  actions : if passage.route = .execute then ∃ action, result.actions = [action] else result.actions = []
  request : passage.route ≠ .approval → ∀ record, result.approvalRecord ≠ some (.requested record)

/-- A run that returns has come through the graph by one of the passages. -/
theorem graph_run_passage (ran : (graphRun d decision clock finish case approval).2 = .ok result)
    (approved : ∀ row, approval = some row → row.status = .approved) :
    ∃ passage, CameBy d case.caseId passage result := by
  obtain ⟨start, proposed, built, ranPropose, ranFinish⟩ := graph_run_finishes ran
  have rebuilt := rebuilt_from built ranPropose
  have unasked := unasked_rebuilt rebuilt approved
  obtain ⟨arm, nudged, assigned, armed, deciding⟩ := propose_steps ranPropose
  obtain ⟨_, health, _⟩ := propose_ok ranPropose
  obtain ⟨_, checks, trail⟩ := policy_check_trail d.settings clock proposed
  obtain ⟨_, _, _, frame⟩ := policy_check_node_frame d.settings clock proposed
  have checkedArm : (policyCheckNode d.settings clock proposed).experimentArm = some arm := by rw [frame, armed]
  have checkedHealth : ∃ snapshot, (policyCheckNode d.settings clock proposed).gatewayHealth = some snapshot :=
    ⟨_, by rw [frame, health]⟩
  have idle : (policyCheckNode d.settings clock proposed).actions = [] := by
    rw [policy_check_actions, rebuilt.actions]
  have status : (policyCheckNode d.settings clock proposed).approvalStatus ≠ some .pending := by
    rw [policy_check_approval_status]
    exact unasked
  have unrequested (record : ApprovalRecord) :
      (policyCheckNode d.settings clock proposed).approvalRecord ≠ some (.requested record) := by
    rw [frame, rebuilt.approvalRecord]
    cases approval <;> simp [approvalState]
  have empty : stepsOf start = [] := by
    simp only [buildState, bind_ok, pure_ok] at built
    obtain ⟨_, _, rfl⟩ := built
    rfl
  have steps : stepsOf result =
      (⟨arm, nudged, routePolicy (policyCheckNode d.settings clock proposed)⟩ : Passage).steps := by
    have checked :
        stepsOf (policyCheckNode d.settings clock proposed) = stepsOf proposed ++ ["policy_check"] := by
      rw [stepsOf, trail, List.map_append, List.map_singleton, checks]
      rfl
    rw [finish_steps ranFinish, checked, deciding, empty, passage_steps, List.nil_append]
  have assigned := (build_state_ok built).caseId ▸ assigned
  obtain ⟨actionType, examined⟩ := checked_action d.settings clock (propose_strategy ranPropose)
  have finished := finish_graph_ok ranFinish
  have moves : result.action = some actionType := (finished_action finished).trans examined
  refine ⟨⟨arm, nudged, routePolicy (policyCheckNode d.settings clock proposed)⟩, ?_⟩
  cases finished with
  | pending route =>
    refine ⟨steps, assigned, checkedArm, checkedHealth, ?_, ?_, fun other => absurd route other⟩
    · simp [caseStatus, logAudit, Passage.statuses, route]
    · rw [route]
      exact idle
  | stopped route =>
    refine ⟨steps, assigned, checkedArm, checkedHealth, ?_, ?_, fun _ => unrequested⟩
    · have stops := (route_stop.mp route).2
      rw [examined, Option.getD_some] at stops
      rw [case_status_unasked moves status, if_pos stops, Passage.statuses, route]
      exact List.mem_singleton_self _
    · rw [route]
      exact idle
  | @executed action _ route =>
    refine ⟨steps, assigned, checkedArm, checkedHealth, ?_, ?_, fun _ => unrequested⟩
    · obtain ⟨_, moved, same, notStop⟩ := route_execute.mp route
      cases examined.symm.trans same
      rw [case_status_unasked moves status, if_neg notStop]
      simp only [Passage.statuses, route]
      by_cases asks : actionType = .escalateHuman <;> simp [asks]
    · rw [if_pos route]
      exact ⟨action, congrArg (· ++ [action]) idle⟩

/-! ## Files as traces -/

variable {file file' : CaseFile} {deliveries : List Delivered}

theorem insert_actions_length {rows rows' actions : List RecoveryAction}
    (inserted : insertActions caseId rows actions = .ok rows') :
    rows'.length ≤ rows.length + actions.length := by
  induction actions generalizing rows with
  | nil =>
    cases inserted
    exact le_refl _
  | cons action rest ih =>
    simp only [insertActions] at inserted
    split at inserted
    · have later := ih inserted
      simp only [List.length_cons]
      omega
    · split at inserted
      · cases inserted
      · have later := ih inserted
        simp only [List.length_append, List.length_cons, List.length_nil] at later ⊢
        omega

theorem passages_snoc (delivered : Delivered) : (deliveries ++ [delivered]).filterMap (·.passage?) =
    deliveries.filterMap (·.passage?) ++ delivered.passage?.toList := by
  rw [List.filterMap_append]
  cases delivered <;> rfl

theorem routed_snoc (route : PolicyRoute) (passage : Passage) :
    routed route (deliveries ++ [.passed passage]) =
      routed route deliveries + if passage.route = route then 1 else 0 := by
  rw [routed, passages_snoc, List.countP_append, ← routed]
  by_cases same : passage.route = route <;> simp [Delivered.passage?, same]

theorem routed_raised (route : PolicyRoute) :
    routed route (deliveries ++ [.raised]) = routed route deliveries := by
  rw [routed, passages_snoc, Delivered.passage?, Option.toList_none, List.append_nil, ← routed]

/-- The commit of a run leaves the trace of one more passage. -/
theorem chronicle_worked {stored : RecoveryCase} {x : GraphRun} {now : ℤ} {actions : List RecoveryAction}
    {approvals : List RecoveryApproval} {passage : Passage} (held : Chronicle d caseId file deliveries)
    (opened : file.case = some stored) (ofCase : x.rows.case.caseId = caseId)
    (came : CameBy d caseId passage result)
    (inserted : insertActions caseId file.actions result.actions = .ok actions)
    (requests : approvals = file.approvals ∨ ∃ record, result.approvalRecord = some (.requested record) ∧
      approvals = file.approvals ++ [pendingApproval caseId record]) :
    Chronicle d caseId (file.worked now x.rows.case result actions approvals)
      (deliveries ++ [.passed passage]) where
  trail := by
    have steps : (result.auditTrail.map fun audit => { audit with caseId := x.rows.case.caseId }).map (·.step) =
        passage.steps := by
      rw [List.map_map]
      exact came.steps
    simp only [CaseFile.worked, List.map_append, held.trail, steps, List.flatMap_append, List.flatMap_singleton]
    rfl
  arms := by
    intro known listed
    rw [passages_snoc] at listed
    rcases List.mem_append.mp listed with earlier | latest
    · exact held.arms known earlier
    · cases List.mem_singleton.mp latest
      exact came.assigned
  assignments := by
    rw [passages_snoc]
    simp only [CaseFile.worked, came.arm, ofCase, held.assignments]
    cases deliveries.filterMap (·.passage?) with
    | nil => rfl
    | cons first rest => simp [insertAssignment]
  snapshots := by
    obtain ⟨snapshot, health⟩ := came.health
    rw [passages_snoc]
    simp [CaseFile.worked, health, held.snapshots, Delivered.passage?]
  actions := by
    have bound := insert_actions_length inserted
    have known := held.actions
    rw [routed_snoc]
    have made := came.actions
    split at made
    · obtain ⟨action, one⟩ := made
      rw [one, List.length_singleton] at bound
      rw [if_pos ‹_›]
      exact bound.trans (Nat.add_le_add_right known 1)
    · rw [made, List.length_nil] at bound
      rw [if_neg ‹_›]
      exact bound.trans known
  approvals := by
    have known := held.approvals
    rw [routed_snoc]
    rcases requests with same | ⟨record, requested, grown⟩
    · simp only [CaseFile.worked, same]
      omega
    · have asked : passage.route = .approval := by
        by_contra other
        exact came.request other record requested
      simp only [CaseFile.worked, grown, asked, List.length_append, List.length_singleton, ↓reduceIte]
      omega
  status := by
    intro case written
    simp only [CaseFile.worked, opened, Option.map_some, Option.some.injEq] at written
    rw [← written, List.getLast?_concat]
    exact came.status
  unopened := by
    intro absent
    simp [CaseFile.worked, opened] at absent

theorem chronicle_failed {stored : RecoveryCase} {now : ℤ} (held : Chronicle d caseId file deliveries)
    (opened : file.case = some stored) :
    Chronicle d caseId (file.failed now caseId) (deliveries ++ [.raised]) where
  trail := by simp [CaseFile.failed, held.trail, Delivered.steps]
  arms := by
    rw [passages_snoc, Delivered.passage?, Option.toList_none, List.append_nil]
    exact held.arms
  assignments := by
    rw [passages_snoc, Delivered.passage?, Option.toList_none, List.append_nil]
    exact held.assignments
  snapshots := by
    rw [passages_snoc, Delivered.passage?, Option.toList_none, List.append_nil]
    exact held.snapshots
  actions := by
    rw [routed_raised]
    exact held.actions
  approvals := by
    rw [routed_raised]
    exact held.approvals
  status := by
    intro case written
    simp only [CaseFile.failed, opened, Option.map_some, Option.some.injEq] at written
    rw [← written, List.getLast?_concat]
    exact List.mem_singleton_self _
  unopened := by
    intro absent
    simp [CaseFile.failed, opened] at absent

/-- Every transaction adds the trace of one delivery at most. -/
theorem chronicle_step (held : Chronicle d caseId file deliveries) (moved : FileStep d caseId file file') :
    ∃ later, deliveries <+: later ∧ Chronicle d caseId file' later := by
  cases moved with
  | @opened case _ fresh =>
    have none_ := held.unopened rfl
    refine ⟨deliveries, List.prefix_refl _,
      { held with status := ?_, unopened := fun absent => (by cases absent) }⟩
    intro stored written
    cases written
    rw [none_, ← fresh]
    exact List.mem_singleton_self _
  | worked opened ofCase intake counted approved ran inserted requests =>
    obtain ⟨passage, came⟩ := graph_run_passage ran approved
    rw [ofCase] at came
    exact ⟨_, List.prefix_append _ _, chronicle_worked held opened ofCase came inserted requests⟩
  | failed opened => exact ⟨_, List.prefix_append _ _, chronicle_failed held opened⟩
  | decided =>
    refine ⟨deliveries, List.prefix_refl _, { held with approvals := ?_ }⟩
    simpa [CaseFile.decided, Keyed.modify] using held.approvals

theorem chronicle_start (caseId : String) : Chronicle d caseId {} [] where
  trail := rfl
  arms := fun _ listed => by cases listed
  assignments := rfl
  snapshots := rfl
  actions := le_refl _
  approvals := le_refl _
  status := fun _ written => by cases written
  unopened := fun _ => rfl

/-- In every reached state every file is the trace of some sequence of deliveries. -/
theorem chronicles (ran : run (step d) {} es = some s) (caseId : String) :
    ∃ deliveries, Chronicle d caseId (fileOf caseId s.db) deliveries := by
  refine files_invariant (P := fun caseId file => ∃ deliveries, Chronicle d caseId file deliveries)
    (fun caseId => ⟨[], chronicle_start caseId⟩) ?_ ran caseId
  rintro caseId file file' ⟨deliveries, held⟩ moved
  obtain ⟨later, _, chronicle⟩ := chronicle_step held moved
  exact ⟨later, chronicle⟩

/-- Between two points of a run the history of a case is only continued. -/
theorem chronicle_kept {fs : List Event} (ran : run (step d) {} es = some s)
    (later : run (step d) {} (es ++ fs) = some s') (caseId : String) :
    ∃ deliveries more, Chronicle d caseId (fileOf caseId s.db) deliveries ∧
      Chronicle d caseId (fileOf caseId s'.db) (deliveries ++ more) := by
  obtain ⟨deliveries, held⟩ := chronicles ran caseId
  refine ⟨deliveries, ?_⟩
  have path := file_path ran later caseId
  generalize fileOf caseId s'.db = file at path ⊢
  induction path with
  | refl => exact ⟨[], held, by rwa [List.append_nil]⟩
  | tail _ moved ih =>
    obtain ⟨more, _, sofar⟩ := ih
    obtain ⟨_, ⟨rest, rfl⟩, chronicle⟩ := chronicle_step sofar moved
    exact ⟨more ++ rest, held, by rwa [← List.append_assoc]⟩

theorem chronicle_kept_processed : ∃ s s', run (step sampleDeployment) {} (processedRun.take 5) = some s ∧
    run (step sampleDeployment) {} (processedRun.take 5 ++ processedRun.drop 5) = some s' ∧
      (fileOf "REC-00000001" s'.db).snapshots.length = 1 ∧
      ∃ deliveries more, Chronicle sampleDeployment "REC-00000001" (fileOf "REC-00000001" s.db) deliveries ∧
        Chronicle sampleDeployment "REC-00000001" (fileOf "REC-00000001" s'.db) (deliveries ++ more) := by
  obtain ⟨s, ran⟩ : ∃ s, run (step sampleDeployment) {} (processedRun.take 5) = some s := ⟨_, rfl⟩
  obtain ⟨s', later, one⟩ : ∃ s',
      run (step sampleDeployment) {} (processedRun.take 5 ++ processedRun.drop 5) = some s' ∧
        (fileOf "REC-00000001" s'.db).snapshots.length = 1 := ⟨_, rfl, rfl⟩
  exact ⟨s, s', ran, later, one, chronicle_kept ran later _⟩

end RevenueGuard.PassageProofs
