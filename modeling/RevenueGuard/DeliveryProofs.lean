import Mathlib.Data.Set.Basic
import RevenueGuard.ProposalProofs

/-!
What one delivery of a case leaves in the committed tables.  `CaseView` is what
the rest of the service sees of a processed case, and `Outcome` is what a graph
run makes of it.  `persist_view` and `failure_view` say that a delivery takes
the view to its image under its outcome, which is idempotent, and
`persist_returns` says when the tables accept a run at all.
-/

namespace RevenueGuard.DeliveryProofs

open Library Library.Raises GraphProofs WorkerProofs TableProofs ProposalProofs

variable {d : Deployment} {kind : DatabaseKind} {db db' : Database} {caseId other : String} {now : ℤ}
  {loaded case : RecoveryCase} {result checked : RecoveryState} {finish : FinishInputs}

/-! ## The view of a case -/

/-- The idempotency keys of a case among the stored actions. -/
def actionKeys (caseId : String) (rows : List RecoveryAction) : Set IdempotencyKey :=
  {key | key.caseId = caseId ∧ ∃ r ∈ rows, r.idempotencyKey = key}

/-- The assignment rows of a case. -/
def assignmentsOf (caseId : String) (rows : List ExperimentAssignmentRecord) :
    List ExperimentAssignmentRecord := rows.filter fun r => r.caseId = caseId

structure CaseView where
  status : EventStatus
  retryCount : ℤ
  assignments : List ExperimentAssignmentRecord
  keys : Set IdempotencyKey

/-- What the tables say about a stored case. -/
def viewOf (caseId : String) (db : Database) : Option CaseView :=
  (Keyed.find (·.caseId) caseId db.recoveryCases).map fun case =>
    { status := case.status
      retryCount := case.retryCount
      assignments := assignmentsOf caseId db.experimentAssignments
      keys := actionKeys caseId db.recoveryActions }

/-- What a graph run makes of its case. -/
structure Outcome where
  status : EventStatus
  retried : Bool
  arm : Option ExperimentArm
  keys : List IdempotencyKey
  deriving DecidableEq

def outcomeOf (result : RecoveryState) : Outcome :=
  { status := caseStatus result
    retried := result.action = some .smartRetry
    arm := result.experimentArm
    keys := result.actions.map (·.idempotencyKey) }

/-- The view after a delivery that loaded this retry count: the outcome of a
committed run is written, or the failure is put on record. -/
def CaseView.after (caseId : String) (retryCount : ℤ) (outcome : Option Outcome) (view : CaseView) : CaseView :=
  match outcome with
  | none => { view with status := .failed }
  | some outcome =>
    { status := outcome.status
      retryCount := if outcome.retried then retryCount + 1 else view.retryCount
      assignments := insertAssignment caseId outcome.arm view.assignments
      keys := view.keys ∪ {key | key ∈ outcome.keys} }

theorem insert_assignment_idempotent (arm : Option ExperimentArm) (rows : List ExperimentAssignmentRecord) :
    insertAssignment caseId arm (insertAssignment caseId arm rows) = insertAssignment caseId arm rows := by
  cases arm with
  | none => rfl
  | some arm =>
    by_cases assigned : (rows.any fun r => r.caseId = caseId && r.experimentId = experimentId) = true
    · simp only [insertAssignment, assigned, ↓reduceIte]
    · simp [insertAssignment, assigned]

/-- The same outcome once more changes nothing. -/
theorem after_idempotent (retryCount : ℤ) (outcome : Option Outcome) (view : CaseView) :
    (view.after caseId retryCount outcome).after caseId retryCount outcome =
      view.after caseId retryCount outcome := by
  cases outcome with
  | none => rfl
  | some outcome =>
    simp only [CaseView.after, CaseView.mk.injEq, true_and]
    refine ⟨?_, insert_assignment_idempotent .., ?_⟩
    · split <;> rfl
    · rw [Set.union_assoc, Set.union_self]

/-! ## The writes of a delivery -/

theorem assignments_insert_self (arm : Option ExperimentArm) (rows : List ExperimentAssignmentRecord) :
    assignmentsOf caseId (insertAssignment caseId arm rows) =
      insertAssignment caseId arm (assignmentsOf caseId rows) := by
  cases arm with
  | none => rfl
  | some arm =>
    have same : ((assignmentsOf caseId rows).any fun r => r.caseId = caseId && r.experimentId = experimentId) =
        rows.any fun r => r.caseId = caseId && r.experimentId = experimentId := by
      rw [assignmentsOf, List.any_filter]
      simp only [← Bool.and_assoc, Bool.and_self]
    simp only [insertAssignment, same]
    split
    · rfl
    · simp [assignmentsOf]

theorem assignments_insert_other (apart : other ≠ caseId) (arm : Option ExperimentArm)
    (rows : List ExperimentAssignmentRecord) :
    assignmentsOf other (insertAssignment caseId arm rows) = assignmentsOf other rows := by
  cases arm with
  | none => rfl
  | some arm =>
    simp only [insertAssignment]
    split
    · rfl
    · simp [assignmentsOf, Ne.symm apart]

/-- The keys of the stored actions after the inserts: every key is stored once it
was asked for. -/
theorem insert_actions_keys {rows rows' actions : List RecoveryAction}
    (inserted : insertActions caseId rows actions = .ok rows') (key : IdempotencyKey) :
    (∃ r ∈ rows', r.idempotencyKey = key) ↔
      (∃ r ∈ rows, r.idempotencyKey = key) ∨ key ∈ actions.map (·.idempotencyKey) := by
  induction actions generalizing rows with
  | nil =>
    cases inserted
    simp
  | cons action rest ih =>
    simp only [insertActions] at inserted
    split at inserted
    · rename_i stored
      rw [ih inserted, List.map_cons, List.mem_cons]
      constructor
      · rintro (known | asked)
        · exact .inl known
        · exact .inr (.inr asked)
      · rintro (known | rfl | asked)
        · exact .inl known
        · exact .inl (by simpa using stored)
        · exact .inr asked
    · split at inserted
      · cases inserted
      · rw [ih inserted, List.map_cons, List.mem_cons]
        simp only [List.mem_append, List.mem_singleton, or_and_right, exists_or, exists_eq_left, or_assoc,
          eq_comm (a := key)]

theorem action_keys_insert {rows rows' actions : List RecoveryAction}
    (inserted : insertActions caseId rows actions = .ok rows')
    (own : ∀ action ∈ actions, action.idempotencyKey.caseId = caseId) :
    actionKeys caseId rows' = actionKeys caseId rows ∪ {key | key ∈ actions.map (·.idempotencyKey)} := by
  ext key
  simp only [actionKeys, Set.mem_ofPred_eq, Set.mem_union, insert_actions_keys inserted]
  constructor
  · rintro ⟨ofCase, known | asked⟩
    · exact .inl ⟨ofCase, known⟩
    · exact .inr asked
  · rintro (⟨ofCase, known⟩ | asked)
    · exact ⟨ofCase, .inl known⟩
    · obtain ⟨action, listed, rfl⟩ := List.mem_map.mp asked
      exact ⟨own action listed, .inr asked⟩

theorem action_keys_other {rows rows' actions : List RecoveryAction} (apart : other ≠ caseId)
    (inserted : insertActions caseId rows actions = .ok rows')
    (own : ∀ action ∈ actions, action.idempotencyKey.caseId = caseId) :
    actionKeys other rows' = actionKeys other rows := by
  ext key
  simp only [actionKeys, Set.mem_ofPred_eq, insert_actions_keys inserted]
  refine and_congr_right fun ofOther => or_iff_left ?_
  intro asked
  obtain ⟨action, listed, rfl⟩ := List.mem_map.mp asked
  exact apart (ofOther.symm.trans (own action listed))

/-- The commit of a run takes the view of its case to its outcome. -/
theorem persist_view (committed : persistResult kind now loaded result db = .ok db')
    (own : ∀ action ∈ result.actions, action.idempotencyKey.caseId = loaded.caseId) :
    viewOf loaded.caseId db' =
      (viewOf loaded.caseId db).map (·.after loaded.caseId loaded.retryCount (some (outcomeOf result))) := by
  have persisted := persist_result_ok committed
  simp only [viewOf, persisted.recoveryCases, find_update, Option.map_map]
  refine congrArg (fun f => Option.map f _) (funext fun case => ?_)
  simp only [Function.comp_apply, CaseView.after, outcomeOf, updateCase,
    persisted.experimentAssignments, assignments_insert_self,
    action_keys_insert persisted.recoveryActions own, decide_eq_true_eq]

/-- It leaves the view of every other case. -/
theorem persist_view_other (apart : caseId ≠ loaded.caseId)
    (committed : persistResult kind now loaded result db = .ok db')
    (own : ∀ action ∈ result.actions, action.idempotencyKey.caseId = loaded.caseId) :
    viewOf caseId db' = viewOf caseId db := by
  have persisted := persist_result_ok committed
  have row : Keyed.find (·.caseId) caseId db'.recoveryCases =
      Keyed.find (·.caseId) caseId db.recoveryCases := by
    rw [persisted.recoveryCases]
    exact Keyed.find_modify_other (fun _ => rfl) apart
  simp only [viewOf, row, persisted.experimentAssignments, assignments_insert_other apart,
    action_keys_other apart persisted.recoveryActions own]

theorem failure_view (retryCount : ℤ) :
    viewOf caseId (recordFailure now caseId db) =
      (viewOf caseId db).map (·.after caseId retryCount none) := by
  have row : Keyed.find (·.caseId) caseId (recordFailure now caseId db).recoveryCases =
      (Keyed.find (·.caseId) caseId db.recoveryCases).map fun case =>
        { case with status := .failed, updatedAt := some now } := Keyed.find_modify_self fun _ => rfl
  simp only [viewOf, row, Option.map_map]
  rfl

theorem failure_view_other (apart : caseId ≠ other) :
    viewOf caseId (recordFailure now other db) = viewOf caseId db := by
  have row : Keyed.find (·.caseId) caseId (recordFailure now other db).recoveryCases =
      Keyed.find (·.caseId) caseId db.recoveryCases := Keyed.find_modify_other (fun _ => rfl) apart
  simp only [viewOf, row]
  rfl

/-! ## When a run commits -/

variable {clock : PolicyClock} {decision : DecisionInputs} {approval : Option RecoveryApproval}

theorem audits_refer_iff {rows : List RecoveryAction} {audits : List AuditEntry} :
    auditsRefer rows audits = true ↔
      ∀ actionId ∈ audits.filterMap (·.actionId), ∃ r ∈ rows, r.actionId = actionId := by
  simp only [auditsRefer, List.all_eq_true, List.mem_filterMap, forall_exists_index, and_imp]
  constructor
  · intro refer actionId audit listed points
    have referred := refer audit listed
    rw [points] at referred
    simpa using referred
  · intro refer audit listed
    cases points : audit.actionId with
    | none => rfl
    | some actionId => simpa using refer actionId audit listed points

/-- The transaction of a run commits unless an insert or a checked foreign key
refuses it. -/
theorem persist_returns_iff : (∃ committed, persistResult kind now loaded result db = .ok committed) ↔
    ∃ actions, insertActions loaded.caseId db.recoveryActions result.actions = .ok actions ∧
      (kind.enforcesForeignKeys = true → auditsRefer actions result.auditTrail = true) ∧
      ∃ approvals, insertApproval loaded.caseId result db.recoveryApprovals = .ok approvals := by
  constructor
  · rintro ⟨committed, returned⟩
    have persisted := persist_result_ok returned
    exact ⟨_, persisted.recoveryActions, persisted.referred, _, persisted.recoveryApprovals⟩
  · rintro ⟨actions, insertedActions, referred, approvals, insertedApproval⟩
    have passes : (kind.enforcesForeignKeys && !auditsRefer actions result.auditTrail) = false := by
      cases enforced : kind.enforcesForeignKeys with
      | false => rfl
      | true => simp [referred enforced]
    simp only [persistResult, insertedActions, insertedApproval, passes, ok_bind]
    exact ⟨_, rfl⟩

theorem insert_approval_returns (rows : List RecoveryApproval)
    (requested : result.approvalStatus = some .pending →
      ∃ record, result.approvalRecord = some (.requested record)) :
    ∃ approvals, insertApproval caseId result rows = .ok approvals := by
  unfold insertApproval
  split
  · rename_i pending
    obtain ⟨record, asked⟩ := requested pending
    rw [asked]
    dsimp only
    split <;> exact ⟨_, rfl⟩
  · exact ⟨_, rfl⟩

/-- Whether the tables take an action.  One with a stored key is skipped, and its
audit row, where that is checked, then needs a stored action under the same
identifier; a new one needs a new identifier. -/
def storable (kind : DatabaseKind) (rows : List RecoveryAction) (action : RecoveryAction) : Bool :=
  if rows.any fun r => r.idempotencyKey = action.idempotencyKey then
    !kind.enforcesForeignKeys || rows.any fun r => r.actionId = action.actionId
  else !rows.any fun r => r.actionId = action.actionId

theorem insert_action_iff (caseId : String) {rows : List RecoveryAction} {action : RecoveryAction} :
    (∃ actions, insertActions caseId rows [action] = .ok actions ∧ (kind.enforcesForeignKeys = true →
      ∃ r ∈ actions, r.actionId = action.actionId)) ↔ storable kind rows action = true := by
  unfold storable
  split
  · rename_i stored
    simp only [insertActions, stored, ↓reduceIte, Except.ok.injEq, exists_eq_left', Bool.or_eq_true,
      Bool.not_eq_true', List.any_eq_true, decide_eq_true_eq]
    cases kind.enforcesForeignKeys <;> simp
  · rename_i missing
    by_cases taken : (rows.any fun r => r.actionId = action.actionId) = true
    · simp [insertActions, missing, taken]
    · simp [insertActions, missing, taken]

/-- A run commits exactly when the tables take its action. -/
theorem persist_returns (ran : (graphRun d decision clock finish case approval).2 = .ok result)
    (approved : ∀ row, approval = some row → row.status = .approved) :
    (∃ committed, persistResult kind now loaded result db = .ok committed) ↔
      ∀ action ∈ result.actions, storable kind db.recoveryActions action = true := by
  have request : ∃ approvals, insertApproval loaded.caseId result db.recoveryApprovals = .ok approvals := by
    apply insert_approval_returns _
    intro pending
    obtain ⟨_, _, record, _, _, request⟩ := pending_from ran approved pending
    exact ⟨record, request.approvalRecord⟩
  obtain ⟨audited, nothing | ⟨action, one⟩⟩ := graph_run_audited ran
  · rw [nothing, List.map_nil, auditedActions] at audited
    rw [persist_returns_iff, nothing]
    constructor
    · intro _ action listed
      cases listed
    · intro _
      refine ⟨db.recoveryActions, rfl, fun _ => audits_refer_iff.mpr ?_, request⟩
      rw [audited]
      intro _ listed
      cases listed
  · rw [one, List.map_singleton, auditedActions] at audited
    rw [persist_returns_iff, one, List.forall_mem_singleton]
    refine Iff.trans ?_ (insert_action_iff loaded.caseId)
    simp only [audits_refer_iff, audited, List.forall_mem_singleton, request, and_true]

/-- The keys of a run's actions are keys of its case. -/
theorem executed_own_key {action : RecoveryAction}
    (ran : (graphRun d decision clock finish case approval).2 = .ok result)
    (executed : action ∈ result.actions) : action.idempotencyKey.caseId = case.caseId := by
  obtain ⟨s, proposed, built, ranPropose, _, made⟩ := executed_from ran executed
  rw [made.idempotencyKey]
  exact (rebuilt_from built ranPropose).caseId

/-! ## The outcome of a checked strategy -/

/-- The outcome that a checked strategy leads to, if nothing raises. -/
def courseOutcome (checked : RecoveryState) : Outcome :=
  { status := if routePolicy checked = .approval then .escalated else caseStatus checked
    retried := checked.action = some .smartRetry
    arm := checked.experimentArm
    keys := if routePolicy checked = .execute then
        [idempotencyKey checked (checked.action.getD .stop) (executionChannel checked)]
      else [] }

theorem outcome_finished (fresh : checked.actions = []) (finished : Finished d finish checked result) :
    outcomeOf result = courseOutcome checked := by
  cases finished with
  | pending route =>
    simp only [outcomeOf, courseOutcome, route, fresh, caseStatus, logAudit, RecoveryState.action]
    simp
  | stopped route =>
    simp only [outcomeOf, courseOutcome, route, fresh, caseStatus, logAudit, RecoveryState.action]
    simp
  | @executed action _ route _ made =>
    have key : action.idempotencyKey =
        idempotencyKey checked (checked.action.getD .stop) (executionChannel checked) := by
      rw [made.idempotencyKey, made.actionType, made.channel]
    simp only [outcomeOf, courseOutcome, route, fresh, caseStatus, logAudit, RecoveryState.action,
      List.nil_append, List.map_singleton, key]
    simp

/-- Whether the second part of a run returns: the approver is notified, or the
approval still holds and the executed action is answered. -/
def getsThrough (d : Deployment) (finish : FinishInputs) (checked : RecoveryState) : Bool :=
  match routePolicy checked with
  | .approval => finish.notify.isOk && (Instant.addSeconds finish.requestedAt 7200).isOk
  | .stop => true
  | .execute =>
    !PolicyEngine.needsApproval d.settings finish.execution.clock.approval checked &&
      (execute finish.execution.clock.execute finish.execution.link (checked.action.getD .stop)
        checked.strategy (executionChannel checked)).isOk

theorem finish_returns_iff :
    (∃ result, (finishGraph d finish checked).2 = .ok result) ↔ getsThrough d finish checked = true := by
  unfold finishGraph getsThrough
  cases routePolicy checked with
  | approval =>
    dsimp only
    rw [returns_bind_pure]
    simp only [requestApprovalNode, bind_ok, Bool.and_eq_true, is_ok_iff]
    constructor
    · rintro ⟨_, due, scheduled, _, notified, _⟩
      exact ⟨⟨_, notified⟩, due, scheduled⟩
    · rintro ⟨⟨_, notified⟩, due, scheduled⟩
      exact ⟨_, due, scheduled, _, notified, rfl⟩
  | stop => simp
  | execute =>
    cases needed : PolicyEngine.needsApproval d.settings finish.execution.clock.approval checked with
    | true =>
      simp only [executeAction, PolicyEngine.assertApproved, needed, ↓reduceIte, returns_bind_pure]
      simp
    | false =>
      simp only [executeAction, PolicyEngine.assertApproved, needed, Bool.false_eq_true, ↓reduceIte,
        returns_bind_pure, Bool.not_false, Bool.true_and, is_ok_iff]

/-! ## Two checks of one case -/

/-- The part of a run that worker and graph take before anything acts. -/
def checkedFor (d : Deployment) (decision : DecisionInputs) (clock : PolicyClock) (case : RecoveryCase)
    (approval : Option RecoveryApproval) : Except String RecoveryState :=
  buildState case approval >>= decideGraph d decision clock

theorem checked_for_eq : checkedFor d decision clock case approval =
    proposeFor d decision case approval >>= fun proposed =>
      pure (policyCheckNode d.settings clock proposed) := by
  rw [checkedFor, proposeFor, bind_assoc]
  rfl

instance (now : ℤ) (approval : Option RecoveryApproval) : Decidable (ApprovedAt now approval) :=
  decidable_of_iff ((approval.any fun row => row.status = .approved && now < row.expiresAt) = true) (by
    cases approval <;> simp [ApprovedAt])

/-- Two checks of one proposed action read the clocks on the same sides of the
cooldown, of the quiet hours and of the expiry of their approvals, as far as
these matter for the action. -/
def ChecksAlike (cfg : Settings) (case : RecoveryCase) (action : Option ActionType)
    (clock clock' : PolicyClock) (approval approval' : Option RecoveryApproval) : Prop :=
  (action ∈ PolicyEngine.contactOrRetryActions.map some →
    PolicyEngine.cooldownActive cfg clock'.cooldown case.lastRetryAt =
      PolicyEngine.cooldownActive cfg clock.cooldown case.lastRetryAt) ∧
  (action ∈ PolicyEngine.customerContactActions.map some →
    PolicyEngine.inQuietHours cfg (Instant.kolkataHour clock'.quietHours) =
      PolicyEngine.inQuietHours cfg (Instant.kolkataHour clock.quietHours)) ∧
  (cfg.highValueThreshold < case.amountPaise → action ≠ some .stop →
    (ApprovedAt clock'.approval approval' ↔ ApprovedAt clock.approval approval))

instance (cfg : Settings) (case : RecoveryCase) (action : Option ActionType) (clock clock' : PolicyClock)
    (approval approval' : Option RecoveryApproval) :
    Decidable (ChecksAlike cfg case action clock clock' approval approval') :=
  inferInstanceAs (Decidable (_ ∧ _ ∧ _))

variable {case' : RecoveryCase} {approval' : Option RecoveryApproval} {clock' : PolicyClock}
  {proposed proposed' t t' : RecoveryState}

/-- A later load of a case that nothing has moved: what decides about it is as it
was. -/
structure Unmoved (case case' : RecoveryCase) : Prop where
  intake : intakePart case' = intakePart case
  retryCount : case'.retryCount = case.retryCount
  lastRetryAt : case'.lastRetryAt = case.lastRetryAt

theorem course_outcome_congr (route : routePolicy t' = routePolicy t) (status : caseStatus t' = caseStatus t)
    (action : t'.action = t.action) (arm : t'.experimentArm = t.experimentArm)
    (key : ∀ actionType, idempotencyKey t' actionType (executionChannel t') =
      idempotencyKey t actionType (executionChannel t)) : courseOutcome t' = courseOutcome t := by
  simp only [courseOutcome, route, status, action, arm, key]

theorem case_status_congr (unasked : t.approvalStatus ≠ some .pending)
    (unasked' : t'.approvalStatus ≠ some .pending) (action : t'.action = t.action) :
    caseStatus t' = caseStatus t := by
  simp only [caseStatus, unasked, unasked', ↓reduceIte, action]

theorem alike_action (alike : Alike d proposed proposed') : proposed'.action = proposed.action := by
  simp only [RecoveryState.action, alike.strategy]

theorem allowed_alike (alike : Alike d proposed proposed') (rebuilt : RebuiltFrom case approval proposed)
    (rebuilt' : RebuiltFrom case' approval' proposed') (unmoved : Unmoved case case')
    (checks : ChecksAlike d.settings case proposed.action clock clock' approval approval') :
    Allowed d.settings clock' proposed' ↔ Allowed d.settings clock proposed := by
  obtain ⟨cooldown, quiet, _⟩ := checks
  simp only [allowed_iff, alike_action alike, alike.customer, rebuilt.retryCount, rebuilt'.retryCount,
    rebuilt.amount, rebuilt'.amount, rebuilt.lastRetryAt, rebuilt'.lastRetryAt, unmoved.retryCount,
    unmoved.lastRetryAt, (intake_part_amount unmoved.intake).2]
  refine and_congr_right fun _ => and_congr_right fun _ => and_congr_right fun _ => and_congr ?_ ?_
  · exact imp_congr_right fun paced => by rw [cooldown paced]
  · exact imp_congr_right fun contact => by rw [quiet contact]

theorem needs_approval_alike (alike : Alike d proposed proposed')
    (rebuilt : RebuiltFrom case approval proposed) (rebuilt' : RebuiltFrom case' approval' proposed')
    (unmoved : Unmoved case case')
    (checks : ChecksAlike d.settings case proposed.action clock clock' approval approval') :
    PolicyEngine.needsApproval d.settings clock'.approval proposed' =
      PolicyEngine.needsApproval d.settings clock.approval proposed := by
  obtain ⟨_, _, approved⟩ := checks
  by_cases stop : proposed.action = some .stop
  · simp [PolicyEngine.needsApproval, alike_action alike, stop]
  · have moving' : proposed'.action ≠ some .stop := by rwa [alike_action alike]
    have same : PolicyEngine.needsApproval d.settings clock'.approval proposed' = false ↔
        PolicyEngine.needsApproval d.settings clock.approval proposed = false := by
      rw [needs_approval_rebuilt rebuilt' moving', needs_approval_rebuilt rebuilt stop,
        (intake_part_amount unmoved.intake).2]
      by_cases high : d.settings.highValueThreshold < case.amountPaise
      · rw [approved high stop]
      · simp [not_lt.mp high]
    rw [Bool.eq_iff_iff, ← not_iff_not, Bool.not_eq_true, Bool.not_eq_true]
    exact same

/-- A strategy that `policy_check` does not allow sends the run to its end. -/
theorem policy_check_blocked {clock : PolicyClock} {s : RecoveryState}
    (blocked : ¬ Allowed d.settings clock s) :
    (policyCheckNode d.settings clock s).action = some .stop ∧
      routePolicy (policyCheckNode d.settings clock s) = .stop := by
  rcases policy_check_node_cases d.settings clock s with ⟨_, stop, unneeded⟩ | ⟨passed, _⟩
  · exact ⟨stop, by simp [routePolicy, stop, unneeded]⟩
  · exact absurd passed blocked

/-- Two checks of one proposal that come out alike lead to one outcome. -/
theorem checked_outcome_alike (alike : Alike d proposed proposed')
    (rebuilt : RebuiltFrom case approval proposed) (rebuilt' : RebuiltFrom case' approval' proposed')
    (unmoved : Unmoved case case')
    (checks : ChecksAlike d.settings case proposed.action clock clock' approval approval')
    (approved : ∀ row, approval = some row → row.status = .approved)
    (approved' : ∀ row, approval' = some row → row.status = .approved) :
    courseOutcome (policyCheckNode d.settings clock' proposed') =
      courseOutcome (policyCheckNode d.settings clock proposed) := by
  have sameAllowed := allowed_alike alike rebuilt rebuilt' unmoved checks
  have sameNeed := needs_approval_alike alike rebuilt rebuilt' unmoved checks
  have unasked : (policyCheckNode d.settings clock proposed).approvalStatus ≠ some .pending := by
    rw [policy_check_approval_status]
    exact unasked_rebuilt rebuilt approved
  have unasked' : (policyCheckNode d.settings clock' proposed').approvalStatus ≠ some .pending := by
    rw [policy_check_approval_status]
    exact unasked_rebuilt rebuilt' approved'
  have arm : (policyCheckNode d.settings clock' proposed').experimentArm =
      (policyCheckNode d.settings clock proposed).experimentArm := by
    rw [policy_check_experiment_arm, policy_check_experiment_arm]
    exact alike.experimentArm
  by_cases allowed : Allowed d.settings clock proposed
  · obtain ⟨same, needed⟩ := policy_check_allowed allowed
    obtain ⟨same', needed'⟩ := policy_check_allowed (sameAllowed.mpr allowed)
    have action : (policyCheckNode d.settings clock' proposed').action =
        (policyCheckNode d.settings clock proposed).action := by
      rw [same.action_eq, same'.action_eq, alike_action alike]
    have channel : executionChannel proposed' = executionChannel proposed := by
      simp only [executionChannel, alike.strategy, alike.selectedChannel]
    refine course_outcome_congr ?_ (case_status_congr unasked unasked' action) action arm fun actionType => ?_
    · simp only [routePolicy, needed, needed', sameNeed, action]
    · rw [same.execution_channel_eq, same'.execution_channel_eq, same.idempotency_key_eq,
        same'.idempotency_key_eq, channel]
      simp only [idempotencyKey, alike.caseId, rebuilt.retryCount, rebuilt'.retryCount, unmoved.retryCount]
  · obtain ⟨stop, route⟩ := policy_check_blocked allowed
    obtain ⟨stop', route'⟩ := policy_check_blocked (mt sameAllowed.mp allowed)
    have status := case_status_congr unasked unasked' (stop'.trans stop.symm)
    simp only [courseOutcome, route, route', stop, stop', status, arm, reduceCtorEq, ↓reduceIte]

/-- The check of a case that nothing has moved, on the same answers. -/
theorem checked_alike (unmoved : Unmoved case case')
    (checks : ∀ proposed, proposeFor d decision case approval = .ok proposed →
      ChecksAlike d.settings case proposed.action clock clock' approval approval')
    (approved : ∀ row, approval = some row → row.status = .approved)
    (approved' : ∀ row, approval' = some row → row.status = .approved) :
    Agree (fun t t' => courseOutcome t' = courseOutcome t ∧ t.actions = [] ∧ t'.actions = [])
      (checkedFor d decision clock case approval) (checkedFor d decision clock' case' approval') := by
  have agreed : Agree (Alike d) (proposeFor d decision case approval) (proposeFor d decision case' approval') :=
    propose_for_alike unmoved.intake (by rw [unmoved.retryCount]) fun _ => by rw [unmoved.retryCount]
  rw [checked_for_eq, checked_for_eq]
  cases ran : proposeFor d decision case approval with
  | error exc =>
    rw [agree_error agreed ran]
    exact .error exc
  | ok proposed =>
    obtain ⟨proposed', ran', alike⟩ := agree_ok agreed ran
    rw [ran']
    obtain ⟨s, built, ranPropose⟩ := bind_ok.mp ran
    obtain ⟨s', built', ranPropose'⟩ := bind_ok.mp ran'
    have rebuilt := rebuilt_from built ranPropose
    have rebuilt' := rebuilt_from built' ranPropose'
    exact .ok ⟨checked_outcome_alike alike rebuilt rebuilt' unmoved (checks proposed ran) approved approved',
      (policy_check_actions ..).trans rebuilt.actions, (policy_check_actions ..).trans rebuilt'.actions⟩

end RevenueGuard.DeliveryProofs
