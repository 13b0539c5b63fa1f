import RevenueGuard.ProposalProofs
import RevenueGuard.PolicyProofs

/-!
What becomes of an approved action.  A run pauses for approval and commits, an
approver grants it in time, and the case is taken up again with the same answers
from outside.  `resumes_iff` says exactly when the second run executes the
action: always, unless it is a retry, which the pause itself has already
counted.
-/

namespace RevenueGuard.ResumeProofs

open Library Library.Raises GraphProofs PolicyProofs WorkerProofs TableProofs ProposalProofs

variable {d : Deployment} {decision : DecisionInputs} {case : RecoveryCase} {result : RecoveryState}
  {db db₁ db₂ : Database} {row : RecoveryApproval} {actionType : ActionType}

/-- The delivery of a case executes an action. -/
def Executes (d : Deployment) (decision : DecisionInputs) (visit : Visit) (caseId : String)
    (db : Database) (actionType : ActionType) : Prop :=
  ∃ case result action, Keyed.find (·.caseId) caseId db.recoveryCases = some case ∧
    (visitRun d decision visit case db).2 = .ok result ∧ action ∈ result.actions ∧
    action.actionType = actionType

/-- A delivery pauses for approval and commits, under a fresh identifier. -/
structure Paused (d : Deployment) (decision : DecisionInputs) (visit : Visit) (case : RecoveryCase)
    (result : RecoveryState) (db db₁ : Database) : Prop where
  loaded : Keyed.find (·.caseId) case.caseId db.recoveryCases = some case
  ran : (visitRun d decision visit case db).2 = .ok result
  pending : result.approvalStatus = some .pending
  committed : persistResult d.database visit.now case result db = .ok db₁
  fresh : ∀ other ∈ db.recoveryApprovals, other.approvalId ≠ visit.finish.approvalId

/-- The request is granted before it expires, and no approval of the case is
granted at the same instant or later. -/
structure Granted (approvalId : String) (row : RecoveryApproval) (db₁ db₂ : Database) : Prop where
  granted : ∃ approvedBy checkedAt grantedAt,
    acceptVerdict (.approve approvedBy) checkedAt approvalId db₁ = .ok row ∧
      db₂ = commitVerdict (.approve approvedBy) grantedAt row db₁ ∧
      ∀ other ∈ db₁.recoveryApprovals, other.caseId = row.caseId → other.status = .approved →
        other.approvedAt.getD 0 < grantedAt

/-- The second delivery comes after the first, outside the quiet hours and before
the approval expires, and Razorpay answers. -/
structure InTime (d : Deployment) (first second : Visit) (row : RecoveryApproval) : Prop where
  later : first.clock.cooldown ≤ second.clock.cooldown
  awake : Instant.kolkataHour second.clock.quietHours ∉
    quietHours d.settings.quietHoursStart d.settings.quietHoursEnd
  unexpired : second.clock.approval < row.expiresAt
  unexpiredAtExecution : second.finish.execution.clock.approval < row.expiresAt
  answered : ∃ link, second.finish.execution.link = .ok link

/-! ## The tables between the two runs -/

variable {visit first second : Visit}

/-- The row of the resumed case. -/
theorem paused_case (paused : Paused d decision visit case result db db₁) :
    Keyed.find (·.caseId) case.caseId db₁.recoveryCases =
      some (updateCase visit.now case result case) := by
  rw [(persist_result_ok paused.committed).recoveryCases, find_update, paused.loaded]
  rfl

/-- The request that a paused run leaves in the table. -/
theorem paused_request (paused : Paused d decision visit case result db db₁) :
    ∃ s proposed record, buildState case (activeApproval visit.pick db case.caseId) = .ok s ∧
      propose d decision s = .ok proposed ∧
      Requested d visit.clock visit.finish case proposed result record ∧
      db₁.recoveryApprovals = db.recoveryApprovals ++ [pendingApproval case.caseId record] := by
  have loaded : ∀ row, activeApproval visit.pick db case.caseId = some row → row.status = .approved :=
    fun row found => (active_approval_some found).2.2.1
  obtain ⟨s, proposed, record, built, ranPropose, request⟩ := pending_from paused.ran loaded paused.pending
  refine ⟨s, proposed, record, built, ranPropose, request, ?_⟩
  have inserted := (persist_result_ok paused.committed).recoveryApprovals
  have unused : ¬ (db.recoveryApprovals.any fun r => r.approvalId = record.approvalId) := by
    simpa [request.approvalId] using paused.fresh
  simp only [insertApproval, paused.pending, ↓reduceIte, request.approvalRecord, unused] at inserted
  exact (Except.ok.inj inserted).symm

/-- The row that the second run loads: the granted request. -/
theorem granted_active (paused : Paused d decision first case result db db₁)
    (granted : Granted first.finish.approvalId row db₁ db₂) (pick : ℕ) :
    db₂.recoveryCases = db₁.recoveryCases ∧ ∃ active,
      activeApproval pick db₂ case.caseId = some active ∧ active.status = .approved ∧
        active.expiresAt = row.expiresAt := by
  obtain ⟨s, proposed, record, _, _, request, grown⟩ := paused_request paused
  obtain ⟨approvedBy, checkedAt, grantedAt, accepted, rfl, latest⟩ := granted.granted
  have absent : Keyed.find (·.approvalId) record.approvalId db.recoveryApprovals = none :=
    Keyed.find_none.mpr (request.approvalId ▸ paused.fresh)
  obtain rfl : pendingApproval case.caseId record = row := by
    have found := accept_verdict_found accepted
    rw [getApproval, ← request.approvalId, grown, Keyed.find_append, absent] at found
    simpa [Keyed.find, pendingApproval] using found
  refine ⟨rfl, decideApproval (.approve approvedBy) grantedAt (pendingApproval case.caseId record)
    (pendingApproval case.caseId record), ?_, rfl, rfl⟩
  refine active_approval_latest pick ?_ rfl rfl ?_
  · refine Keyed.mem_modify.mpr (.inl ⟨_, ?_, rfl, rfl⟩)
    rw [grown]
    exact List.mem_append_right _ (List.mem_singleton_self _)
  · intro other stored ofCase approved different
    rcases Keyed.mem_modify.mp stored with ⟨old, member, sameId, rfl⟩ | ⟨member, _⟩
    · rw [grown] at member
      rcases List.mem_append.mp member with earlier | new
      · exact absurd (sameId.trans request.approvalId) (paused.fresh old earlier)
      · exact absurd (by rw [List.mem_singleton.mp new]) different
    · exact latest other member ofCase approved

/-! ## The second run -/

/-- The strategy that the second run proposes, if the retry count still lets it
propose the action of the first: in the control arm the baseline's next one. -/
def resumedStrategy (d : Deployment) (case : RecoveryCase) (result : RecoveryState) :
    Option StrategyDecision :=
  if assignExperimentArm d.md5 case.caseId d.settings.experimentVariantPct = .ok .control then
    some (baselineDecide (case.retryCount + 1))
  else result.strategy

/-- The approved action survives the pause: it is no retry, or the retry that the
pause has counted already leaves room for another one, and the instant that a
retry or a deferral is scheduled for is on the calendar. -/
structure Resumable (d : Deployment) (first second : Visit) (case : RecoveryCase) (result : RecoveryState)
    (actionType : ActionType) : Prop where
  retries : actionType = .smartRetry → case.retryCount + 1 < d.settings.maxRetryAttempts
  baseline : actionType = .smartRetry →
    assignExperimentArm d.md5 case.caseId d.settings.experimentVariantPct = .ok .control →
      case.retryCount + 1 < 3
  cooldown : actionType = .smartRetry →
    first.now + Instant.hours d.settings.cooldownHours ≤ second.clock.cooldown
  scheduled : actionType = .smartRetry ∨ actionType = .defer →
    ∃ due, Instant.addSeconds second.finish.execution.clock.execute
      (max 0 (((resumedStrategy d case result).map (·.retryDelaySeconds)).getD 0)) = .ok due

theorem update_case_retried (now : ℤ) (retried : result.action = some .smartRetry) :
    (updateCase now case result case).retryCount = case.retryCount + 1 ∧
      (updateCase now case result case).lastRetryAt = some now := by
  simp [updateCase, retried]

theorem update_case_unretried (now : ℤ) (other : result.action ≠ some .smartRetry) :
    (updateCase now case result case).retryCount = case.retryCount ∧
      (updateCase now case result case).lastRetryAt = case.lastRetryAt := by
  simp [updateCase, other]

/-- A run proposed an action that the policies permitted, and ended with its
strategy. -/
structure Proposed (d : Deployment) (decision : DecisionInputs) (visit : Visit) (case : RecoveryCase)
    (approval : Option RecoveryApproval) (s proposed result : RecoveryState) (actionType : ActionType) :
    Prop where
  built : buildState case approval = .ok s
  ran : propose d decision s = .ok proposed
  strategy : result.strategy = proposed.strategy
  examined : proposed.action = some actionType
  notStop : actionType ≠ .stop
  permitted : ∃ channel, Permitted d.settings visit.clock case actionType channel

theorem paused_proposed (paused : Paused d decision visit case result db db₁)
    (asked : result.action = some actionType) :
    ∃ s proposed, Proposed d decision visit case (activeApproval visit.pick db case.caseId) s proposed result
      actionType := by
  obtain ⟨s, proposed, record, built, ran, request, _⟩ := paused_request paused
  have rebuilt := rebuilt_from built ran
  have examined : proposed.action = some actionType := by
    rw [← asked, RecoveryState.action, RecoveryState.action, request.strategy]
  have notStop : actionType ≠ .stop := by
    rw [Option.some.inj (examined.symm.trans request.requestedAction)]
    exact requested_not_stop request
  have ready := nudge_ready_proposed rebuilt (propose_ok ran).2.2 examined
  have permitted := (allowed_iff_permitted rebuilt examined notStop ready).mp request.allowed
  exact ⟨s, proposed, built, ran, request.strategy, examined, notStop, _, permitted⟩

section

variable {approval approval' : Option RecoveryApproval} {s proposed : RecoveryState}
  (before : Proposed d decision first case approval s proposed result actionType)
include before

theorem proposed_asked : result.action = some actionType := by
  rw [← before.examined, RecoveryState.action, RecoveryState.action, before.strategy]

/-- In the control arm the baseline proposed one of its retries. -/
theorem proposed_control
    (control : assignExperimentArm d.md5 case.caseId d.settings.experimentVariantPct = .ok .control) :
    actionType = .smartRetry ∧ case.retryCount < 3 := by
  have stored := build_state_ok before.built
  have strategy := stored.retryCount ▸ propose_control (stored.caseId.symm ▸ control) before.ran
  exact baseline_moves strategy before.examined before.notStop

/-- The pause counts a retry, and nothing else. -/
theorem resumed_count_below
    (retries : actionType = .smartRetry → case.retryCount + 1 < d.settings.maxRetryAttempts) (now : ℤ) :
    (updateCase now case result case).retryCount < d.settings.maxRetryAttempts := by
  by_cases retried : result.action = some .smartRetry
  · rw [(update_case_retried now retried).1]
    exact retries (Option.some.inj ((proposed_asked before).symm.trans retried))
  · obtain ⟨channel, permitted⟩ := before.permitted
    rw [(update_case_unretried now retried).1]
    exact permitted.retries

/-- In the control arm the second run proposes what the baseline has for the next
retry. -/
theorem resumed_control (approval' : Option RecoveryApproval) (now : ℤ)
    (control : assignExperimentArm d.md5 case.caseId d.settings.experimentVariantPct = .ok .control) :
    ∃ s' proposed', buildState (updateCase now case result case) approval' = .ok s' ∧
      propose d decision s' = .ok proposed' ∧
      proposed'.strategy = some (baselineDecide (case.retryCount + 1)) := by
  obtain ⟨rfl, _⟩ := proposed_control before control
  have context := build_state_returns_iff.mp ⟨s, before.built⟩
  obtain ⟨s', built⟩ : ∃ s', buildState (updateCase now case result case) approval' = .ok s' :=
    build_state_returns_iff.mpr context
  have stored := build_state_ok built
  obtain ⟨triage, scored⟩ := propose_scored before.ran
  have control' : assignExperimentArm d.md5 s'.caseId d.settings.experimentVariantPct = .ok .control := by
    rw [stored.caseId]
    exact control
  obtain ⟨proposed', ran⟩ := propose_control_runs (d := d) scored control'
  refine ⟨s', proposed', built, ran, ?_⟩
  rw [propose_control control' ran, stored.retryCount, (update_case_retried now (proposed_asked before)).1]

/-- In the treatment arm the second run proposes the same strategy, as long as its
retry count is below the limit. -/
theorem resumed_treatment (approval' : Option RecoveryApproval) (now : ℤ)
    (other : assignExperimentArm d.md5 case.caseId d.settings.experimentVariantPct ≠ .ok .control)
    (retries : actionType = .smartRetry → case.retryCount + 1 < d.settings.maxRetryAttempts) :
    ∃ s' proposed', buildState (updateCase now case result case) approval' = .ok s' ∧
      propose d decision s' = .ok proposed' ∧ proposed'.strategy = result.strategy := by
  obtain ⟨channel, permitted⟩ := before.permitted
  have belowBefore := permitted.retries
  have below := resumed_count_below before retries now
  have agreed : Agree (Alike d) (proposeFor d decision case approval)
      (proposeFor d decision (updateCase now case result case) approval') :=
    propose_for_alike (intake_part_update now case result case) (by omega)
      fun control => absurd control other
  obtain ⟨proposed', ran', alike⟩ := agree_ok agreed (bind_ok.mpr ⟨s, before.built, before.ran⟩)
  obtain ⟨s', built, ran⟩ := bind_ok.mp ran'
  exact ⟨s', proposed', built, ran, alike.strategy.trans before.strategy.symm⟩

/-- The second run proposes the resumed strategy. -/
theorem resumed_proposal (approval' : Option RecoveryApproval) (now : ℤ)
    (retries : actionType = .smartRetry → case.retryCount + 1 < d.settings.maxRetryAttempts) :
    ∃ s' proposed', buildState (updateCase now case result case) approval' = .ok s' ∧
      propose d decision s' = .ok proposed' ∧
      proposed'.strategy = resumedStrategy d case result := by
  unfold resumedStrategy
  split
  · exact resumed_control before approval' now ‹_›
  · exact resumed_treatment before approval' now ‹_› retries

/-- The resumed strategy is for the approved action. -/
theorem resumed_action (resumable : Resumable d first second case result actionType) :
    (resumedStrategy d case result).map (·.actionType) = some actionType := by
  unfold resumedStrategy
  split
  · rename_i control
    obtain ⟨rfl, _⟩ := proposed_control before control
    have within := resumable.baseline rfl control
    simp [baseline_decide_action, within]
  · exact proposed_asked before

/-- What the policies permitted before the pause they permit after it. -/
theorem resumed_permitted {channel : Option RecoveryChannel}
    (resumable : Resumable d first second case result actionType) (inTime : InTime d first second row)
    (ready : NudgeReady case.customerData actionType channel) :
    Permitted d.settings second.clock (updateCase first.now case result case) actionType channel := by
  obtain ⟨_, permitted⟩ := before.permitted
  refine
    { notStop := permitted.notStop
      optedIn := permitted.optedIn
      retries := resumed_count_below before resumable.retries first.now
      amount := permitted.amount
      cooldown := fun paced lastRetry last => ?_
      quiet := fun _ => inTime.awake
      nudge := ready }
  by_cases retried : result.action = some .smartRetry
  · rw [(update_case_retried first.now retried).2] at last
    cases last
    exact resumable.cooldown (Option.some.inj ((proposed_asked before).symm.trans retried))
  · rw [(update_case_unretried first.now retried).2] at last
    exact (permitted.cooldown paced lastRetry last).trans inTime.later

/-- A second run that executes the approved action has found it resumable. -/
theorem resumable_of_executed {result' : RecoveryState} {action : RecoveryAction}
    (ran : (graphRun d decision second.clock second.finish (updateCase first.now case result case)
      approval').2 = .ok result')
    (executed : action ∈ result'.actions) (typed : action.actionType = actionType) :
    Resumable d first second case result actionType := by
  subst typed
  obtain ⟨s', proposed', built, ranPropose, passed, made⟩ := executed_from ran executed
  have permitted := permitted_of_passed (rebuilt_from built ranPropose) (propose_ok ranPropose).2.2 passed made
  have stored := build_state_ok built
  have counted (retry : action.actionType = .smartRetry) :
      (updateCase first.now case result case).retryCount = case.retryCount + 1 ∧
        (updateCase first.now case result case).lastRetryAt = some first.now :=
    update_case_retried first.now (retry ▸ proposed_asked before)
  have retries (retry : action.actionType = .smartRetry) :
      case.retryCount + 1 < d.settings.maxRetryAttempts := by
    rw [← (counted retry).1]
    exact permitted.retries
  refine ⟨retries, fun retry control => ?_, fun retry => ?_, fun due => ?_⟩
  · have strategy := propose_control (by rw [stored.caseId]; exact control) ranPropose
    obtain ⟨_, within⟩ := baseline_moves strategy passed.examined passed.notStop
    rwa [stored.retryCount, (counted retry).1] at within
  · exact permitted.cooldown (by rw [retry]; decide) _ (counted retry).2
  · obtain ⟨s'', proposed'', built'', ranPropose'', strategy⟩ :=
      resumed_proposal before approval' first.now retries
    cases built''.symm.trans built
    cases ranPropose''.symm.trans ranPropose
    rw [← strategy]
    exact (execute_returns_iff.mp ⟨_, made.outcome⟩).2 due

/-- A resumable action is executed by a second run that is approved and in time. -/
theorem executed_of_resumable (resumable : Resumable d first second case result actionType)
    (inTime : InTime d first second row)
    (approved : ∀ now ∈ [second.clock.approval, second.finish.execution.clock.approval],
      ApprovedAt now approval') :
    ∃ result' action, (graphRun d decision second.clock second.finish
        (updateCase first.now case result case) approval').2 = .ok result' ∧
      action ∈ result'.actions ∧ action.actionType = actionType := by
  obtain ⟨s', proposed', built, ranPropose, strategy⟩ :=
    resumed_proposal before approval' first.now resumable.retries
  have rebuilt := rebuilt_from built ranPropose
  have examined : proposed'.action = some actionType := by
    rw [RecoveryState.action, strategy]
    exact resumed_action before resumable
  have ready := nudge_ready_proposed rebuilt (propose_ok ranPropose).2.2 examined
  have permitted := resumed_permitted before resumable inTime ready
  have passed : Passed d second.clock second.finish proposed' actionType :=
    (passed_iff_permitted rebuilt examined before.notStop ready).mpr
      ⟨permitted, fun now asked => .inr (approved now asked)⟩
  obtain ⟨output, executed⟩ := execute_returns_iff.mpr
    ⟨fun _ => inTime.answered, fun due => strategy ▸ resumable.scheduled due⟩
  obtain ⟨result', action, ranFinish, actions, typed, _⟩ := finish_executes passed executed
  refine ⟨result', action, ?_, by rw [actions]; simp, typed⟩
  rw [graph_run_eq built ranPropose]
  exact ranFinish

end

/-- The second run executes the approved action exactly when the pause has left
it possible. -/
theorem resumes_iff (paused : Paused d decision first case result db db₁)
    (granted : Granted first.finish.approvalId row db₁ db₂) (inTime : InTime d first second row)
    (asked : result.action = some actionType) :
    Executes d decision second case.caseId db₂ actionType ↔
      Resumable d first second case result actionType := by
  obtain ⟨s, proposed, before⟩ := paused_proposed paused asked
  obtain ⟨sameCases, active, found, approved, expires⟩ := granted_active paused granted second.pick
  have stored : Keyed.find (·.caseId) case.caseId db₂.recoveryCases =
      some (updateCase first.now case result case) := sameCases ▸ paused_case paused
  have visited : visitRun d decision second (updateCase first.now case result case) db₂ =
      graphRun d decision second.clock second.finish (updateCase first.now case result case)
        (some active) := by
    have sameKey : (updateCase first.now case result case).caseId = case.caseId := rfl
    rw [visitRun, sameKey, found]
  constructor
  · rintro ⟨_, result', action, again, ran, executed, typed⟩
    cases again.symm.trans stored
    rw [visited] at ran
    exact resumable_of_executed before ran executed typed
  · intro resumable
    have unexpired : ∀ now ∈ [second.clock.approval, second.finish.execution.clock.approval],
        ApprovedAt now (some active) := by
      simp only [List.mem_cons, List.not_mem_nil, or_false, forall_eq_or_imp, forall_eq]
      exact ⟨⟨active, rfl, approved, expires ▸ inTime.unexpired⟩,
        ⟨active, rfl, approved, expires ▸ inTime.unexpiredAtExecution⟩⟩
    obtain ⟨result', action, ran, executed, typed⟩ := executed_of_resumable before resumable inTime unexpired
    exact ⟨_, result', action, stored, visited ▸ ran, executed, typed⟩

/-- Eight minutes after the first visit the sample request is still open, and
nobody sleeps. -/
theorem sample_in_time {row : RecoveryApproval} (expires : row.expiresAt = 1788508800000000) :
    InTime sampleDeployment (sampleVisit 1788501600000000 "action-1")
      (sampleVisit 1788503000000000 "action-2") row where
  later := by decide
  awake := mt (in_quiet_hours_iff _).mpr (by decide)
  unexpired := by rw [expires]; decide
  unexpiredAtExecution := by rw [expires]; decide
  answered := ⟨_, rfl⟩

/-- An approved payment link of a treatment case is created by the second run. -/
theorem resumes_payment_link : ∃ db₂ : Database,
    Executes sampleDeployment (sampleDecision .closed "payment_link")
      (sampleVisit 1788503000000000 "action-2") "REC-00000007" db₂ .paymentLink := by
  obtain ⟨result, db₁, row, db₂, paused, granted, expires, asked⟩ : ∃ result db₁ row db₂,
      Paused sampleDeployment (sampleDecision .closed "payment_link")
        (sampleVisit 1788501600000000 "action-1") (sampleCase "REC-00000007" 7500000) result
        { recoveryCases := [sampleCase "REC-00000007" 7500000] } db₁ ∧
      Granted "APR-000000000001" row db₁ db₂ ∧ row.expiresAt = 1788508800000000 ∧
      result.action = some .paymentLink :=
    ⟨_, _, _, _, ⟨rfl, rfl, rfl, rfl, by simp⟩,
      ⟨"operator", 1788502000000000, 1788502000000000, rfl, rfl, by decide⟩, rfl, rfl⟩
  have resumable : Resumable sampleDeployment (sampleVisit 1788501600000000 "action-1")
      (sampleVisit 1788503000000000 "action-2") (sampleCase "REC-00000007" 7500000) result .paymentLink :=
    ⟨nofun, nofun, nofun, fun due => by simp at due⟩
  exact ⟨db₂, (resumes_iff paused granted (sample_in_time expires) asked).mpr resumable⟩

/-- Whatever is approved in time is executed by the next run. -/
def ResumesEveryApproval (d : Deployment) : Prop :=
  ∀ decision first second case result db db₁ db₂ row actionType,
    Paused d decision first case result db db₁ → Granted first.finish.approvalId row db₁ db₂ →
    InTime d first second row → result.action = some actionType →
    Executes d decision second case.caseId db₂ actionType

/-- A retry of a control case is approved; the pause itself has started the
cooldown that stops the second run. -/
theorem approved_retry_stops : ¬ ResumesEveryApproval sampleDeployment := by
  intro resumes
  obtain ⟨result, db₁, row, db₂, case, stopped, paused, granted, expires, asked, stored, ran, nothing⟩ :
      ∃ result db₁ row db₂ case stopped,
        Paused sampleDeployment (sampleDecision .closed "nudge_email")
          (sampleVisit 1788501600000000 "action-1") (sampleCase "REC-00000001" 7500000) result
          { recoveryCases := [sampleCase "REC-00000001" 7500000] } db₁ ∧
        Granted "APR-000000000001" row db₁ db₂ ∧ row.expiresAt = 1788508800000000 ∧
        result.action = some .smartRetry ∧
        Keyed.find (·.caseId) "REC-00000001" db₂.recoveryCases = some case ∧
        (visitRun sampleDeployment (sampleDecision .closed "nudge_email")
          (sampleVisit 1788503000000000 "action-2") case db₂).2 = .ok stopped ∧ stopped.actions = [] :=
    ⟨_, _, _, _, _, _, ⟨rfl, rfl, rfl, rfl, by simp⟩,
      ⟨"operator", 1788502000000000, 1788502000000000, rfl, rfl, by decide⟩, rfl, rfl, rfl, rfl, rfl⟩
  obtain ⟨case', result', action, stored', ran', executed, _⟩ :=
    resumes _ _ _ _ _ _ _ _ _ _ paused granted (sample_in_time expires) asked
  cases stored'.symm.trans stored
  cases ran'.symm.trans ran
  rw [nothing] at executed
  cases executed

end RevenueGuard.ResumeProofs
