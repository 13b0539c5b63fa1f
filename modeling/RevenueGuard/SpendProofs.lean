import RevenueGuard.CaseFileProofs
import RevenueGuard.Library.Menu
import RevenueGuard.PolicyProofs

/-!
What one case can ever cost.  Whatever the language model and the bandit choose, and however
often a case is delivered, the idempotency keys of its actions come from a finite menu: an action
type with a channel that fits it, under one of the retry counts below the limit.  Keys are stored
once, so the menu bounds the actions of a case and what they cost.
-/

namespace RevenueGuard.SpendProofs

open Library Library.Runs Library.Raises GraphProofs PolicyProofs WorkerProofs SystemProofs TableProofs
  OutcomeProofs CaseFileProofs

variable {d : Deployment} {s : System} {es : List Event} {caseId : String} {decision : DecisionInputs}
  {clock : PolicyClock} {finish : FinishInputs} {case : RecoveryCase} {approval : Option RecoveryApproval}
  {init proposed result : RecoveryState} {action : RecoveryAction}

/-! ## The menu -/

def anyChannel : List (Option RecoveryChannel) := [none, some .sms, some .email, some .whatsapp, some .inApp]

/-- The actions that a run in an arm may execute, with their channels. -/
def offers : ExperimentArm → List (ActionType × Option RecoveryChannel)
  | .control => [(.smartRetry, some .email)]
  | .treatment =>
    ([.smartRetry, .paymentLink, .escalateHuman, .defer].flatMap fun actionType =>
      anyChannel.map fun channel => (actionType, channel)) ++
      [(.nudgeEmail, some .email), (.nudgeSms, some .sms), (.nudgeWhatsapp, some .whatsapp)]

/-- How many retry counts leave room for an action. -/
def rounds (cfg : Settings) : ExperimentArm → ℕ
  | .control => min 3 cfg.maxRetryAttempts.toNat
  | .treatment => cfg.maxRetryAttempts.toNat

def offeredKey (caseId : String) (retryCount : ℕ) (offer : ActionType × Option RecoveryChannel) :
    IdempotencyKey :=
  { caseId, actionType := offer.1, channel := offer.2, retryCount }

/-- The keys that the actions of a case may have. -/
def menu (cfg : Settings) (caseId : String) (arm : ExperimentArm) : List IdempotencyKey :=
  (List.range (rounds cfg arm)).flatMap fun retryCount => (offers arm).map (offeredKey caseId retryCount)

theorem mem_menu {cfg : Settings} {arm : ExperimentArm} {key : IdempotencyKey} (ofCase : key.caseId = caseId)
    (offered : (key.actionType, key.channel) ∈ offers arm) (counted : 0 ≤ key.retryCount)
    (within : key.retryCount < rounds cfg arm) : key ∈ menu cfg caseId arm := by
  refine List.mem_flatMap.mpr ⟨key.retryCount.toNat, List.mem_range.mpr (by omega), List.mem_map.mpr ?_⟩
  refine ⟨_, offered, ?_⟩
  rw [offeredKey, Int.toNat_of_nonneg counted, ← ofCase]

/-! ## What a run may execute -/

theorem mem_any_channel (channel : Option RecoveryChannel) : channel ∈ anyChannel := by
  rcases channel with _ | channel
  · decide
  · cases channel <;> decide

theorem treatment_offers {actionType : ActionType} {channel : Option RecoveryChannel} {customer : Dict}
    (notStop : actionType ≠ .stop) (ready : NudgeReady customer actionType channel) :
    (actionType, channel) ∈ offers .treatment := by
  have free (listed : actionType ∈ [ActionType.smartRetry, .paymentLink, .escalateHuman, .defer]) :
      (actionType, channel) ∈ offers .treatment :=
    List.mem_append_left _ (List.mem_flatMap.mpr
      ⟨actionType, listed, List.mem_map.mpr ⟨channel, mem_any_channel channel, rfl⟩⟩)
  cases actionType with
  | stop => exact absurd rfl notStop
  | nudgeEmail =>
    rw [(ready.email rfl).1]
    decide
  | nudgeSms =>
    rw [(ready.sms rfl).1]
    decide
  | nudgeWhatsapp =>
    rw [(ready.whatsapp rfl).1]
    decide
  | smartRetry | paymentLink | escalateHuman | defer => exact free (by decide)

/-- `execute_action` charges for the channel of the action. -/
theorem finish_cost (ran : (finishGraph d finish init).2 = .ok result) :
    ∀ action ∈ result.actions, action ∈ init.actions ∨ action.costPaise = channelCost action.channel := by
  unfold finishGraph at ran
  split at ran
  · simp only [bind_ok, pure_ok, requestApprovalNode] at ran
    obtain ⟨_, ⟨_, _, _, _, rfl⟩, rfl⟩ := ran
    exact fun _ listed => .inl listed
  · cases ran
    exact fun _ listed => .inl listed
  · simp only [bind_ok, pure_ok] at ran
    obtain ⟨executed, made, rfl⟩ := ran
    unfold executeAction at made
    split at made
    · cases made
    · simp only [bind_ok, pure_ok] at made
      obtain ⟨_, _, rfl⟩ := made
      intro action listed
      rcases List.mem_append.mp listed with known | new
      · exact .inl known
      · rw [List.mem_singleton.mp new]
        exact .inr rfl

/-- What an executed action owes to the case and to the arm it was executed in. -/
structure Covered (d : Deployment) (case : RecoveryCase) (action : RecoveryAction) : Prop where
  key : ∀ arm, assignExperimentArm d.md5 case.caseId d.settings.experimentVariantPct = .ok arm →
    action.idempotencyKey ∈ menu d.settings case.caseId arm
  typed : action.actionType = action.idempotencyKey.actionType
  limit : action.idempotencyKey.retryCount < d.settings.maxRetryAttempts
  cost : action.costPaise = channelCost action.idempotencyKey.channel
  optedIn : ¬ (case.customerData.get "opted_out").truthy
  amount : 10000 ≤ case.amountPaise ∨ action.actionType = .escalateHuman

/-- The baseline retries over e-mail. -/
theorem baseline_channel {retryCount : ℤ} (scheduled : retryCount < 3) :
    (baselineDecide retryCount).channel = some .email := by
  unfold baselineDecide
  split
  · rename_i past
    simp only [retrySchedule, List.getElem?_eq_none_iff, List.length_cons, List.length_nil] at past
    omega
  · rfl

theorem executed_covered (counted : 0 ≤ case.retryCount)
    (ran : (graphRun d decision clock finish case approval).2 = .ok result)
    (executed : action ∈ result.actions) :
    Covered d case action := by
  obtain ⟨start, proposed, built, ranPropose, passed, made⟩ := executed_from ran executed
  have rebuilt := rebuilt_from built ranPropose
  have started := build_state_ok built
  have permitted := permitted_of_passed rebuilt (propose_ok ranPropose).2.2 passed made
  have key : action.idempotencyKey =
      { caseId := case.caseId, actionType := action.actionType, channel := action.channel,
        retryCount := case.retryCount } := by
    rw [made.idempotencyKey, idempotencyKey, rebuilt.caseId, rebuilt.retryCount]
  have cost : action.costPaise = channelCost action.channel := by
    obtain ⟨_, other, builtSame, ranOther, ranFinish⟩ := graph_run_finishes ran
    refine (finish_cost ranFinish action executed).resolve_left ?_
    rw [policy_check_actions, (rebuilt_from builtSame ranOther).actions]
    exact List.not_mem_nil
  have limit := permitted.retries
  refine ⟨fun arm assigned => ?_, by rw [key], by rw [key]; exact limit, by rw [key]; exact cost,
    permitted.optedIn, permitted.amount⟩
  rw [key]
  cases arm with
  | treatment =>
    refine mem_menu rfl (treatment_offers permitted.notStop permitted.nudge) counted ?_
    simp only [rounds]
    omega
  | control =>
    have control := started.caseId ▸ assigned
    have strategy := propose_control control ranPropose
    obtain ⟨retries, scheduled⟩ := baseline_moves strategy passed.examined passed.notStop
    rw [started.retryCount] at scheduled strategy
    have channel : action.channel = some .email := by
      rw [made.channel, executionChannel, strategy, Option.bind_some, baseline_channel scheduled]
      rfl
    have offered : (action.actionType, action.channel) ∈ offers .control := by
      rw [retries, channel]
      exact List.mem_singleton_self _
    refine mem_menu rfl offered counted ?_
    simp only [rounds]
    omega

/-! ## What is stored -/

/-- What an action owes to its case it owes to every later row of the case. -/
theorem covered_later {later : RecoveryCase} (covered : Covered d case action)
    (same : intakePart case = intakePart later) : Covered d later action := by
  have ofCase : case.caseId = later.caseId := congrArg (·.caseId) same
  have customer : case.customerData = later.customerData := congrArg (·.customerData) same
  have amount : case.amountPaise = later.amountPaise := congrArg (·.amountPaise) same
  exact ⟨ofCase ▸ covered.key, covered.typed, covered.limit, covered.cost, customer ▸ covered.optedIn,
    amount ▸ covered.amount⟩

/-- Every stored action is covered by the row of its case. -/
def FileCovered (d : Deployment) (file : CaseFile) : Prop :=
  ∀ action ∈ file.actions, ∃ case, file.case = some case ∧ Covered d case action

theorem file_covered_step {file file' : CaseFile} (held : FileCovered d file)
    (moved : FileStep d caseId file file') : FileCovered d file' := by
  intro action listed
  cases moved with
  | opened => cases listed
  | @worked _ stored x result now actions approvals opened ofCase intake counted _ ran inserted _ =>
    have written : (file.worked now x.rows.case result actions approvals).case =
        some (updateCase now x.rows.case result stored) := by rw [CaseFile.worked, opened]; rfl
    refine ⟨_, written, ?_⟩
    rcases mem_insert_actions inserted listed with known | ⟨made, executed, rfl⟩
    · obtain ⟨case, same, covered⟩ := held action known
      cases opened.symm.trans same
      exact covered_later covered (intake_part_update ..).symm
    · have covered := covered_later (executed_covered counted ran executed) intake
      have kept : intakePart stored = intakePart (updateCase now x.rows.case result stored) :=
        (intake_part_update ..).symm
      obtain ⟨key, typed, limit, cost, optedIn, amount⟩ := covered_later covered kept
      exact ⟨key, typed, limit, cost, optedIn, amount⟩
  | @failed _ stored now opened =>
    obtain ⟨case, same, covered⟩ := held action listed
    cases opened.symm.trans same
    exact ⟨{ stored with status := .failed, updatedAt := some now }, by rw [CaseFile.failed, opened]; rfl,
      covered_later covered rfl⟩
  | decided => exact held action listed

theorem files_covered (ran : run (step d) {} es = some s) (caseId : String) :
    FileCovered d (fileOf caseId s.db) :=
  files_invariant (P := fun _ file => FileCovered d file) (fun _ _ listed => by cases listed)
    (fun _ _ _ => file_covered_step) ran caseId

/-- The keys of a case's actions are on the menu, each of them once. -/
theorem keys_on_menu (ran : run (step d) {} es = some s) {arm : ExperimentArm}
    (assigned : assignExperimentArm d.md5 caseId d.settings.experimentVariantPct = .ok arm) :
    ((fileOf caseId s.db).actions.map (·.idempotencyKey)).Nodup ∧
      ∀ action ∈ (fileOf caseId s.db).actions, action.idempotencyKey ∈ menu d.settings caseId arm ∧
        action.costPaise = channelCost action.idempotencyKey.channel := by
  constructor
  · exact (idempotency_keys_unique ran).sublist (List.filter_sublist.map _)
  · intro action listed
    obtain ⟨case, found, covered⟩ := files_covered ran caseId action listed
    have ofCase : case.caseId = caseId := Keyed.find_key found
    subst ofCase
    exact ⟨covered.key arm assigned, covered.cost⟩

/-- What the actions of an arm cost for each retry count, every channel once with every action
type that may use it. -/
def roundCost : ExperimentArm → ℤ
  | .control => 0
  | .treatment => 375

theorem round_cost (arm : ExperimentArm) :
    ((offers arm).map fun offer => channelCost offer.2).sum = roundCost arm := by
  cases arm <;> rfl

theorem menu_cost (cfg : Settings) (caseId : String) (arm : ExperimentArm) :
    ((menu cfg caseId arm).map fun key => channelCost key.channel).sum = rounds cfg arm * roundCost arm := by
  rw [← round_cost]
  exact Menu.sum_rounds (offers arm) (offeredKey caseId) _ (fun offer => channelCost offer.2) fun _ _ => rfl

theorem channel_cost_nonneg (channel : Option RecoveryChannel) : 0 ≤ channelCost channel := by
  rcases channel with _ | channel
  · decide
  · cases channel <;> decide

/-- In every reached state the actions of a case have keys on the menu of its arm, each of them
once, and cost what the channel of the key costs.  So a control case has at most three actions, and
they cost nothing; a treatment case has at most 23 actions for each retry count below the limit, and
they cost at most 375 paise. -/
theorem spend_bounded (ran : run (step d) {} es = some s) {arm : ExperimentArm}
    (assigned : assignExperimentArm d.md5 caseId d.settings.experimentVariantPct = .ok arm) :
    ((fileOf caseId s.db).actions.map (·.idempotencyKey)).Nodup ∧
      (∀ action ∈ (fileOf caseId s.db).actions, action.idempotencyKey ∈ menu d.settings caseId arm ∧
        action.costPaise = channelCost action.idempotencyKey.channel) ∧
      (fileOf caseId s.db).actions.length ≤ rounds d.settings arm * (offers arm).length ∧
      ((fileOf caseId s.db).actions.map (·.costPaise)).sum ≤ rounds d.settings arm * roundCost arm := by
  obtain ⟨unique, onMenu⟩ := keys_on_menu ran assigned
  have listed := fun action member => (onMenu action member).1
  refine ⟨unique, onMenu, ?_, ?_⟩
  · have counted := Menu.length_le_menu unique listed
    rwa [menu, Menu.length_rounds] at counted
  · have priced : (fileOf caseId s.db).actions.map (·.costPaise) =
        (fileOf caseId s.db).actions.map fun action => channelCost action.idempotencyKey.channel :=
      List.map_congr_left fun action member => (onMenu action member).2
    rw [priced, ← menu_cost]
    exact Menu.sum_le_menu unique listed fun key _ => channel_cost_nonneg key.channel

/-- A treatment case that is nudged by a short message. -/
def nudgedRun : List Event :=
  sampleIntake 0 "00000007" 250000 ++ [.request 0 (.push .delivered)] ++
    sampleProcess 0 "nudge_email" 1788501600000000 "action-1"

theorem spend_bounded_nudged : ∃ s, run (step sampleDeployment) {} nudgedRun = some s ∧
    ((fileOf "REC-00000007" s.db).actions.map (·.costPaise)).sum = 25 ∧
      (∀ action ∈ (fileOf "REC-00000007" s.db).actions,
        action.idempotencyKey ∈ menu sampleDeployment.settings "REC-00000007" .treatment) ∧
      (fileOf "REC-00000007" s.db).actions.length ≤ 3 * 23 ∧
      ((fileOf "REC-00000007" s.db).actions.map (·.costPaise)).sum ≤ 3 * 375 := by
  obtain ⟨s, ran, cost⟩ : ∃ s, run (step sampleDeployment) {} nudgedRun = some s ∧
      ((fileOf "REC-00000007" s.db).actions.map (·.costPaise)).sum = 25 := ⟨_, rfl, rfl⟩
  have treatment : assignExperimentArm sampleDeployment.md5 "REC-00000007"
      sampleDeployment.settings.experimentVariantPct = .ok .treatment := rfl
  obtain ⟨_, onMenu, few, bounded⟩ := spend_bounded ran treatment
  exact ⟨s, ran, cost, fun action listed => (onMenu action listed).1, few, bounded⟩

/-! ## Requests for approval -/

/-- What a request for approval owes to the case it is made for. -/
structure Owed (cfg : Settings) (case : RecoveryCase) (row : RecoveryApproval) : Prop where
  high : cfg.highValueThreshold < case.amountPaise
  amount : row.amountPaise = case.amountPaise
  notStop : row.requestedAction ≠ .stop
  optedIn : ¬ (case.customerData.get "opted_out").truthy

theorem requested_owed {record : ApprovalRecord}
    (approved : ∀ row, approval = some row → row.status = .approved)
    (ran : (graphRun d decision clock finish case approval).2 = .ok result)
    (requested : result.approvalRecord = some (.requested record)) :
    Owed d.settings case (pendingApproval caseId record) := by
  have pending : result.approvalStatus = some .pending := by
    cases run_course ran approved with
    | pending _ pending => exact pending
    | stopped _ unrequested | executed _ _ unrequested => exact absurd requested (unrequested record)
  obtain ⟨start, proposed, made, built, ranPropose, request⟩ := pending_from ran approved pending
  have rebuilt := rebuilt_from built ranPropose
  cases request.approvalRecord.symm.trans requested
  have notStop := requested_not_stop request
  refine ⟨?_, request.amountPaise, notStop, fun opted => ?_⟩
  · have needed := request.needed
    simp only [PolicyEngine.needsApproval, rebuilt.amount, Bool.and_eq_true, decide_eq_true_eq] at needed
    exact needed.1.1
  · have stops := request.allowed.optedIn (by rwa [rebuilt.customer, get_stored (by decide)])
    exact notStop (Option.some.inj (request.requestedAction.symm.trans stops))

theorem owed_later {cfg : Settings} {later : RecoveryCase} {row : RecoveryApproval} (owed : Owed cfg case row)
    (same : intakePart case = intakePart later) : Owed cfg later row := by
  have customer : case.customerData = later.customerData := congrArg (·.customerData) same
  have amount : case.amountPaise = later.amountPaise := congrArg (·.amountPaise) same
  exact ⟨amount ▸ owed.high, amount ▸ owed.amount, owed.notStop, customer ▸ owed.optedIn⟩

/-- Every stored request is owed by the row of its case. -/
def FileOwed (d : Deployment) (file : CaseFile) : Prop :=
  ∀ row ∈ file.approvals, ∃ case, file.case = some case ∧ Owed d.settings case row

theorem file_owed_step {file file' : CaseFile} (held : FileOwed d file) (moved : FileStep d caseId file file') :
    FileOwed d file' := by
  intro row listed
  cases moved with
  | opened => cases listed
  | @worked _ stored x result now actions approvals opened _ intake _ approved ran _ requests =>
    refine ⟨updateCase now x.rows.case result stored, by rw [CaseFile.worked, opened]; rfl, ?_⟩
    have kept : intakePart stored = intakePart (updateCase now x.rows.case result stored) :=
      (intake_part_update ..).symm
    have earlier : ∀ row ∈ file.approvals, Owed d.settings stored row := by
      intro row listed
      obtain ⟨case, same, owed⟩ := held row listed
      cases opened.symm.trans same
      exact owed
    rcases requests with same | ⟨record, requested, grown⟩
    · exact owed_later (earlier row (same ▸ listed)) kept
    · rw [CaseFile.worked, grown] at listed
      rcases List.mem_append.mp listed with known | new
      · exact owed_later (earlier row known) kept
      · rw [List.mem_singleton.mp new]
        exact owed_later (owed_later (requested_owed approved ran requested) intake) kept
  | @failed _ stored now opened =>
    obtain ⟨case, same, owed⟩ := held row listed
    cases opened.symm.trans same
    exact ⟨{ stored with status := .failed, updatedAt := some now }, by rw [CaseFile.failed, opened]; rfl,
      owed_later owed rfl⟩
  | decided =>
    rcases Keyed.mem_modify.mp listed with ⟨old, known, _, rfl⟩ | ⟨known, _⟩
    · obtain ⟨case, same, high, amount, notStop, optedIn⟩ := held old known
      exact ⟨case, same, high, amount, notStop, optedIn⟩
    · exact held row known

theorem files_owed (ran : run (step d) {} es = some s) (caseId : String) : FileOwed d (fileOf caseId s.db) :=
  files_invariant (P := fun _ file => FileOwed d file) (fun _ _ listed => by cases listed)
    (fun _ _ _ => file_owed_step) ran caseId

/-- In every reached state the stored actions and requests keep to the policies by the row of their
case: nothing for a customer who opted out, no action from the retry limit on, none but escalations
below 100 rupees, and requests only above the threshold and for the amount of the case. -/
theorem stored_permitted (ran : run (step d) {} es = some s) :
    (∀ action ∈ s.db.recoveryActions, ∃ case ∈ s.db.recoveryCases, case.caseId = action.caseId ∧
      ¬ (case.customerData.get "opted_out").truthy ∧
      action.idempotencyKey.retryCount < d.settings.maxRetryAttempts ∧
      (10000 ≤ case.amountPaise ∨ action.actionType = .escalateHuman)) ∧
    ∀ row ∈ s.db.recoveryApprovals, ∃ case ∈ s.db.recoveryCases, case.caseId = row.caseId ∧
      Owed d.settings case row := by
  constructor
  · intro action stored
    have listed : action ∈ (fileOf action.caseId s.db).actions := List.mem_filter.mpr ⟨stored, by simp⟩
    obtain ⟨case, found, covered⟩ := files_covered ran action.caseId action listed
    exact ⟨case, Keyed.find_mem found, Keyed.find_key found, covered.optedIn, covered.limit, covered.amount⟩
  · intro row stored
    have listed : row ∈ (fileOf row.caseId s.db).approvals := List.mem_filter.mpr ⟨stored, by simp⟩
    obtain ⟨case, found, owed⟩ := files_owed ran row.caseId row listed
    exact ⟨case, Keyed.find_mem found, Keyed.find_key found, owed⟩

theorem stored_permitted_nudged : ∃ s, run (step sampleDeployment) {} nudgedRun = some s ∧
    s.db.recoveryActions.length = 1 ∧
    (∀ action ∈ s.db.recoveryActions, ∃ case ∈ s.db.recoveryCases, case.caseId = action.caseId ∧
      ¬ (case.customerData.get "opted_out").truthy ∧ action.idempotencyKey.retryCount < 3 ∧
      (10000 ≤ case.amountPaise ∨ action.actionType = .escalateHuman)) ∧
    ∀ row ∈ s.db.recoveryApprovals, ∃ case ∈ s.db.recoveryCases, case.caseId = row.caseId ∧
      Owed sampleDeployment.settings case row := by
  obtain ⟨s, ran, one⟩ : ∃ s, run (step sampleDeployment) {} nudgedRun = some s ∧
      s.db.recoveryActions.length = 1 := ⟨_, rfl, rfl⟩
  exact ⟨s, ran, one, stored_permitted ran⟩

end RevenueGuard.SpendProofs
