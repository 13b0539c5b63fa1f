import Mathlib.Data.Set.Basic
import RevenueGuard.GraphProofs

/-!
The policies as an operator reads them, and what the graph makes of them.

1. `executed_permitted`: an executed action is the proposed one, and the stored
   row permits it.
2. `suppresses_contact_iff`: under an open circuit a run stays away from the
   customer and the gateway, unless the baseline has a retry left to make.
-/

namespace RevenueGuard.PolicyProofs

open Library Library.Raises GraphProofs

variable {d : Deployment} {cfg : Settings} {decision : DecisionInputs} {clock : PolicyClock}
  {finish : FinishInputs} {case : RecoveryCase} {approval : Option RecoveryApproval}
  {s proposed result : RecoveryState} {action : RecoveryAction}

/-! ## The policies -/

/-- The hours of the day in which customers are left alone: from `start` to
`stop`, through midnight where `stop` comes first. -/
def quietHours (start stop : ℤ) : Set ℤ :=
  {hour | if start ≤ stop then start ≤ hour ∧ hour < stop else start ≤ hour ∨ hour < stop}

/-- What the policies ask of an action for a stored case. -/
structure Permitted (cfg : Settings) (clock : PolicyClock) (case : RecoveryCase)
    (actionType : ActionType) (channel : Option RecoveryChannel) : Prop where
  notStop : actionType ≠ .stop
  optedIn : ¬ (case.customerData.get "opted_out").truthy
  retries : case.retryCount < cfg.maxRetryAttempts
  amount : 10000 ≤ case.amountPaise ∨ actionType = .escalateHuman
  cooldown : actionType ∈ PolicyEngine.contactOrRetryActions →
    ∀ lastRetry, case.lastRetryAt = some lastRetry →
      lastRetry + Instant.hours cfg.cooldownHours ≤ clock.cooldown
  quiet : actionType ∈ PolicyEngine.customerContactActions →
    Instant.kolkataHour clock.quietHours ∉ quietHours cfg.quietHoursStart cfg.quietHoursEnd
  nudge : NudgeReady case.customerData actionType channel

theorem in_quiet_hours_iff (hour : ℤ) :
    PolicyEngine.inQuietHours cfg hour = true ↔ hour ∈ quietHours cfg.quietHoursStart cfg.quietHoursEnd := by
  unfold PolicyEngine.inQuietHours quietHours
  rw [Set.mem_ofPred_eq]
  split
  · rename_i wraps
    rw [if_neg (by omega), Bool.or_eq_true, decide_eq_true_eq, decide_eq_true_eq]
  · rw [if_pos (by omega), Bool.and_eq_true, decide_eq_true_eq, decide_eq_true_eq]

theorem cooldown_active_iff (now : ℤ) (lastRetryAt : Option ℤ) :
    PolicyEngine.cooldownActive cfg now lastRetryAt = false ↔
      ∀ lastRetry, lastRetryAt = some lastRetry →
        lastRetry + Instant.hours cfg.cooldownHours ≤ now := by
  cases lastRetryAt with
  | none => simp [PolicyEngine.cooldownActive]
  | some lastRetry =>
    simp only [PolicyEngine.cooldownActive, decide_eq_false_iff_not, Option.some.injEq, forall_eq']
    omega

/-- The address book that `_build_state` hands on has every address of the
stored customer. -/
theorem get_stored {customer : Dict} {key : String} (address : key ≠ contextKey) :
    (customer.erase contextKey).get key = customer.get key := Dict.get_erase address

theorem nudge_ready_stored {customer : Dict} {actionType : ActionType}
    {channel : Option RecoveryChannel}
    (ready : NudgeReady (customer.erase contextKey) actionType channel) :
    NudgeReady customer actionType channel where
  email chosen := get_stored (by decide : "email" ≠ contextKey) ▸ ready.email chosen
  sms chosen := get_stored (by decide : "phone" ≠ contextKey) ▸ ready.sms chosen
  whatsapp chosen := get_stored (by decide : "phone" ≠ contextKey) ▸ ready.whatsapp chosen

/-- On a state rebuilt from a case, `check_all` allows an action other than
`STOP` exactly when the policies permit it for the stored case. -/
theorem allowed_iff_permitted {actionType : ActionType} {channel : Option RecoveryChannel}
    (rebuilt : RebuiltFrom case approval proposed) (examined : proposed.action = some actionType)
    (notStop : actionType ≠ .stop) (ready : NudgeReady case.customerData actionType channel) :
    Allowed d.settings clock proposed ↔ Permitted d.settings clock case actionType channel := by
  have moving := moves_of_examined examined notStop
  have covered (actions : List ActionType) :
      proposed.action ∈ actions.map some ↔ actionType ∈ actions := by
    rw [examined]
    exact List.mem_map_of_injective (Option.some_injective _)
  constructor
  · rintro ⟨optedIn, retries, amount, cooldown, quiet⟩
    rw [rebuilt.customer, get_stored (by decide)] at optedIn
    rw [rebuilt.retryCount] at retries
    rw [rebuilt.amount] at amount
    rw [rebuilt.lastRetryAt, covered, cooldown_active_iff] at cooldown
    rw [covered, ← Bool.not_eq_true, in_quiet_hours_iff] at quiet
    refine ⟨notStop, fun opted => moving (optedIn opted), ?_, ?_, cooldown, quiet, ready⟩
    · by_contra reached
      exact moving (retries (by omega))
    · by_cases enough : 10000 ≤ case.amountPaise
      · exact .inl enough
      · rcases amount (by omega) with stop | escalate
        · exact absurd stop moving
        · exact .inr (Option.some.inj (examined.symm.trans escalate))
  · rintro ⟨_, optedIn, retries, amount, cooldown, quiet, _⟩
    refine ⟨fun opted => ?_, fun reached => ?_, fun small => ?_, ?_, ?_⟩
    · rw [rebuilt.customer, get_stored (by decide)] at opted
      exact absurd opted optedIn
    · rw [rebuilt.retryCount] at reached
      omega
    · rw [rebuilt.amount] at small
      exact .inr (by rw [examined, amount.resolve_left (by omega)])
    · rw [covered, rebuilt.lastRetryAt, cooldown_active_iff]
      exact cooldown
    · rw [covered, ← Bool.not_eq_true, in_quiet_hours_iff]
      exact quiet

/-- An action passes the gate exactly when the policies permit it for the stored
case and it has the approval it needs, whenever a node asks for one. -/
theorem passed_iff_permitted {actionType : ActionType} {channel : Option RecoveryChannel}
    (rebuilt : RebuiltFrom case approval proposed) (examined : proposed.action = some actionType)
    (notStop : actionType ≠ .stop) (ready : NudgeReady case.customerData actionType channel) :
    Passed d clock finish proposed actionType ↔ Permitted d.settings clock case actionType channel ∧
      ∀ now ∈ [clock.approval, finish.execution.clock.approval],
        case.amountPaise ≤ d.settings.highValueThreshold ∨ ApprovedAt now approval := by
  have moving := moves_of_examined examined notStop
  have permitted : Allowed d.settings clock proposed ↔ Permitted d.settings clock case actionType channel :=
    allowed_iff_permitted rebuilt examined notStop ready
  have unneeded (now : ℤ) : PolicyEngine.needsApproval d.settings now proposed = false ↔
      case.amountPaise ≤ d.settings.highValueThreshold ∨ ApprovedAt now approval :=
    needs_approval_rebuilt rebuilt moving now
  simp only [List.mem_cons, List.not_mem_nil, or_false, forall_eq_or_imp, forall_eq, ← unneeded,
    ← permitted]
  constructor
  · intro passed
    exact ⟨passed.allowed, passed.approvedAtCheck, passed.approvedAtExecution⟩
  · rintro ⟨allowed, approvedAtCheck, approvedAtExecution⟩
    exact ⟨examined, notStop, allowed, approvedAtCheck, approvedAtExecution⟩

/-- A nudge goes over the channel of its strategy. -/
theorem nudge_ready_executed (made : ActionOf finish.execution proposed action)
    (ready : NudgeReady case.customerData action.actionType (proposed.strategy.bind (·.channel))) :
    NudgeReady case.customerData action.actionType action.channel := by
  have strategyFirst : ∀ channel, proposed.strategy.bind (·.channel) = some channel →
      action.channel = some channel := fun channel chosen => by
    rw [made.channel, executionChannel, chosen]
    rfl
  exact
    { email := fun nudge => (ready.email nudge).imp_left (strategyFirst _)
      sms := fun nudge => (ready.sms nudge).imp_left (strategyFirst _)
      whatsapp := fun nudge => (ready.whatsapp nudge).imp_left (strategyFirst _) }

theorem nudge_ready_proposed {actionType : ActionType} (rebuilt : RebuiltFrom case approval proposed)
    (fits : ChannelFits proposed) (examined : proposed.action = some actionType) :
    NudgeReady case.customerData actionType (proposed.strategy.bind (·.channel)) := by
  simp only [RecoveryState.action, Option.map_eq_some_iff] at examined
  obtain ⟨strategy, held, rfl⟩ := examined
  rw [held]
  exact nudge_ready_stored (rebuilt.customer ▸ fits strategy held)

/-- What passes the gate is permitted for the stored case. -/
theorem permitted_of_passed (rebuilt : RebuiltFrom case approval proposed) (fits : ChannelFits proposed)
    (passed : Passed d clock finish proposed action.actionType)
    (made : ActionOf finish.execution proposed action) :
    Permitted d.settings clock case action.actionType action.channel := by
  have ready := nudge_ready_executed made (nudge_ready_proposed rebuilt fits passed.examined)
  exact (allowed_iff_permitted rebuilt passed.examined passed.notStop ready).mp passed.allowed

/-- Whatever a graph run executes is the action that `policy_check` examined,
and the policies permit it for the stored case. -/
theorem executed_permitted (ran : (graphRun d decision clock finish case approval).2 = .ok result)
    (executed : action ∈ result.actions) :
    (∃ s proposed, buildState case approval = .ok s ∧ propose d decision s = .ok proposed ∧
        proposed.action = some action.actionType) ∧
      Permitted d.settings clock case action.actionType action.channel := by
  obtain ⟨s, proposed, built, ranPropose, passed, made⟩ := executed_from ran executed
  obtain ⟨_, _, fits⟩ := propose_ok ranPropose
  exact ⟨⟨s, proposed, built, ranPropose, passed.examined⟩,
    permitted_of_passed (rebuilt_from built ranPropose) fits passed made⟩

/-- A treatment case that the language model wants to nudge, in the middle of
the day: the channel node moves the nudge from e-mail to the first eligible
channel. -/
theorem executed_permitted_nudge : ∃ action : RecoveryAction, action.actionType = .nudgeSms ∧
    Permitted sampleDeployment.settings (sampleClock 1788501600000000)
      (sampleCase "REC-00000007" 250000) action.actionType action.channel := by
  obtain ⟨result, ran, action, executed, typed⟩ : ∃ result,
      (graphRun sampleDeployment (sampleDecision .closed "nudge_email") (sampleClock 1788501600000000)
        (sampleFinish 1788501600000000 "action-1") (sampleCase "REC-00000007" 250000) none).2 =
          .ok result ∧
      ∃ action ∈ result.actions, action.actionType = .nudgeSms :=
    ⟨_, rfl, _, List.mem_singleton_self _, rfl⟩
  exact ⟨action, typed, (executed_permitted ran executed).2⟩

/-! ## An open circuit -/

/-- A run that asks for no payment link and executes no action that contacts the
customer or charges again. -/
def SuppressesContact (outcome : List PaymentLinkCall × Except String RecoveryState) : Prop :=
  outcome.1 = [] ∧ ∀ result, outcome.2 = .ok result → ∀ action ∈ result.actions,
    action.actionType ∉ PolicyEngine.contactOrRetryActions

/-- The baseline makes one of its scheduled retries for a control case: nothing
on its way to `execute_action` asks for the state of the circuit. -/
structure BaselineRetries (d : Deployment) (decision : DecisionInputs) (clock : PolicyClock)
    (finish : FinishInputs) (case : RecoveryCase) (approval : Option RecoveryApproval) : Prop where
  scored : ∃ triage, decision.score = .ok triage
  context : ∃ context, (case.customerData.getD contextKey (.obj [])).asDict = .ok context
  control : assignExperimentArm d.md5 case.caseId d.settings.experimentVariantPct = .ok .control
  scheduled : case.retryCount < 3
  permitted : Permitted d.settings clock case .smartRetry (some .email)
  approved : ∀ now ∈ [clock.approval, finish.execution.clock.approval],
    case.amountPaise ≤ d.settings.highValueThreshold ∨ ApprovedAt now approval
  inRange : finish.execution.clock.execute +
    Instant.seconds (baselineDecide case.retryCount).retryDelaySeconds ≤ Instant.latest

theorem baseline_delay (retryCount : ℤ) :
    0 ≤ (baselineDecide retryCount).retryDelaySeconds ∧
      (baselineDecide retryCount).retryDelaySeconds ≤ 86400 := by
  unfold baselineDecide
  split
  · exact ⟨by decide, by decide⟩
  · rename_i delay within
    have listed := List.mem_of_getElem? within
    simp only [retrySchedule, List.mem_cons, List.not_mem_nil, or_false] at listed
    rcases listed with rfl | rfl | rfl <;> simp

/-- A baseline retry is scheduled unless its instant falls off the calendar. -/
theorem execute_baseline_retry (now retryCount : ℤ) (link : Except String Json)
    (channel : Option RecoveryChannel) :
    (∃ output, execute now link .smartRetry (some (baselineDecide retryCount)) channel = .ok output) ↔
      now + Instant.seconds (baselineDecide retryCount).retryDelaySeconds ≤ Instant.latest := by
  obtain ⟨nonneg, bound⟩ := baseline_delay retryCount
  simp only [execute, Option.map_some, Option.getD_some, bind_pure_ok, max_eq_right nonneg,
    Instant.addSeconds_ok]
  constructor
  · rintro ⟨_, _, ⟨_, inRange, _⟩, _⟩
    exact inRange
  · intro inRange
    exact ⟨_, _, ⟨by omega, inRange, rfl⟩, rfl⟩

/-- A control case with a retry in front of it is charged again. -/
theorem baseline_retries_executes (retries : BaselineRetries d decision clock finish case approval) :
    ∃ result action, (graphRun d decision clock finish case approval).2 = .ok result ∧
      action ∈ result.actions ∧ action.actionType = .smartRetry := by
  obtain ⟨⟨triage, scored⟩, context, control, scheduled, permitted, approved, inRange⟩ := retries
  obtain ⟨s, built⟩ : ∃ s, buildState case approval = .ok s := build_state_returns_iff.mpr context
  have stored := build_state_ok built
  rw [← stored.caseId] at control
  obtain ⟨proposed, ranPropose⟩ := propose_control_runs (d := d) scored control
  have rebuilt := rebuilt_from built ranPropose
  have strategy : proposed.strategy = some (baselineDecide case.retryCount) :=
    stored.retryCount ▸ propose_control control ranPropose
  have examined : proposed.action = some .smartRetry := by
    simp only [RecoveryState.action, strategy, Option.map_some, baseline_decide_action, scheduled,
      ↓reduceIte]
  have passed : Passed d clock finish proposed .smartRetry :=
    (passed_iff_permitted rebuilt examined (by decide) permitted.nudge).mpr ⟨permitted, approved⟩
  obtain ⟨output, executed⟩ := (execute_baseline_retry finish.execution.clock.execute case.retryCount
    finish.execution.link (executionChannel proposed)).mpr inRange
  obtain ⟨result, action, ranFinish, actions, typed, _⟩ := finish_executes passed (strategy ▸ executed)
  refine ⟨result, action, ?_, by rw [actions]; simp, typed⟩
  rw [graph_run_eq built ranPropose]
  exact ranFinish

/-- Past the gate under an open circuit, an action that contacts the customer or
charges again is a baseline retry of a control case. -/
theorem baseline_retries_of_passed {snapshot : GatewayHealthSnapshot} {actionType : ActionType}
    (reading : decision.unifiedHealth = .ok snapshot) (opened : snapshot.state = .open)
    (built : buildState case approval = .ok s) (ran : propose d decision s = .ok proposed)
    (passed : Passed d clock finish proposed actionType)
    (contacts : actionType ∈ PolicyEngine.contactOrRetryActions) :
    assignExperimentArm d.md5 case.caseId d.settings.experimentVariantPct = .ok .control ∧
      actionType = .smartRetry ∧ case.retryCount < 3 ∧
      proposed.strategy = some (baselineDecide case.retryCount) := by
  have stored := build_state_ok built
  obtain ⟨_, arm, _, _, _, assigned, _⟩ := propose_cases ran
  cases arm with
  | treatment =>
    have deferred := propose_open assigned reading opened ran
    cases Option.some.inj (passed.examined.symm.trans deferred)
    exact absurd contacts (by decide)
  | control =>
    have strategy := stored.retryCount ▸ propose_control assigned ran
    obtain ⟨retry, scheduled⟩ := baseline_moves strategy passed.examined passed.notStop
    exact ⟨stored.caseId ▸ assigned, retry, scheduled, strategy⟩

/-- Under an open circuit a run stays away from the customer and the gateway
exactly when it is not one of the baseline's retries. -/
theorem suppresses_contact_iff {snapshot : GatewayHealthSnapshot}
    (reading : decision.unifiedHealth = .ok snapshot) (opened : snapshot.state = .open) :
    SuppressesContact (graphRun d decision clock finish case approval) ↔
      ¬ BaselineRetries d decision clock finish case approval := by
  constructor
  · rintro ⟨_, suppressed⟩ retries
    obtain ⟨result, action, ran, executed, typed⟩ := baseline_retries_executes retries
    exact suppressed result ran action executed (by rw [typed]; decide)
  · intro spared
    constructor
    · by_contra calls
      obtain ⟨call, called⟩ := List.exists_mem_of_ne_nil _ calls
      obtain ⟨s, proposed, built, ranPropose, passed, _⟩ := called_from called
      obtain ⟨_, retry, _⟩ := baseline_retries_of_passed reading opened built ranPropose passed (by decide)
      cases retry
    · intro result ran action executed contacts
      apply spared
      obtain ⟨s, proposed, built, ranPropose, passed, made⟩ := executed_from ran executed
      obtain ⟨control, retry, scheduled, strategy⟩ :=
        baseline_retries_of_passed reading opened built ranPropose passed contacts
      rw [retry] at passed
      have rebuilt := rebuilt_from built ranPropose
      obtain ⟨permitted, approved⟩ := (passed_iff_permitted rebuilt passed.examined passed.notStop
        (nudge_ready_of_not_nudge (by decide))).mp passed
      exact
        { scored := propose_scored ranPropose
          context := build_state_returns_iff.mp ⟨s, built⟩
          control, scheduled, permitted, approved
          inRange := (execute_baseline_retry _ _ finish.execution.link action.channel).mp
            ⟨_, strategy ▸ retry ▸ made.outcome⟩ }

/-- A treatment case under an open circuit is deferred. -/
theorem suppresses_contact_treatment : SuppressesContact
    (graphRun sampleDeployment (sampleDecision .open "payment_link") (sampleClock 1788501600000000)
      (sampleFinish 1788501600000000 "action-1") (sampleCase "REC-00000007" 250000) none) := by
  refine (suppresses_contact_iff rfl rfl).mpr fun retries => ?_
  cases retries.control

/-- A control case under an open circuit is charged again. -/
theorem open_circuit_charges_control : ¬ SuppressesContact
    (graphRun sampleDeployment (sampleDecision .open "payment_link") (sampleClock 1788501600000000)
      (sampleFinish 1788501600000000 "action-1") (sampleCase "REC-00000001" 250000) none) := by
  rintro ⟨_, suppressed⟩
  exact suppressed _ rfl _ (List.mem_singleton_self _) (by decide)

end RevenueGuard.PolicyProofs
