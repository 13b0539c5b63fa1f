import RevenueGuard.Library.Raises
import RevenueGuard.Worker

/-!
What each node of the recovery graph keeps and what it establishes, and what
follows for a whole run: an executed action was checked by `policy_check` in
the form in which it is executed.
-/

namespace RevenueGuard.GraphProofs

open Library Library.Raises

variable {d : Deployment} {cfg : Settings} {inputs : DecisionInputs} {clock : PolicyClock}
  {finish : FinishInputs} {case : RecoveryCase} {approval : Option RecoveryApproval}
  {s s' proposed decided result : RecoveryState}

/-! ## What the nodes keep -/

/-- The actions that the audit trail refers to. -/
def auditedActions (s : RecoveryState) : List String := s.auditTrail.filterMap (·.actionId)

theorem append_audit_none (s : RecoveryState) (agentName step : String) (guardrails : List String) :
    (appendAudit s agentName step guardrails).filterMap (·.actionId) = auditedActions s := by
  simp [appendAudit, auditedActions]

theorem append_audit_some (s : RecoveryState) (agentName step : String) (guardrails : List String)
    (actionId : String) :
    (appendAudit s agentName step guardrails (some actionId)).filterMap (·.actionId) =
      auditedActions s ++ [actionId] := by
  simp [appendAudit, auditedActions]

/-- The part of the state that no node before `policy_check` writes. -/
structure Keeps (s s' : RecoveryState) : Prop where
  caseId : s'.caseId = s.caseId
  caseData : s'.caseData = s.caseData
  actions : s'.actions = s.actions
  needsApproval : s'.needsApproval = s.needsApproval
  approvalStatus : s'.approvalStatus = s.approvalStatus
  approvalRecord : s'.approvalRecord = s.approvalRecord
  audited : auditedActions s' = auditedActions s

theorem Keeps.refl (s : RecoveryState) : Keeps s s := ⟨rfl, rfl, rfl, rfl, rfl, rfl, rfl⟩

theorem Keeps.trans {t : RecoveryState} (first : Keeps s s') (second : Keeps s' t) : Keeps s t where
  caseId := second.caseId.trans first.caseId
  caseData := second.caseData.trans first.caseData
  actions := second.actions.trans first.actions
  needsApproval := second.needsApproval.trans first.needsApproval
  approvalStatus := second.approvalStatus.trans first.approvalStatus
  approvalRecord := second.approvalRecord.trans first.approvalRecord
  audited := second.audited.trans first.audited

theorem enrich_with_ml_ok : enrichWithMl inputs s = .ok s' ↔ ∃ triage, inputs.score = .ok triage ∧
    s' = { s with triage := some triage, auditTrail := appendAudit s "triage_model" "enrich_ml" } :=
  bind_pure_ok

theorem assign_experiment_ok : assignExperiment d.md5 cfg s = .ok s' ↔
    ∃ arm, assignExperimentArm d.md5 s.caseId cfg.experimentVariantPct = .ok arm ∧
      s' = { s with
        experimentArm := some arm
        auditTrail := appendAudit s "experiment_router" "assign_experiment" } :=
  bind_pure_ok

theorem agent_diagnose_ok : agentDiagnose inputs s = .ok s' ↔
    ∃ reply diagnosis, inputs.diagnosisReply = .ok reply ∧ DiagnosisResult.validate reply = .ok diagnosis ∧
      s' = { s with
        diagnosis := some diagnosis
        auditTrail := appendAudit s "diagnosis_agent" "agent_diagnose" } := by
  simp only [agentDiagnose, bind_ok, pure_ok, exists_and_left]
  exact exists_congr fun _ => and_congr Iff.rfl (exists_congr fun _ => and_congr Iff.rfl eq_comm)

theorem agent_strategize_ok : agentStrategize cfg inputs s = .ok s' ↔
    ∃ decision, strategyDecision cfg inputs s = .ok decision ∧
      s' = { s with
        strategy := some decision
        auditTrail := appendAudit s "strategy_agent" "agent_strategize" } :=
  bind_pure_ok

theorem enrich_with_ml_keeps (ran : enrichWithMl inputs s = .ok s') : Keeps s s' := by
  obtain ⟨_, _, rfl⟩ := enrich_with_ml_ok.mp ran
  exact ⟨rfl, rfl, rfl, rfl, rfl, rfl, append_audit_none ..⟩

theorem enrich_with_health_keeps : Keeps s (enrichWithHealth inputs s) :=
  ⟨rfl, rfl, rfl, rfl, rfl, rfl, append_audit_none ..⟩

theorem assign_experiment_keeps (ran : assignExperiment d.md5 cfg s = .ok s') : Keeps s s' := by
  obtain ⟨_, _, rfl⟩ := assign_experiment_ok.mp ran
  exact ⟨rfl, rfl, rfl, rfl, rfl, rfl, append_audit_none ..⟩

theorem agent_diagnose_keeps (ran : agentDiagnose inputs s = .ok s') :
    Keeps s s' ∧ s'.gatewayHealth = s.gatewayHealth := by
  obtain ⟨_, _, _, _, rfl⟩ := agent_diagnose_ok.mp ran
  exact ⟨⟨rfl, rfl, rfl, rfl, rfl, rfl, append_audit_none ..⟩, rfl⟩

theorem agent_strategize_keeps (ran : agentStrategize cfg inputs s = .ok s') :
    Keeps s s' ∧ s'.gatewayHealth = s.gatewayHealth := by
  obtain ⟨_, _, rfl⟩ := agent_strategize_ok.mp ran
  exact ⟨⟨rfl, rfl, rfl, rfl, rfl, rfl, append_audit_none ..⟩, rfl⟩

/-! ## Channel selection -/

/-- The address a nudge needs, and the channel it goes over. -/
structure NudgeReady (customer : Dict) (actionType : ActionType) (channel : Option RecoveryChannel) :
    Prop where
  email : actionType = .nudgeEmail → channel = some .email ∧ (customer.get "email").truthy
  sms : actionType = .nudgeSms → channel = some .sms ∧ (customer.get "phone").truthy
  whatsapp : actionType = .nudgeWhatsapp → channel = some .whatsapp ∧ (customer.get "phone").truthy

theorem nudge_ready_of_not_nudge {customer : Dict} {actionType : ActionType}
    {channel : Option RecoveryChannel} (other : actionType ∉ nudgeActions) :
    NudgeReady customer actionType channel := by
  simp only [nudgeActions, List.mem_cons, List.not_mem_nil, or_false, not_or] at other
  exact ⟨fun same => absurd same other.1, fun same => absurd same other.2.1,
    fun same => absurd same other.2.2⟩

theorem best_channel_mem (expectation : RecoveryChannel → ℚ) (best : RecoveryChannel)
    (rest : List RecoveryChannel) : bestChannel expectation best rest ∈ best :: rest := by
  induction rest generalizing best with
  | nil => simp [bestChannel]
  | cons channel rest ih =>
    simp only [bestChannel]
    split
    · exact List.mem_cons_of_mem _ (ih channel)
    · rcases List.mem_cons.mp (ih best) with same | member
      · rw [same]; exact List.mem_cons_self
      · exact List.mem_cons_of_mem _ (List.mem_cons_of_mem _ member)

theorem bandit_select_mem {expectation : RecoveryChannel → ℚ} {eligible : List RecoveryChannel}
    {channel : RecoveryChannel} (chosen : banditSelect expectation eligible = .ok channel) :
    channel ∈ eligible := by
  cases eligible with
  | nil => cases chosen
  | cons first rest =>
    cases chosen
    exact best_channel_mem expectation first rest

/-- A channel is eligible only for a customer with the address it needs. -/
theorem eligible_channel_address {customer : Dict} {channel : RecoveryChannel}
    (eligible : channel ∈ eligibleChannels customer) :
    (channel = .email → (customer.get "email").truthy) ∧
      (channel = .sms ∨ channel = .whatsapp → (customer.get "phone").truthy) := by
  unfold eligibleChannels at eligible
  split at eligible
  · cases eligible
  · simp only [List.mem_append] at eligible
    rcases eligible with (sms | email) | whatsapp
    · split at sms
      · cases List.mem_singleton.mp sms
        exact ⟨nofun, fun _ => ‹_›⟩
      · cases sms
    · split at email
      · cases List.mem_singleton.mp email
        exact ⟨fun _ => ‹_›, nofun⟩
      · cases email
    · split at whatsapp
      · rename_i both
        cases List.mem_singleton.mp whatsapp
        exact ⟨nofun, fun _ => (Bool.and_eq_true_iff.mp both).1⟩
      · cases whatsapp

/-- An eligible channel and the action type chosen by it fit together. -/
theorem nudge_ready_of_eligible {customer : Dict} {channel : RecoveryChannel} {actionType : ActionType}
    (eligible : channel ∈ eligibleChannels customer) (mapped : actionByChannel channel = .ok actionType) :
    NudgeReady customer actionType (some channel) := by
  obtain ⟨email, phone⟩ := eligible_channel_address eligible
  cases channel <;> cases mapped
  · exact ⟨nofun, fun _ => ⟨rfl, phone (.inl rfl)⟩, nofun⟩
  · exact ⟨fun _ => ⟨rfl, email rfl⟩, nofun, nofun⟩
  · exact ⟨nofun, nofun, fun _ => ⟨rfl, phone (.inr rfl)⟩⟩

/-- The strategy a state holds, if any, is fit to be executed as far as its
channel goes. -/
def ChannelFits (s : RecoveryState) : Prop :=
  ∀ strategy, s.strategy = some strategy →
    NudgeReady s.caseData.customer strategy.actionType strategy.channel

/-- What `select_channel` makes of a state. -/
inductive Selected (inputs : DecisionInputs) (s : RecoveryState) : RecoveryState → Prop where
  | absent : s.strategy = none → Selected inputs s { s with selectedChannel := none }
  | other {strategy : StrategyDecision} : s.strategy = some strategy → strategy.actionType ∉ nudgeActions →
      Selected inputs s { s with selectedChannel := strategy.channel }
  | stopped {strategy stop : StrategyDecision} : s.strategy = some strategy →
      strategy.actionType ∈ nudgeActions → eligibleChannels s.caseData.customer = [] →
      stop.actionType = .stop → stop.channel = none → stop.retryDelaySeconds = strategy.retryDelaySeconds →
      Selected inputs s { s with
        strategy := some stop
        selectedChannel := none
        auditTrail := appendAudit s "channel_bandit" "select_channel" }
  | nudged {strategy : StrategyDecision} {segment : String} {channel : RecoveryChannel}
      {actionType : ActionType} : s.strategy = some strategy → strategy.actionType ∈ nudgeActions →
      segmentCustomer s.caseData.customer = .ok segment →
      banditSelect (inputs.expectations segment) (eligibleChannels s.caseData.customer) = .ok channel →
      actionByChannel channel = .ok actionType →
      Selected inputs s { s with
        strategy := some { strategy with channel := some channel, actionType }
        selectedChannel := some channel
        auditTrail := appendAudit s "channel_bandit" "select_channel" }

theorem select_channel_cases (ran : selectChannel inputs s = .ok s') : Selected inputs s s' := by
  unfold selectChannel at ran
  split at ran
  · rename_i absent
    cases ran
    exact .absent absent
  · rename_i strategy held
    split at ran
    · rename_i other
      cases ran
      exact .other held other
    · rename_i nudge
      split at ran
      · rename_i nowhere
        cases ran
        exact .stopped held (not_not.mp nudge) nowhere rfl rfl rfl
      · simp only [bind_ok, pure_ok] at ran
        obtain ⟨segment, segmented, channel, chosen, actionType, mapped, rfl⟩ := ran
        exact .nudged held (not_not.mp nudge) segmented chosen mapped

theorem mapped_nudge {channel : RecoveryChannel} {actionType : ActionType}
    (mapped : actionByChannel channel = .ok actionType) : actionType ∈ nudgeActions := by
  cases channel <;> cases mapped <;> decide

/-- `select_channel` leaves a nudge only with an eligible channel of its own. -/
theorem select_channel_ok (ran : selectChannel inputs s = .ok s') :
    Keeps s s' ∧ s'.gatewayHealth = s.gatewayHealth ∧ s'.experimentArm = s.experimentArm ∧
      ChannelFits s' := by
  cases select_channel_cases ran with
  | absent none =>
    exact ⟨⟨rfl, rfl, rfl, rfl, rfl, rfl, rfl⟩, rfl, rfl, fun _ held => by simp [none] at held⟩
  | other held other =>
    refine ⟨⟨rfl, rfl, rfl, rfl, rfl, rfl, rfl⟩, rfl, rfl, fun kept same => ?_⟩
    cases held.symm.trans same
    exact nudge_ready_of_not_nudge other
  | stopped _ _ _ stop =>
    refine ⟨⟨rfl, rfl, rfl, rfl, rfl, rfl, append_audit_none ..⟩, rfl, rfl, fun kept same => ?_⟩
    cases same
    exact nudge_ready_of_not_nudge (by simp [stop, nudgeActions])
  | nudged _ _ _ chosen mapped =>
    refine ⟨⟨rfl, rfl, rfl, rfl, rfl, rfl, append_audit_none ..⟩, rfl, rfl, fun kept same => ?_⟩
    cases same
    exact nudge_ready_of_eligible (bandit_select_mem chosen) mapped

theorem select_channel_strategy {strategy : StrategyDecision} (held : s.strategy = some strategy)
    (ran : selectChannel inputs s = .ok s') : ∃ selected, s'.strategy = some selected := by
  cases select_channel_cases ran with
  | absent none => cases held.symm.trans none
  | other => exact ⟨strategy, held⟩
  | stopped => exact ⟨_, rfl⟩
  | nudged => exact ⟨_, rfl⟩

/-! ## The proposed strategy -/

/-- The baseline retries or stops. -/
theorem baseline_decide_action (retryCount : ℤ) :
    (baselineDecide retryCount).actionType = if retryCount < 3 then .smartRetry else .stop := by
  unfold baselineDecide
  split
  · rename_i past
    simp only [retrySchedule, List.getElem?_eq_none_iff, List.length_cons, List.length_nil] at past
    rw [if_neg (by omega)]
  · rename_i delay within
    obtain ⟨bound, _⟩ := List.getElem?_eq_some_iff.mp within
    simp only [retrySchedule, List.length_cons, List.length_nil] at bound
    rw [if_pos (by omega)]

theorem baseline_decide_no_nudge (retryCount : ℤ) :
    (baselineDecide retryCount).actionType ∉ nudgeActions := by
  rw [baseline_decide_action]
  split <;> decide

/-- A baseline decision other than `STOP` is one of the three retries. -/
theorem baseline_moves {retryCount : ℤ} {actionType : ActionType}
    (strategy : proposed.strategy = some (baselineDecide retryCount))
    (examined : proposed.action = some actionType) (notStop : actionType ≠ .stop) :
    actionType = .smartRetry ∧ retryCount < 3 := by
  simp only [RecoveryState.action, strategy, Option.map_some, baseline_decide_action,
    Option.some.injEq] at examined
  split at examined
  · rename_i scheduled
    exact ⟨examined.symm, scheduled⟩
  · exact absurd examined.symm notStop

/-- The state in front of the two arms. -/
theorem propose_cases (ran : propose d inputs s = .ok proposed) :
    ∃ enriched arm, Keeps s enriched ∧ enriched.experimentArm = some arm ∧
      enriched.gatewayHealth = some (healthSnapshot inputs s.caseData) ∧
      assignExperimentArm d.md5 s.caseId d.settings.experimentVariantPct = .ok arm ∧
      ((arm = .control ∧ proposed = baselineDecideNode enriched) ∨
        (arm = .treatment ∧ ∃ diagnosed strategized, agentDiagnose inputs enriched = .ok diagnosed ∧
          agentStrategize d.settings inputs diagnosed = .ok strategized ∧
          selectChannel inputs strategized = .ok proposed)) := by
  simp only [propose, bind_ok] at ran
  obtain ⟨scored, ranScore, enriched, ranAssign, ran⟩ := ran
  have keptScore := enrich_with_ml_keeps ranScore
  have kept := (keptScore.trans enrich_with_health_keeps).trans (assign_experiment_keeps ranAssign)
  obtain ⟨arm, assigned, shape⟩ := assign_experiment_ok.mp ranAssign
  have assignedArm : enriched.experimentArm = some arm := by rw [shape]
  have health : enriched.gatewayHealth = some (healthSnapshot inputs s.caseData) := by
    rw [shape, ← keptScore.caseData]
    rfl
  have sameId : (enrichWithHealth inputs scored).caseId = s.caseId := keptScore.caseId
  rw [sameId] at assigned
  refine ⟨enriched, arm, kept, assignedArm, health, assigned, ?_⟩
  cases arm with
  | control =>
    simp only [routeExperiment, assignedArm, ↓reduceIte, pure_ok] at ran
    exact .inl ⟨rfl, ran.symm⟩
  | treatment =>
    simp only [routeExperiment, assignedArm, Option.some.injEq, reduceCtorEq, ↓reduceIte, bind_ok] at ran
    obtain ⟨diagnosed, ranDiagnose, strategized, ranStrategize, ranSelect⟩ := ran
    exact .inr ⟨rfl, diagnosed, strategized, ranDiagnose, ranStrategize, ranSelect⟩

/-- No node before `policy_check` touches the case, the executed actions or the
approval, and a proposed nudge has its own channel and address. -/
theorem propose_ok (ran : propose d inputs s = .ok proposed) :
    Keeps s proposed ∧ proposed.gatewayHealth = some (healthSnapshot inputs s.caseData) ∧
      ChannelFits proposed := by
  obtain ⟨enriched, arm, kept, _, health, _, control | treatment⟩ := propose_cases ran
  · obtain ⟨rfl, rfl⟩ := control
    refine ⟨kept.trans ⟨rfl, rfl, rfl, rfl, rfl, rfl, append_audit_none ..⟩, health, fun strategy held => ?_⟩
    cases held
    exact nudge_ready_of_not_nudge (baseline_decide_no_nudge _)
  · obtain ⟨rfl, diagnosed, strategized, ranDiagnose, ranStrategize, ranSelect⟩ := treatment
    obtain ⟨keptDiagnose, healthDiagnose⟩ := agent_diagnose_keeps ranDiagnose
    obtain ⟨keptStrategize, healthStrategize⟩ := agent_strategize_keeps ranStrategize
    obtain ⟨keptSelect, healthSelect, _, fits⟩ := select_channel_ok ranSelect
    exact ⟨((kept.trans keptDiagnose).trans keptStrategize).trans keptSelect,
      ((healthSelect.trans healthStrategize).trans healthDiagnose).trans health, fits⟩

/-- A proposal is made in the arm that `assign_experiment` computes for it. -/
theorem propose_arm (ran : propose d inputs s = .ok proposed) :
    ∃ arm, assignExperimentArm d.md5 s.caseId d.settings.experimentVariantPct = .ok arm ∧
      proposed.experimentArm = some arm := by
  obtain ⟨enriched, arm, _, assigned, _, computed, branch⟩ := propose_cases ran
  refine ⟨arm, computed, ?_⟩
  rcases branch with ⟨_, rfl⟩ | ⟨_, diagnosed, strategized, ranDiagnose, ranStrategize, ranSelect⟩
  · exact assigned
  · obtain ⟨_, _, _, _, rfl⟩ := agent_diagnose_ok.mp ranDiagnose
    obtain ⟨_, _, rfl⟩ := agent_strategize_ok.mp ranStrategize
    obtain ⟨_, _, kept, _⟩ := select_channel_ok ranSelect
    exact kept.trans assigned

/-- In the control arm the baseline decides by the retry count alone. -/
theorem propose_control
    (control : assignExperimentArm d.md5 s.caseId d.settings.experimentVariantPct = .ok .control)
    (ran : propose d inputs s = .ok proposed) :
    proposed.strategy = some (baselineDecide s.caseData.retryCount) := by
  obtain ⟨enriched, arm, kept, _, _, assigned, ⟨_, rfl⟩ | ⟨rfl, _⟩⟩ := propose_cases ran
  · simp only [baselineDecideNode, kept.caseData]
  · cases assigned.symm.trans control

theorem propose_strategy (ran : propose d inputs s = .ok proposed) :
    ∃ strategy, proposed.strategy = some strategy := by
  obtain ⟨enriched, arm, _, _, _, _, ⟨_, rfl⟩ | ⟨_, diagnosed, strategized, _, ranStrategize,
    ranSelect⟩⟩ := propose_cases ran
  · exact ⟨_, rfl⟩
  · obtain ⟨decision, _, rfl⟩ := agent_strategize_ok.mp ranStrategize
    exact select_channel_strategy rfl ranSelect

theorem propose_scored (ran : propose d inputs s = .ok proposed) : ∃ triage, inputs.score = .ok triage := by
  simp only [propose, bind_ok, enrich_with_ml_ok] at ran
  obtain ⟨_, ⟨triage, scored, _⟩, _⟩ := ran
  exact ⟨triage, scored⟩

/-- In the control arm a scored case always gets a proposal. -/
theorem propose_control_runs {triage : TriageResult} (scored : inputs.score = .ok triage)
    (control : assignExperimentArm d.md5 s.caseId d.settings.experimentVariantPct = .ok .control) :
    ∃ proposed, propose d inputs s = .ok proposed := by
  simp only [propose, bind_ok, enrich_with_ml_ok, assign_experiment_ok]
  exact ⟨_, _, ⟨triage, scored, rfl⟩, _, ⟨.control, control, rfl⟩, rfl⟩

/-- In the treatment arm a scored case goes to the agents. -/
theorem propose_treatment_runs {triage : TriageResult} (scored : inputs.score = .ok triage)
    (treatment : assignExperimentArm d.md5 s.caseId d.settings.experimentVariantPct = .ok .treatment) :
    ∃ enriched, Keeps s enriched ∧ enriched.gatewayHealth = some (healthSnapshot inputs s.caseData) ∧
      propose d inputs s = (do
        let s ← agentDiagnose inputs enriched
        let s ← agentStrategize d.settings inputs s
        selectChannel inputs s) := by
  obtain ⟨t, ranScore⟩ : ∃ t, enrichWithMl inputs s = .ok t :=
    ⟨_, enrich_with_ml_ok.mpr ⟨triage, scored, rfl⟩⟩
  have keptScore := enrich_with_ml_keeps ranScore
  obtain ⟨u, ranAssign, arm, health⟩ : ∃ u,
      assignExperiment d.md5 d.settings (enrichWithHealth inputs t) = .ok u ∧
        u.experimentArm = some .treatment ∧ u.gatewayHealth = some (healthSnapshot inputs t.caseData) := by
    rw [← keptScore.caseId] at treatment
    exact ⟨_, assign_experiment_ok.mpr ⟨.treatment, treatment, rfl⟩, rfl, rfl⟩
  have kept : Keeps t u := enrich_with_health_keeps.trans (assign_experiment_keeps ranAssign)
  have route : routeExperiment u = .treatment := by simp [routeExperiment, arm]
  refine ⟨u, keptScore.trans kept, by rw [health, keptScore.caseData], ?_⟩
  simp only [propose, ranScore, ranAssign, route, ok_bind]

private theorem rule_silent {α : Type} {applies : Prop} [Decidable applies] {decision : α}
    {rest : Option α} :
    (if applies then some decision else rest) = none ↔ (¬ applies) ∧ rest = none := by
  by_cases held : applies <;> simp [held]

/-- When the language model decides. -/
theorem override_none : deterministicOverride cfg s = none ↔
    s.gatewayHealth.map (·.state) ≠ some .open ∧ ¬ (s.caseData.customer.get "opted_out").truthy ∧
      s.caseData.retryCount < cfg.maxRetryAttempts ∧ lower s.caseData.category ≠ "business" := by
  simp only [deterministicOverride, rule_silent, ge_iff_le, not_le, and_true, ne_eq]

theorem override_actions {strategy : StrategyDecision}
    (overridden : deterministicOverride cfg s = some strategy) :
    strategy.actionType ∈ [.defer, .stop, .escalateHuman] := by
  unfold deterministicOverride at overridden
  split at overridden
  · cases overridden
    exact List.mem_cons_self
  · split at overridden
    · cases overridden
      decide
    · split at overridden
      · cases overridden
        decide
      · split at overridden
        · cases overridden
          decide
        · cases overridden

/-- In the treatment arm the language model's decision goes to the channel node, where no
override applies to the case. -/
theorem propose_decided {triage : TriageResult} {reply : Dict} {diagnosis : DiagnosisResult}
    {strategy : StrategyDecision} (scored : inputs.score = .ok triage)
    (treatment : assignExperimentArm d.md5 s.caseId d.settings.experimentVariantPct = .ok .treatment)
    (answered : inputs.diagnosisReply = .ok reply) (valid : DiagnosisResult.validate reply = .ok diagnosis)
    (closed : (healthSnapshot inputs s.caseData).state ≠ .open)
    (optedIn : ¬ (s.caseData.customer.get "opted_out").truthy)
    (retries : s.caseData.retryCount < d.settings.maxRetryAttempts)
    (category : lower s.caseData.category ≠ "business")
    (decided : llmDecision inputs.strategyReply = .ok strategy) :
    ∃ handed, handed.caseData = s.caseData ∧ handed.strategy = some strategy ∧
      propose d inputs s = selectChannel inputs handed := by
  obtain ⟨enriched, kept, health, runs⟩ := propose_treatment_runs scored treatment
  obtain ⟨diagnosed, ranDiagnose⟩ : ∃ t, agentDiagnose inputs enriched = .ok t :=
    ⟨_, agent_diagnose_ok.mpr ⟨reply, diagnosis, answered, valid, rfl⟩⟩
  obtain ⟨keptDiagnose, healthDiagnose⟩ := agent_diagnose_keeps ranDiagnose
  have caseData : diagnosed.caseData = s.caseData := keptDiagnose.caseData.trans kept.caseData
  have silent : deterministicOverride d.settings diagnosed = none := by
    rw [override_none, healthDiagnose, health, caseData]
    exact ⟨fun opened => closed (Option.some.inj opened), optedIn, retries, category⟩
  obtain ⟨handed, ranStrategize, held⟩ : ∃ t, agentStrategize d.settings inputs diagnosed = .ok t ∧
      t.strategy = some strategy := by
    refine ⟨_, agent_strategize_ok.mpr ⟨strategy, ?_, rfl⟩, rfl⟩
    rw [strategyDecision, silent]
    exact decided
  refine ⟨handed, (agent_strategize_keeps ranStrategize).1.caseData.trans caseData, held, ?_⟩
  rw [runs, ranDiagnose, ok_bind, ranStrategize, ok_bind]

/-- In the treatment arm an open circuit defers the case, whatever the language
model answers. -/
theorem propose_open {snapshot : GatewayHealthSnapshot}
    (treatment : assignExperimentArm d.md5 s.caseId d.settings.experimentVariantPct = .ok .treatment)
    (reading : inputs.unifiedHealth = .ok snapshot) (opened : snapshot.state = .open)
    (ran : propose d inputs s = .ok proposed) : proposed.action = some .defer := by
  obtain ⟨enriched, arm, _, _, health, assigned, ⟨rfl, _⟩ | ⟨_, diagnosed, strategized, ranDiagnose,
    ranStrategize, ranSelect⟩⟩ := propose_cases ran
  · cases assigned.symm.trans treatment
  · obtain ⟨_, healthDiagnose⟩ := agent_diagnose_keeps ranDiagnose
    have seen : diagnosed.gatewayHealth = some snapshot := by
      rw [healthDiagnose, health, healthSnapshot, reading]
    obtain ⟨decision, chosen, rfl⟩ := agent_strategize_ok.mp ranStrategize
    simp only [strategyDecision, deterministicOverride, seen, Option.map_some, opened, ↓reduceIte,
      Except.ok.injEq] at chosen
    subst chosen
    simp only [selectChannel, nudgeActions, List.mem_cons, reduceCtorEq, List.not_mem_nil, or_self,
      not_false_eq_true, ↓reduceIte, Except.ok.injEq] at ranSelect
    subst ranSelect
    rfl

/-! ## The policy check -/

/-- The rules `check_all` holds against a proposed action, one by one. -/
@[mk_iff] structure Allowed (cfg : Settings) (clock : PolicyClock) (s : RecoveryState) : Prop where
  optedIn : (s.caseData.customer.get "opted_out").truthy → s.action = some .stop
  retries : cfg.maxRetryAttempts ≤ s.caseData.retryCount → s.action = some .stop
  amount : s.caseData.amountPaise < 10000 → s.action = some .stop ∨ s.action = some .escalateHuman
  cooldown : s.action ∈ PolicyEngine.contactOrRetryActions.map some →
    PolicyEngine.cooldownActive cfg clock.cooldown s.caseData.lastRetryAt = false
  quietHours : s.action ∈ PolicyEngine.customerContactActions.map some →
    PolicyEngine.inQuietHours cfg (Instant.kolkataHour clock.quietHours) = false

private theorem rule_passes {blocks : Bool} {reason : Option String} {rest : Bool × Option String} :
    (if blocks then (false, reason) else rest).1 = true ↔ blocks = false ∧ rest.1 = true := by
  cases blocks <;> simp

/-- `check_all` lets an action pass exactly when every rule does. -/
theorem check_all_allowed : (PolicyEngine.checkAll cfg clock s).1 = true ↔ Allowed cfg clock s := by
  simp only [PolicyEngine.checkAll, rule_passes, and_true, Bool.and_eq_false_imp, decide_eq_true_eq,
    decide_eq_false_iff_not, ne_eq, not_not]
  constructor
  · rintro ⟨optedIn, retries, amount, cooldown, quietHours⟩
    exact ⟨optedIn, retries, fun small => by simpa using amount small, cooldown, quietHours⟩
  · rintro ⟨optedIn, retries, amount, cooldown, quietHours⟩
    exact ⟨optedIn, retries, fun small => by simpa using amount small, cooldown, quietHours⟩

/-- `policy_check_node` either replaces the strategy by `STOP` or leaves the one
it allowed. -/
theorem policy_check_node_cases (cfg : Settings) (clock : PolicyClock) (s : RecoveryState) :
    ((¬ Allowed cfg clock s) ∧ (policyCheckNode cfg clock s).action = some .stop ∧
        (policyCheckNode cfg clock s).needsApproval = false) ∨
      (Allowed cfg clock s ∧ (policyCheckNode cfg clock s).strategy = s.strategy ∧
        (policyCheckNode cfg clock s).needsApproval =
          PolicyEngine.needsApproval cfg clock.approval s) := by
  rw [← check_all_allowed]
  unfold policyCheckNode
  split
  · rename_i blocked
    exact .inl ⟨by simp [blocked], rfl, rfl⟩
  · rename_i passed
    exact .inr ⟨by simp [passed], rfl, rfl⟩

/-- `policy_check_node` writes the strategy, the approval flag and the audit
trail, and nothing else. -/
theorem policy_check_node_frame (cfg : Settings) (clock : PolicyClock) (s : RecoveryState) :
    ∃ strategy needsApproval auditTrail,
      policyCheckNode cfg clock s = { s with strategy, needsApproval, auditTrail } := by
  unfold policyCheckNode
  split <;> exact ⟨_, _, _, rfl⟩

section

variable (cfg : Settings) (clock : PolicyClock) (s : RecoveryState)

@[simp] theorem policy_check_actions : (policyCheckNode cfg clock s).actions = s.actions := by
  unfold policyCheckNode
  split <;> rfl

@[simp] theorem policy_check_approval_status :
    (policyCheckNode cfg clock s).approvalStatus = s.approvalStatus := by
  unfold policyCheckNode
  split <;> rfl

@[simp] theorem policy_check_experiment_arm :
    (policyCheckNode cfg clock s).experimentArm = s.experimentArm := by
  unfold policyCheckNode
  split <;> rfl

end

theorem policy_check_audited (cfg : Settings) (clock : PolicyClock) (s : RecoveryState) :
    auditedActions (policyCheckNode cfg clock s) = auditedActions s := by
  unfold policyCheckNode
  split <;> exact append_audit_none ..

/-! ## The execution -/

variable {execution : ExecutionInputs} {action : RecoveryAction}

/-- `_execute` returns unless the payment-link call raises or the instant it
schedules falls off the calendar. -/
theorem execute_returns_iff {now : ℤ} {link : Except String Json} {actionType : ActionType}
    {strategy : Option StrategyDecision} {channel : Option RecoveryChannel} :
    (∃ output, execute now link actionType strategy channel = .ok output) ↔
      (actionType = .paymentLink → ∃ value, link = .ok value) ∧
        (actionType = .smartRetry ∨ actionType = .defer →
          ∃ due, Instant.addSeconds now (max 0 ((strategy.map (·.retryDelaySeconds)).getD 0)) = .ok due) := by
  cases actionType <;> simp only [execute, returns_bind_pure] <;> simp

/-- The action `execute_action` makes of a state. -/
structure ActionOf (execution : ExecutionInputs) (s : RecoveryState) (action : RecoveryAction) :
    Prop where
  actionId : action.actionId = execution.actionId
  caseId : action.caseId = s.caseId
  actionType : action.actionType = s.action.getD .stop
  channel : action.channel = executionChannel s
  idempotencyKey : action.idempotencyKey = idempotencyKey s action.actionType action.channel
  outcome : execute execution.clock.execute execution.link action.actionType s.strategy action.channel =
    .ok (action.outputResult, action.status)

/-- `execute_action` returns only past `assert_approved`, with one action more. -/
theorem execute_action_ok (ran : (executeAction cfg execution s).2 = .ok s') :
    PolicyEngine.needsApproval cfg execution.clock.approval s = false ∧
      ∃ action auditTrail, ActionOf execution s action ∧
        auditTrail.filterMap (·.actionId) = auditedActions s ++ [action.actionId] ∧
        s' = { s with actions := s.actions ++ [action], auditTrail } := by
  unfold executeAction PolicyEngine.assertApproved at ran
  split at ran
  · cases ran
  · rename_i passed
    split at passed
    · cases passed
    · rename_i approved
      simp only [bind_ok, pure_ok] at ran
      obtain ⟨⟨outputResult, status⟩, outcome, rfl⟩ := ran
      exact ⟨by simpa using approved, _, _, ⟨rfl, rfl, rfl, rfl, rfl, outcome⟩, append_audit_some .., rfl⟩

/-- How the second part of a run ends when it does not raise. -/
inductive Finished (d : Deployment) (finish : FinishInputs) (s : RecoveryState) : RecoveryState → Prop where
  | pending {record : ApprovalRecord} {auditTrail : List AuditEntry} :
      routePolicy s = .approval →
      record.approvalId = finish.approvalId → record.amountPaise = s.caseData.amountPaise →
      record.requestedAction = s.action.getD .stop →
      record.requestedAt = finish.requestedAt →
      record.expiresAt = finish.requestedAt + Instant.seconds 7200 →
      auditTrail.filterMap (·.actionId) = auditedActions s →
      Finished d finish s (logAudit { s with
        approvalStatus := some .pending, approvalRecord := some (.requested record), auditTrail })
  | stopped : routePolicy s = .stop → Finished d finish s (logAudit s)
  | executed {action : RecoveryAction} {auditTrail : List AuditEntry} :
      routePolicy s = .execute →
      PolicyEngine.needsApproval d.settings finish.execution.clock.approval s = false →
      ActionOf finish.execution s action →
      auditTrail.filterMap (·.actionId) = auditedActions s ++ [action.actionId] →
      Finished d finish s (logAudit { s with actions := s.actions ++ [action], auditTrail })

theorem finish_graph_ok (ran : (finishGraph d finish s).2 = .ok result) : Finished d finish s result := by
  unfold finishGraph at ran
  split at ran
  · rename_i route
    simp only [bind_ok, pure_ok, requestApprovalNode, Instant.addSeconds_ok] at ran
    obtain ⟨_, ⟨_, ⟨_, _, rfl⟩, _, _, rfl⟩, rfl⟩ := ran
    exact .pending route rfl rfl rfl rfl rfl (append_audit_none ..)
  · rename_i route
    cases ran
    exact .stopped route
  · rename_i route
    simp only [bind_ok, pure_ok] at ran
    obtain ⟨executed, ranExecute, rfl⟩ := ran
    obtain ⟨approved, action, auditTrail, made, audited, rfl⟩ := execute_action_ok ranExecute
    exact .executed route approved made audited

/-! ## Whole runs -/

/-- What a state has from the stored rows, up to the proposed one. -/
structure RebuiltFrom (case : RecoveryCase) (approval : Option RecoveryApproval)
    (proposed : RecoveryState) : Prop where
  caseId : proposed.caseId = case.caseId
  amount : proposed.caseData.amountPaise = case.amountPaise
  retryCount : proposed.caseData.retryCount = case.retryCount
  lastRetryAt : proposed.caseData.lastRetryAt = case.lastRetryAt
  customer : proposed.caseData.customer = case.customerData.erase contextKey
  category : proposed.caseData.category = case.failureCategory
  actions : proposed.actions = []
  approvalStatus : proposed.approvalStatus = approval.map (·.status)
  approvalRecord : proposed.approvalRecord = approval.map approvalState
  audited : auditedActions proposed = []

theorem build_state_ok (built : buildState case approval = .ok s) : RebuiltFrom case approval s := by
  simp only [buildState, bind_ok, pure_ok] at built
  obtain ⟨_, _, rfl⟩ := built
  constructor <;> rfl

/-- `_build_state` raises only over a context that is no dictionary. -/
theorem build_state_returns_iff : (∃ s, buildState case approval = .ok s) ↔
    ∃ context, (case.customerData.getD contextKey (.obj [])).asDict = .ok context := by
  constructor
  · rintro ⟨s, built⟩
    simp only [buildState, bind_ok] at built
    obtain ⟨context, isDict, _⟩ := built
    exact ⟨context, isDict⟩
  · rintro ⟨context, isDict⟩
    simp only [buildState, isDict]
    exact ⟨_, rfl⟩

/-- A run that returns has proposed a strategy and finished on the checked state. -/
theorem graph_run_finishes {decision : DecisionInputs}
    (ran : (graphRun d decision clock finish case approval).2 = .ok result) :
    ∃ s proposed, buildState case approval = .ok s ∧ propose d decision s = .ok proposed ∧
      (finishGraph d finish (policyCheckNode d.settings clock proposed)).2 = .ok result := by
  unfold graphRun at ran
  split at ran
  · cases ran
  · rename_i s built
    unfold runGraph decideGraph at ran
    split at ran
    · cases ran
    · rename_i decided decidedEq
      obtain ⟨proposed, ranPropose, rfl⟩ := bind_pure_ok.mp decidedEq
      exact ⟨s, proposed, built, ranPropose, ran⟩

/-- A run that returns has proposed a strategy, checked it and acted on it. -/
theorem graph_run_ok {decision : DecisionInputs}
    (ran : (graphRun d decision clock finish case approval).2 = .ok result) :
    ∃ s proposed, buildState case approval = .ok s ∧ propose d decision s = .ok proposed ∧
      Finished d finish (policyCheckNode d.settings clock proposed) result := by
  obtain ⟨s, proposed, built, ranPropose, finished⟩ := graph_run_finishes ran
  exact ⟨s, proposed, built, ranPropose, finish_graph_ok finished⟩

/-- A run whose strategy is proposed checks it and acts on it. -/
theorem graph_run_eq {decision : DecisionInputs} (built : buildState case approval = .ok s)
    (ran : propose d decision s = .ok proposed) :
    graphRun d decision clock finish case approval =
      finishGraph d finish (policyCheckNode d.settings clock proposed) := by
  simp only [graphRun, built, runGraph, decideGraph, ran]
  rfl

/-- The gate a strategy goes through between its proposal and its execution: it
is allowed by `policy_check`, is not `STOP`, and needs no approval, neither when
`policy_check` asks nor when `execute_action` does. -/
structure Passed (d : Deployment) (clock : PolicyClock) (finish : FinishInputs)
    (proposed : RecoveryState) (actionType : ActionType) : Prop where
  examined : proposed.action = some actionType
  notStop : actionType ≠ .stop
  allowed : Allowed d.settings clock proposed
  approvedAtCheck : PolicyEngine.needsApproval d.settings clock.approval proposed = false
  approvedAtExecution :
    PolicyEngine.needsApproval d.settings finish.execution.clock.approval proposed = false

theorem moves_of_examined {actionType : ActionType} (examined : proposed.action = some actionType)
    (notStop : actionType ≠ .stop) : proposed.action ≠ some .stop := by
  rw [examined]
  exact fun same => notStop (Option.some.inj same)

/-- Two states that differ at most in the approval flag and the audit trail, as
the states before and after a check that allows the strategy do. -/
structure SameDecision (s s' : RecoveryState) : Prop where
  caseId : s'.caseId = s.caseId
  caseData : s'.caseData = s.caseData
  strategy : s'.strategy = s.strategy
  selectedChannel : s'.selectedChannel = s.selectedChannel
  actions : s'.actions = s.actions
  approvalStatus : s'.approvalStatus = s.approvalStatus
  approvalRecord : s'.approvalRecord = s.approvalRecord

namespace SameDecision

variable (same : SameDecision s s')
include same

theorem action_eq : s'.action = s.action := by
  simp only [RecoveryState.action, same.strategy]

theorem execution_channel_eq : executionChannel s' = executionChannel s := by
  simp only [executionChannel, same.strategy, same.selectedChannel]

theorem idempotency_key_eq (actionType : ActionType) (channel : Option RecoveryChannel) :
    idempotencyKey s' actionType channel = idempotencyKey s actionType channel := by
  simp only [idempotencyKey, same.caseId, same.caseData]

theorem payment_link_call_eq : paymentLinkCall s' = paymentLinkCall s := by
  simp only [paymentLinkCall, same.idempotency_key_eq, same.execution_channel_eq, same.caseData]

theorem needs_approval_eq (cfg : Settings) (now : ℤ) :
    PolicyEngine.needsApproval cfg now s' = PolicyEngine.needsApproval cfg now s := by
  simp only [PolicyEngine.needsApproval, PolicyEngine.hasValidApproval, same.action_eq, same.caseData,
    same.approvalStatus, same.approvalRecord]

theorem action_of (made : ActionOf execution s' action) : ActionOf execution s action where
  actionId := made.actionId
  caseId := made.caseId.trans same.caseId
  actionType := by rw [made.actionType, same.action_eq]
  channel := by rw [made.channel, same.execution_channel_eq]
  idempotencyKey := by rw [made.idempotencyKey, same.idempotency_key_eq]
  outcome := same.strategy ▸ made.outcome

end SameDecision

/-- A strategy that `policy_check` allows stays as it was. -/
theorem policy_check_allowed (allowed : Allowed d.settings clock proposed) :
    SameDecision proposed (policyCheckNode d.settings clock proposed) ∧
      (policyCheckNode d.settings clock proposed).needsApproval =
        PolicyEngine.needsApproval d.settings clock.approval proposed := by
  obtain ⟨strategy, needs, auditTrail, shape⟩ := policy_check_node_frame d.settings clock proposed
  rcases policy_check_node_cases d.settings clock proposed with ⟨blocked, _⟩ | ⟨_, same, needed⟩
  · exact absurd allowed blocked
  · refine ⟨⟨?_, ?_, same, ?_, ?_, ?_, ?_⟩, needed⟩ <;> rw [shape]

theorem route_approval {checked : RecoveryState} : routePolicy checked = .approval ↔
    checked.needsApproval = true := by
  unfold routePolicy
  split
  · rename_i needed
    simp [needed]
  · rename_i unneeded
    split <;> simp [unneeded]

theorem route_stop {checked : RecoveryState} : routePolicy checked = .stop ↔
    checked.needsApproval = false ∧ checked.action.getD .stop = .stop := by
  unfold routePolicy
  cases checked.needsApproval with
  | true => simp
  | false => by_cases stops : checked.action.getD .stop = .stop <;> simp [stops]

theorem route_execute {checked : RecoveryState} : routePolicy checked = .execute ↔
    checked.needsApproval = false ∧ ∃ actionType, checked.action = some actionType ∧
      actionType ≠ .stop := by
  unfold routePolicy
  cases checked.needsApproval with
  | true => simp
  | false => cases present : checked.action <;> simp

/-- A run reaches `execute_action` and its approval check returns exactly when
the proposed strategy passes the gate. -/
theorem passed_iff : (routePolicy (policyCheckNode d.settings clock proposed) = .execute ∧
      PolicyEngine.needsApproval d.settings finish.execution.clock.approval
        (policyCheckNode d.settings clock proposed) = false) ↔
    ∃ actionType, Passed d clock finish proposed actionType := by
  constructor
  · rintro ⟨route, approved⟩
    rw [route_execute] at route
    obtain ⟨unneeded, actionType, examined, notStop⟩ := route
    rcases policy_check_node_cases d.settings clock proposed with ⟨_, stopped, _⟩ | ⟨allowed, _⟩
    · exact absurd (Option.some.inj (examined.symm.trans stopped)) notStop
    · obtain ⟨same, needed⟩ := policy_check_allowed allowed
      exact ⟨actionType, same.action_eq ▸ examined, notStop, allowed, needed ▸ unneeded,
        same.needs_approval_eq .. ▸ approved⟩
  · rintro ⟨actionType, examined, notStop, allowed, approvedAtCheck, approvedAtExecution⟩
    obtain ⟨same, needed⟩ := policy_check_allowed allowed
    rw [route_execute, needed, same.action_eq, same.needs_approval_eq]
    exact ⟨⟨approvedAtCheck, actionType, examined, notStop⟩, approvedAtExecution⟩

/-- Past the gate a run makes a payment-link call for a payment link, and none
for any other action. -/
theorem finish_calls {actionType : ActionType} (passed : Passed d clock finish proposed actionType) :
    (finishGraph d finish (policyCheckNode d.settings clock proposed)).1 =
      if actionType = .paymentLink then [paymentLinkCall proposed] else [] := by
  obtain ⟨route, approved⟩ := passed_iff.mpr ⟨actionType, passed⟩
  obtain ⟨same, _⟩ := policy_check_allowed passed.allowed
  simp only [finishGraph, route, executeAction, PolicyEngine.assertApproved, approved,
    Bool.false_eq_true, ↓reduceIte, same.action_eq, passed.examined, Option.getD_some,
    same.payment_link_call_eq]

/-- Past the gate a run makes its action where `_execute` returns. -/
theorem finish_executes {actionType : ActionType} {output : ActionOutput × String}
    (passed : Passed d clock finish proposed actionType)
    (executed : execute finish.execution.clock.execute finish.execution.link actionType
      proposed.strategy (executionChannel proposed) = .ok output) :
    ∃ result action, (finishGraph d finish (policyCheckNode d.settings clock proposed)).2 = .ok result ∧
      result.actions = proposed.actions ++ [action] ∧ action.actionType = actionType ∧
      ActionOf finish.execution proposed action := by
  obtain ⟨route, approved⟩ := passed_iff.mpr ⟨actionType, passed⟩
  obtain ⟨same, _⟩ := policy_check_allowed passed.allowed
  simp only [finishGraph, route, executeAction, PolicyEngine.assertApproved, approved,
    Bool.false_eq_true, ↓reduceIte, same.action_eq, passed.examined, Option.getD_some,
    same.strategy, same.execution_channel_eq, executed, same.actions]
  exact ⟨_, _, rfl, rfl, rfl, same.action_of ⟨rfl, rfl, by rw [same.action_eq, passed.examined]; rfl,
    same.execution_channel_eq.symm, rfl, same.strategy ▸ executed⟩⟩

/-- The payment-link calls of a run are made past the gate. -/
theorem finish_called {call : PaymentLinkCall}
    (called : call ∈ (finishGraph d finish (policyCheckNode d.settings clock proposed)).1) :
    Passed d clock finish proposed .paymentLink ∧ call = paymentLinkCall proposed := by
  have reached : ∃ actionType, Passed d clock finish proposed actionType := by
    rw [← passed_iff]
    cases route : routePolicy (policyCheckNode d.settings clock proposed) with
    | approval => simp [finishGraph, route] at called
    | stop => simp [finishGraph, route] at called
    | execute =>
      refine ⟨rfl, ?_⟩
      by_contra needed
      simp only [finishGraph, route, executeAction, PolicyEngine.assertApproved,
        Bool.not_eq_false _ ▸ needed, ↓reduceIte, List.not_mem_nil] at called
  obtain ⟨actionType, passed⟩ := reached
  rw [finish_calls passed] at called
  split at called
  · rename_i link
    subst link
    exact ⟨passed, List.mem_singleton.mp called⟩
  · cases called

theorem finished_actions {checked : RecoveryState} (fresh : checked.actions = [])
    (finished : Finished d finish checked result) (executed : action ∈ result.actions) :
    routePolicy checked = .execute ∧ ActionOf finish.execution checked action ∧
      PolicyEngine.needsApproval d.settings finish.execution.clock.approval checked = false := by
  cases finished with
  | pending => simp [logAudit, fresh] at executed
  | stopped => simp [logAudit, fresh] at executed
  | executed route approved made _ =>
    simp only [logAudit, fresh, List.nil_append, List.mem_singleton] at executed
    subst executed
    exact ⟨route, made, approved⟩

/-- The nodes after `policy_check` leave the strategy. -/
theorem finished_action {checked : RecoveryState} (finished : Finished d finish checked result) :
    result.action = checked.action := by
  cases finished <;> rfl

theorem rebuilt_from {decision : DecisionInputs} (built : buildState case approval = .ok s)
    (ran : propose d decision s = .ok proposed) : RebuiltFrom case approval proposed := by
  obtain ⟨kept, _, _⟩ := propose_ok ran
  have rebuilt := build_state_ok built
  exact
    { caseId := kept.caseId.trans rebuilt.caseId
      amount := (congrArg (·.amountPaise) kept.caseData).trans rebuilt.amount
      retryCount := (congrArg (·.retryCount) kept.caseData).trans rebuilt.retryCount
      lastRetryAt := (congrArg (·.lastRetryAt) kept.caseData).trans rebuilt.lastRetryAt
      customer := (congrArg (·.customer) kept.caseData).trans rebuilt.customer
      category := (congrArg (·.category) kept.caseData).trans rebuilt.category
      actions := kept.actions.trans rebuilt.actions
      approvalStatus := kept.approvalStatus.trans rebuilt.approvalStatus
      approvalRecord := kept.approvalRecord.trans rebuilt.approvalRecord
      audited := kept.audited.trans rebuilt.audited }

theorem log_audit_audited (s : RecoveryState) : auditedActions (logAudit s) = auditedActions s :=
  append_audit_none ..

/-- A run executes at most one action, and its audit trail refers to that action
and to no other. -/
theorem graph_run_audited {decision : DecisionInputs}
    (ran : (graphRun d decision clock finish case approval).2 = .ok result) :
    auditedActions result = result.actions.map (·.actionId) ∧
      (result.actions = [] ∨ ∃ action, result.actions = [action]) := by
  obtain ⟨s, proposed, built, ranPropose, finished⟩ := graph_run_ok ran
  have rebuilt := rebuilt_from built ranPropose
  have fresh : (policyCheckNode d.settings clock proposed).actions = [] := by
    rw [policy_check_actions]
    exact rebuilt.actions
  have unreferred : auditedActions (policyCheckNode d.settings clock proposed) = [] :=
    (policy_check_audited ..).trans rebuilt.audited
  cases finished with
  | pending _ _ _ _ _ _ audited =>
    refine ⟨?_, .inl fresh⟩
    rw [log_audit_audited, logAudit, fresh, List.map_nil]
    exact audited.trans unreferred
  | stopped =>
    refine ⟨?_, .inl fresh⟩
    rw [log_audit_audited, logAudit, fresh, List.map_nil]
    exact unreferred
  | @executed action _ _ _ _ audited =>
    have one : (policyCheckNode d.settings clock proposed).actions ++ [action] = [action] := by
      rw [fresh, List.nil_append]
    refine ⟨?_, .inr ⟨action, one⟩⟩
    rw [unreferred, List.nil_append] at audited
    rw [log_audit_audited, logAudit, one, List.map_singleton]
    exact audited

/-- The loaded row authorises an action at an instant: it is approved and has not
expired. -/
def ApprovedAt (now : ℤ) (approval : Option RecoveryApproval) : Prop :=
  ∃ row, approval = some row ∧ row.status = .approved ∧ now < row.expiresAt

/-- An action other than `STOP` goes without approval only up to the threshold,
or on the strength of the loaded row. -/
theorem needs_approval_rebuilt (rebuilt : RebuiltFrom case approval proposed)
    (moving : proposed.action ≠ some .stop) (now : ℤ) :
    PolicyEngine.needsApproval cfg now proposed = false ↔
      case.amountPaise ≤ cfg.highValueThreshold ∨ ApprovedAt now approval := by
  have valid : PolicyEngine.hasValidApproval now proposed = true ↔ ApprovedAt now approval := by
    unfold PolicyEngine.hasValidApproval ApprovedAt
    rw [rebuilt.approvalStatus, rebuilt.approvalRecord]
    cases approval with
    | none => simp
    | some row => simp [approvalState, ApprovalData.expiresAt]
  unfold PolicyEngine.needsApproval
  rw [← valid, rebuilt.amount]
  by_cases high : case.amountPaise > cfg.highValueThreshold
  · simp [high, moving, not_le.mpr high]
  · simp [high, not_lt.mp high]

/-- `_active_approval` only ever loads an approved row, so no run starts with a
pending one. -/
theorem unasked_rebuilt (rebuilt : RebuiltFrom case approval proposed)
    (approved : ∀ row, approval = some row → row.status = .approved) :
    proposed.approvalStatus ≠ some .pending := by
  rw [rebuilt.approvalStatus]
  simp only [ne_eq, Option.map_eq_some_iff, not_exists, not_and]
  intro row held
  rw [approved row held]
  decide

/-- An executed action is the proposed one, past the gate. -/
theorem executed_from {decision : DecisionInputs}
    (ran : (graphRun d decision clock finish case approval).2 = .ok result)
    (executed : action ∈ result.actions) :
    ∃ s proposed, buildState case approval = .ok s ∧ propose d decision s = .ok proposed ∧
      Passed d clock finish proposed action.actionType ∧ ActionOf finish.execution proposed action := by
  obtain ⟨s, proposed, built, ranPropose, finished⟩ := graph_run_ok ran
  have fresh : (policyCheckNode d.settings clock proposed).actions = [] := by
    rw [policy_check_actions]
    exact (rebuilt_from built ranPropose).actions
  obtain ⟨route, made, approved⟩ := finished_actions fresh finished executed
  obtain ⟨actionType, passed⟩ := passed_iff.mp ⟨route, approved⟩
  have made := (policy_check_allowed passed.allowed).1.action_of made
  have typed : action.actionType = actionType := by
    rw [made.actionType, passed.examined]
    rfl
  exact ⟨s, proposed, built, ranPropose, typed ▸ passed, made⟩

/-- A run that ends with a pending approval has asked for it itself: for the
proposed action, which `policy_check` allows, and for the amount of the case. -/
structure Requested (d : Deployment) (clock : PolicyClock) (finish : FinishInputs) (case : RecoveryCase)
    (proposed result : RecoveryState) (record : ApprovalRecord) : Prop where
  allowed : Allowed d.settings clock proposed
  needed : PolicyEngine.needsApproval d.settings clock.approval proposed = true
  strategy : result.strategy = proposed.strategy
  actions : result.actions = []
  approvalRecord : result.approvalRecord = some (.requested record)
  approvalId : record.approvalId = finish.approvalId
  amountPaise : record.amountPaise = case.amountPaise
  requestedAction : proposed.action = some record.requestedAction
  expiresAt : record.expiresAt = finish.requestedAt + Instant.seconds 7200

/-- No approval is asked for a `STOP`. -/
theorem requested_not_stop {record : ApprovalRecord}
    (request : Requested d clock finish case proposed result record) : record.requestedAction ≠ .stop := by
  intro stop
  have needed := request.needed
  simp [PolicyEngine.needsApproval, request.requestedAction, stop] at needed

theorem pending_from {decision : DecisionInputs}
    (ran : (graphRun d decision clock finish case approval).2 = .ok result)
    (loaded : ∀ row, approval = some row → row.status = .approved)
    (pending : result.approvalStatus = some .pending) :
    ∃ s proposed record, buildState case approval = .ok s ∧ propose d decision s = .ok proposed ∧
      Requested d clock finish case proposed result record := by
  obtain ⟨s, proposed, built, ranPropose, finished⟩ := graph_run_ok ran
  have rebuilt := rebuilt_from built ranPropose
  have unasked : (policyCheckNode d.settings clock proposed).approvalStatus ≠ some .pending := by
    rw [policy_check_approval_status]
    exact unasked_rebuilt rebuilt loaded
  cases finished with
  | stopped => exact absurd pending unasked
  | executed => exact absurd pending unasked
  | @pending record _ route approvalId amount requested _ expiresAt _ =>
    have needed := route_approval.mp route
    rcases policy_check_node_cases d.settings clock proposed with ⟨_, _, unneeded⟩ | ⟨allowed, _⟩
    · exact absurd (unneeded.symm.trans needed) (by decide)
    obtain ⟨same, needs⟩ := policy_check_allowed allowed
    rw [needs] at needed
    refine ⟨s, proposed, record, built, ranPropose,
      { allowed, needed, approvalId
        strategy := same.strategy
        actions := same.actions.trans rebuilt.actions
        approvalRecord := rfl
        amountPaise := amount.trans ((congrArg (·.amountPaise) same.caseData).trans rebuilt.amount)
        requestedAction := ?_
        expiresAt }⟩
    obtain ⟨strategy, held⟩ := propose_strategy ranPropose
    rw [requested, same.action_eq, RecoveryState.action, held]
    rfl

/-- A payment-link call is made for a proposed payment link, past the gate. -/
theorem called_from {decision : DecisionInputs} {call : PaymentLinkCall}
    (called : call ∈ (graphRun d decision clock finish case approval).1) :
    ∃ s proposed, buildState case approval = .ok s ∧ propose d decision s = .ok proposed ∧
      Passed d clock finish proposed .paymentLink ∧ call = paymentLinkCall proposed := by
  unfold graphRun runGraph decideGraph at called
  split at called
  · cases called
  rename_i s built
  split at called
  · cases called
  rename_i decided decidedEq
  obtain ⟨proposed, ranPropose, rfl⟩ := bind_pure_ok.mp decidedEq
  exact ⟨s, proposed, built, ranPropose, finish_called called⟩

/-! ## A sample case

Rows and answers from outside for the runs on fixed inputs of the later
modules.  The two digests are those of the identifiers' bucket texts. -/

def sampleDeployment : Deployment where
  md5 text :=
    if text = "recovery_agent_v1:REC-00000001" then 56960287216286698894521272791878007821
    else if text = "recovery_agent_v1:REC-00000007" then 218273341694296544193788045637220853817
    else 0

/-- A case as the webhook inserts it.  `REC-00000001` falls into the control arm
and `REC-00000007` into the treatment arm. -/
def sampleCase (caseId : String) (amountPaise : ℤ) : RecoveryCase :=
  { caseId
    eventType := .paymentFailed
    status := .detected
    externalPaymentId := "pay_1"
    externalOrderId := none
    amountPaise
    currency := "INR"
    failureCategory := "customer"
    failureSource := "bank"
    failureReason := "insufficient_funds"
    errorCode := "BAD_REQUEST_ERROR"
    customerId := "cust_1"
    customerData := [("phone", .str "+919900000000"), ("email", .str "payer@example.com")]
    merchantId := "default"
    createdAt := 1788500000000000
    origin := .webhook 0 }

def sampleSnapshot (state : GatewayHealthState) : GatewayHealthSnapshot :=
  { bank := "HDFC", rail := "upi", state, successRate := 9 / 10, technicalFailureRate := 0, sampleSize := 40 }

/-- Answers from outside with the language model's choice of action. -/
def sampleDecision (state : GatewayHealthState) (actionType : String) : DecisionInputs :=
  { score := .ok { recoveryProbability := 1 / 2, priority := .medium }
    unifiedHealth := .ok (sampleSnapshot state)
    diagnosisReply := .ok
      [("root_cause", .str "low balance"), ("is_transient", .bool true),
       ("failure_category", .str "customer"), ("reasoning", .str "the bank declined")]
    strategyReply := .ok [("action_type", .str actionType)]
    expectations := fun _ _ => 0 }

def sampleClock (now : ℤ) : PolicyClock := ⟨now, now, now⟩

def sampleFinish (now : ℤ) (actionId : String) : FinishInputs :=
  { execution := { clock := ⟨now, now, now⟩, actionId, link := .ok (.obj [("id", .str "plink_1")]) }
    approvalId := "APR-000000000001"
    requestedAt := now
    notify := .ok () }

def sampleVisit (now : ℤ) (actionId : String) : Visit :=
  { pick := 0, clock := sampleClock now, finish := sampleFinish now actionId, now }

end RevenueGuard.GraphProofs
