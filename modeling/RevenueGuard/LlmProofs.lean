import RevenueGuard.GraphProofs
import RevenueGuard.Topology

/-!
What the language model can and cannot do to a run.

1. `visits_policy_check` and `visits_log_audit` tie the graph, node by node, to
   the run of its two parts.
2. `override_reached_iff`: a deterministic override reaches `policy_check`
   exactly if the diagnosis in front of it comes back valid.
3. `llm_noninterference`: two runs that differ in the replies of the language
   model carry the same facts to every node, get the same verdict on the same
   action, and ask for the same payment link.
-/

namespace RevenueGuard.LlmProofs

open Library Library.Raises GraphProofs

variable {d : Deployment} {decision decision' : DecisionInputs} {clock : PolicyClock}
  {finish finish' : FinishInputs} {init s t u : RecoveryState} {node : Node} {result : RecoveryState}

/-! ## The graph, node by node -/

/-- The state in front of the two arms. -/
def enriched (d : Deployment) (decision : DecisionInputs) (init : RecoveryState) :
    Except String RecoveryState := do
  let s ← enrichWithMl decision init
  assignExperiment d.md5 d.settings (enrichWithHealth decision s)

theorem propose_eq : propose d decision init = (do
    let s ← enriched d decision init
    match routeExperiment s with
    | .control => return baselineDecideNode s
    | .treatment =>
      let s ← agentDiagnose decision s
      let s ← agentStrategize d.settings decision s
      selectChannel decision s) := by
  rw [enriched, bind_assoc]
  rfl

/-- How a state comes to a node. -/
def Handed (d : Deployment) (decision : DecisionInputs) (clock : PolicyClock) (finish : FinishInputs)
    (init t : RecoveryState) : Node → Prop
  | .enrichMl => t = init
  | .enrichHealth => enrichWithMl decision init = .ok t
  | .assignExperiment => ∃ s, enrichWithMl decision init = .ok s ∧ t = enrichWithHealth decision s
  | .baselineDecide => enriched d decision init = .ok t ∧ routeExperiment t = .control
  | .agentDiagnose => enriched d decision init = .ok t ∧ routeExperiment t = .treatment
  | .agentStrategize => ∃ s, (enriched d decision init = .ok s ∧ routeExperiment s = .treatment) ∧
    agentDiagnose decision s = .ok t
  | .selectChannel => ∃ s, (∃ s', (enriched d decision init = .ok s' ∧ routeExperiment s' = .treatment) ∧
    agentDiagnose decision s' = .ok s) ∧ agentStrategize d.settings decision s = .ok t
  | .policyCheck => propose d decision init = .ok t
  | .requestApproval => ∃ s, propose d decision init = .ok s ∧ t = policyCheckNode d.settings clock s ∧
    routePolicy t = .approval
  | .executeAction => ∃ s, propose d decision init = .ok s ∧ t = policyCheckNode d.settings clock s ∧
    routePolicy t = .execute
  | .logAudit => ∃ s, propose d decision init = .ok s ∧
    (finishGraph d finish (policyCheckNode d.settings clock s)).2 = .ok (logAudit t)

theorem visits_handed (visited : Visits d decision clock finish init node t) :
    Handed d decision clock finish init t node := by
  induction visited with
  | start => rfl
  | @next node after s s' _ ran edge handed =>
    cases node with
    | enrichMl =>
      cases edge
      rw [show s = init from handed] at ran
      exact ran
    | enrichHealth =>
      cases edge
      cases ran
      exact ⟨s, handed, rfl⟩
    | assignExperiment =>
      obtain ⟨start, scored, rfl⟩ := handed
      have ready : enriched d decision init = .ok s' := bind_ok.mpr ⟨start, scored, ran⟩
      simp only [successor] at edge
      split at edge <;> rename_i route <;> cases edge <;> exact ⟨ready, route⟩
    | baselineDecide =>
      cases edge
      cases ran
      obtain ⟨ready, route⟩ := handed
      simp only [Handed, propose_eq, ready, ok_bind, route]
      rfl
    | agentDiagnose | agentStrategize =>
      cases edge
      exact ⟨s, handed, ran⟩
    | selectChannel =>
      cases edge
      obtain ⟨diagnosed, ⟨start, ⟨ready, route⟩, diagnosis⟩, strategy⟩ := handed
      simp only [Handed, propose_eq, ready, ok_bind, route, diagnosis, strategy]
      exact ran
    | policyCheck =>
      cases ran
      simp only [successor] at edge
      split at edge <;> rename_i route <;> cases edge
      · exact ⟨s, handed, rfl, route⟩
      · exact ⟨s, handed, by rw [finishGraph, route]⟩
      · exact ⟨s, handed, rfl, route⟩
    | requestApproval | executeAction =>
      cases edge
      obtain ⟨proposed, ranPropose, rfl, route⟩ := handed
      refine ⟨proposed, ranPropose, ?_⟩
      rw [finishGraph, route]
      exact bind_pure_ok.mpr ⟨s', ran, rfl⟩
    | logAudit => cases edge

/-- A run proposes exactly what it hands to `policy_check`. -/
theorem visits_policy_check : Visits d decision clock finish init .policyCheck t ↔
    propose d decision init = .ok t := by
  refine ⟨visits_handed, fun proposed => ?_⟩
  rw [propose_eq] at proposed
  obtain ⟨ready, ranEnriched, proposed⟩ := bind_ok.mp proposed
  obtain ⟨scored, ranScore, ranAssign⟩ := bind_ok.mp ranEnriched
  have assigned : Visits d decision clock finish init .assignExperiment (enrichWithHealth decision scored) :=
    .next (.next .start ranScore rfl) rfl rfl
  split at proposed
  · rename_i route
    cases pure_ok.mp proposed
    have baseline : Visits d decision clock finish init .baselineDecide ready :=
      .next assigned ranAssign (by simp only [successor, route])
    exact .next baseline rfl rfl
  · rename_i route
    have diagnose : Visits d decision clock finish init .agentDiagnose ready :=
      .next assigned ranAssign (by simp only [successor, route])
    obtain ⟨diagnosed, ranDiagnose, proposed⟩ := bind_ok.mp proposed
    obtain ⟨strategized, ranStrategize, ranSelect⟩ := bind_ok.mp proposed
    exact .next (.next (.next diagnose ranDiagnose rfl) ranStrategize rfl) ranSelect rfl

/-- A run returns exactly what `log_audit` makes of the state it is handed. -/
theorem visits_log_audit : (∃ t, Visits d decision clock finish init .logAudit t ∧ result = logAudit t) ↔
    (runGraph d decision clock finish init).2 = .ok result := by
  constructor
  · rintro ⟨t, visited, rfl⟩
    obtain ⟨proposed, ranPropose, finished⟩ := visits_handed visited
    simp only [runGraph, decideGraph, ranPropose, ok_bind]
    exact finished
  · intro returned
    unfold runGraph decideGraph at returned
    split at returned
    · cases returned
    · rename_i checked decided
      obtain ⟨proposed, ranPropose, rfl⟩ := bind_pure_ok.mp decided
      have checkedAt : Visits d decision clock finish init .policyCheck proposed :=
        visits_policy_check.mpr ranPropose
      unfold finishGraph at returned
      split at returned <;> rename_i route
      · obtain ⟨requested, ranRequest, rfl⟩ := bind_pure_ok.mp returned
        have asks : Visits d decision clock finish init .requestApproval
            (policyCheckNode d.settings clock proposed) :=
          .next checkedAt rfl (by simp only [successor, route])
        exact ⟨requested, .next asks ranRequest rfl, rfl⟩
      · cases returned
        exact ⟨_, .next checkedAt rfl (by simp only [successor, route]), rfl⟩
      · obtain ⟨executed, ranExecute, rfl⟩ := bind_pure_ok.mp returned
        have acts : Visits d decision clock finish init .executeAction
            (policyCheckNode d.settings clock proposed) :=
          .next checkedAt rfl (by simp only [successor, route])
        exact ⟨executed, .next acts ranExecute rfl, rfl⟩

/-! ## Overrides -/

/-- The language model's answer to the diagnosis is one that the diagnosis
accepts. -/
def DiagnosisAccepted (decision : DecisionInputs) : Prop :=
  ∃ reply diagnosis, decision.diagnosisReply = .ok reply ∧ DiagnosisResult.validate reply = .ok diagnosis

theorem override_congr {cfg : Settings} (health : t.gatewayHealth = s.gatewayHealth)
    (data : t.caseData = s.caseData) : deterministicOverride cfg t = deterministicOverride cfg s := by
  simp only [deterministicOverride, health, data]

/-- No override is a nudge, so the choice of a channel leaves it alone. -/
theorem select_channel_override (decision : DecisionInputs) {cfg : Settings} {override : StrategyDecision}
    (overridden : deterministicOverride cfg s = some override) (held : t.strategy = some override) :
    ∃ selected, selectChannel decision t = .ok selected ∧ selected.strategy = some override := by
  have other : override.actionType ∉ nudgeActions := by
    have action := override_actions overridden
    simp only [List.mem_cons, List.not_mem_nil, or_false] at action
    rcases action with action | action | action <;> rw [action] <;> decide
  refine ⟨{ t with selectedChannel := override.channel }, ?_, held⟩
  simp only [selectChannel, held, other, not_false_eq_true, ↓reduceIte]

/-- In the treatment arm a deterministic override reaches `policy_check` exactly if
the diagnosis in front of it is accepted. -/
theorem override_reached_iff {override : StrategyDecision}
    (visited : Visits d decision clock finish init .agentDiagnose s)
    (overridden : deterministicOverride d.settings s = some override) :
    (∃ t, Visits d decision clock finish init .policyCheck t ∧ t.strategy = some override) ↔
      DiagnosisAccepted decision := by
  obtain ⟨ready, route⟩ := visits_handed visited
  have path : propose d decision init = (do
      let s ← agentDiagnose decision s
      let s ← agentStrategize d.settings decision s
      selectChannel decision s) := by
    simp only [propose_eq, ready, ok_bind, route]
  simp only [visits_policy_check, path]
  constructor
  · rintro ⟨t, proposed, _⟩
    obtain ⟨diagnosed, ranDiagnose, _⟩ := bind_ok.mp proposed
    obtain ⟨reply, diagnosis, replied, valid, _⟩ := agent_diagnose_ok.mp ranDiagnose
    exact ⟨reply, diagnosis, replied, valid⟩
  · rintro ⟨reply, diagnosis, replied, valid⟩
    obtain ⟨diagnosed, ranDiagnose⟩ : ∃ diagnosed, agentDiagnose decision s = .ok diagnosed :=
      ⟨_, agent_diagnose_ok.mpr ⟨reply, diagnosis, replied, valid, rfl⟩⟩
    obtain ⟨kept, health⟩ := agent_diagnose_keeps ranDiagnose
    have still : deterministicOverride d.settings diagnosed = some override :=
      (override_congr health kept.caseData).trans overridden
    obtain ⟨strategized, ranStrategize, held⟩ : ∃ strategized,
        agentStrategize d.settings decision diagnosed = .ok strategized ∧
          strategized.strategy = some override :=
      ⟨_, agent_strategize_ok.mpr ⟨override, by rw [strategyDecision, still], rfl⟩, rfl⟩
    obtain ⟨selected, ranSelect, kept⟩ := select_channel_override decision overridden held
    exact ⟨selected, bind_ok.mpr ⟨diagnosed, ranDiagnose, bind_ok.mpr ⟨strategized, ranStrategize, ranSelect⟩⟩,
      kept⟩

theorem override_reached_open : ∃ init s override,
    Visits sampleDeployment (sampleDecision .open "stop") (sampleClock 0) (sampleFinish 0 "") init
        .agentDiagnose s ∧
      deterministicOverride sampleDeployment.settings s = some override ∧
      ∃ t, Visits sampleDeployment (sampleDecision .open "stop") (sampleClock 0) (sampleFinish 0 "") init
          .policyCheck t ∧ t.strategy = some override := by
  obtain ⟨init, s, override, _, visited, overridden⟩ : ∃ init s override,
      buildState (sampleCase "REC-00000007" 250000) none = .ok init ∧
        Visits sampleDeployment (sampleDecision .open "stop") (sampleClock 0) (sampleFinish 0 "") init
          .agentDiagnose s ∧ deterministicOverride sampleDeployment.settings s = some override :=
    ⟨_, _, _, rfl, .next (.next (.next .start rfl rfl) rfl rfl) rfl rfl, rfl⟩
  exact ⟨init, s, override, visited, overridden, (override_reached_iff visited overridden).mpr ⟨_, _, rfl, rfl⟩⟩

/-- The diagnosis prompt gets no JSON back. -/
def brokenDiagnosis : DecisionInputs :=
  { sampleDecision .open "stop" with
    diagnosisReply := .error "Expecting value: line 1 column 1 (char 0)" }

/-- The circuit is open, and still the case is not deferred: the run ends at the
diagnosis. -/
theorem override_lost : ¬ ∀ (d : Deployment) decision clock finish init s override,
    Visits d decision clock finish init .agentDiagnose s →
      deterministicOverride d.settings s = some override →
      ∃ t, Visits d decision clock finish init .policyCheck t ∧ t.strategy = some override := by
  intro reached
  obtain ⟨init, s, override, _, visited, overridden, raised⟩ : ∃ init s override,
      buildState (sampleCase "REC-00000007" 250000) none = .ok init ∧
        Visits sampleDeployment brokenDiagnosis (sampleClock 0) (sampleFinish 0 "") init .agentDiagnose s ∧
        deterministicOverride sampleDeployment.settings s = some override ∧
        propose sampleDeployment brokenDiagnosis init =
          .error "Expecting value: line 1 column 1 (char 0)" :=
    ⟨_, _, _, rfl, .next (.next (.next .start rfl rfl) rfl rfl) rfl rfl, rfl, rfl⟩
  obtain ⟨t, checked, _⟩ := reached _ _ _ _ _ _ _ visited overridden
  cases raised.symm.trans (visits_policy_check.mp checked)

/-! ## Two runs with different replies -/

/-- The two runs are given the same answers from outside, but for the replies of
the language model. -/
structure SameBesideReplies (decision decision' : DecisionInputs) : Prop where
  score : decision'.score = decision.score
  unifiedHealth : decision'.unifiedHealth = decision.unifiedHealth
  expectations : decision'.expectations = decision.expectations

/-- Whether the arm is assigned by the time a state is handed to a node. -/
def Node.armed : Node → Bool
  | .enrichMl | .enrichHealth | .assignExperiment => false
  | _ => true

/-- What the deterministic nodes have put into a state by the time it is handed to
a node: a function of the first state and of the answers other than the replies. -/
structure Facts (d : Deployment) (decision : DecisionInputs) (init t : RecoveryState) (node : Node) :
    Prop where
  caseId : t.caseId = init.caseId
  caseData : t.caseData = init.caseData
  triage : t.triage = if node = .enrichMl then init.triage else decision.score.toOption
  gatewayHealth : t.gatewayHealth =
    if node = .enrichMl ∨ node = .enrichHealth then init.gatewayHealth
    else some (healthSnapshot decision init.caseData)
  experimentArm : t.experimentArm =
    if Node.armed node then (assignExperimentArm d.md5 init.caseId d.settings.experimentVariantPct).toOption
    else init.experimentArm
  approval : node ≠ .logAudit → t.approvalStatus = init.approvalStatus ∧ t.approvalRecord = init.approvalRecord

/-- Past the experiment no node touches the facts, and only the request for an
approval replaces the approval. -/
theorem facts_kept {after : Node} (facts : Facts d decision init s node) (armed : Node.armed node = true)
    (armedAfter : Node.armed after = true) (early : node ≠ .logAudit) (caseId : t.caseId = s.caseId)
    (caseData : t.caseData = s.caseData) (triage : t.triage = s.triage)
    (gatewayHealth : t.gatewayHealth = s.gatewayHealth) (experimentArm : t.experimentArm = s.experimentArm)
    (approval : after ≠ .logAudit → t.approvalStatus = s.approvalStatus ∧ t.approvalRecord = s.approvalRecord) :
    Facts d decision init t after := by
  have past : ∀ node, Node.armed node = true → node ≠ .enrichMl ∧ node ≠ .enrichHealth := by
    intro node
    cases node <;> decide
  obtain ⟨notFirst, notSecond⟩ := past node armed
  obtain ⟨notFirst', notSecond'⟩ := past after armedAfter
  have known := facts.triage
  have read := facts.gatewayHealth
  have assigned := facts.experimentArm
  simp only [notFirst, notSecond, or_self, armed, ↓reduceIte] at known read assigned
  refine ⟨caseId.trans facts.caseId, caseData.trans facts.caseData, ?_, ?_, ?_, fun later => ?_⟩
  · rw [triage, known, if_neg notFirst']
  · rw [gatewayHealth, read, if_neg (by simp [notFirst', notSecond'])]
  · rw [experimentArm, assigned, if_pos armedAfter]
  · exact ⟨(approval later).1.trans (facts.approval early).1, (approval later).2.trans (facts.approval early).2⟩

theorem request_approval_ok {approvalId : String} {now : ℤ} {notify : Except String Unit}
    (ran : requestApprovalNode approvalId now notify s = .ok t) :
    ∃ record auditTrail, t = { s with
      approvalStatus := some .pending, approvalRecord := some (.requested record), auditTrail } := by
  simp only [requestApprovalNode, bind_ok, pure_ok] at ran
  obtain ⟨_, _, _, _, rfl⟩ := ran
  exact ⟨_, _, rfl⟩

theorem select_channel_triage (ran : selectChannel decision s = .ok t) : t.triage = s.triage := by
  cases select_channel_cases ran <;> rfl

/-- Each node hands on the facts it was handed, and adds its own. -/
theorem visits_facts (visited : Visits d decision clock finish init node t) :
    Facts d decision init t node := by
  induction visited with
  | start => exact ⟨rfl, rfl, rfl, rfl, rfl, fun _ => ⟨rfl, rfl⟩⟩
  | @next node after s s' _ ran edge facts =>
    have early : node ≠ .logAudit := by
      rintro rfl
      cases edge
    cases node with
    | enrichMl =>
      cases edge
      obtain ⟨scored, answered, rfl⟩ := enrich_with_ml_ok.mp ran
      exact { facts with
        triage := by simp [answered, Except.toOption]
        approval := fun _ => facts.approval early }
    | enrichHealth =>
      cases edge
      cases ran
      have snapshot : healthSnapshot decision s.caseData = healthSnapshot decision init.caseData := by
        rw [facts.caseData]
      exact { facts with
        gatewayHealth := congrArg some snapshot
        approval := fun _ => facts.approval early }
    | assignExperiment =>
      obtain ⟨arm, assigned, rfl⟩ := assign_experiment_ok.mp ran
      rw [facts.caseId] at assigned
      have route : after = .baselineDecide ∨ after = .agentDiagnose := by
        simp only [successor] at edge
        split at edge <;> cases edge
        · exact .inl rfl
        · exact .inr rfl
      rcases route with rfl | rfl <;>
        exact { facts with
          experimentArm := by simp [assigned, Node.armed, Except.toOption]
          approval := fun _ => facts.approval early }
    | baselineDecide =>
      cases edge
      cases ran
      exact facts_kept facts rfl rfl early rfl rfl rfl rfl rfl fun _ => ⟨rfl, rfl⟩
    | agentDiagnose =>
      cases edge
      obtain ⟨_, _, _, _, rfl⟩ := agent_diagnose_ok.mp ran
      exact facts_kept facts rfl rfl early rfl rfl rfl rfl rfl fun _ => ⟨rfl, rfl⟩
    | agentStrategize =>
      cases edge
      obtain ⟨_, _, rfl⟩ := agent_strategize_ok.mp ran
      exact facts_kept facts rfl rfl early rfl rfl rfl rfl rfl fun _ => ⟨rfl, rfl⟩
    | selectChannel =>
      cases edge
      obtain ⟨kept, health, arm, _⟩ := select_channel_ok ran
      exact facts_kept facts rfl rfl early kept.caseId kept.caseData (select_channel_triage ran) health arm
        fun _ => ⟨kept.approvalStatus, kept.approvalRecord⟩
    | policyCheck =>
      cases ran
      obtain ⟨strategy, needs, auditTrail, shape⟩ := policy_check_node_frame d.settings clock s
      have armed : Node.armed after = true := by
        simp only [successor] at edge
        split at edge <;> cases edge <;> rfl
      apply facts_kept facts rfl armed early <;> rw [shape]
      exact fun _ => ⟨rfl, rfl⟩
    | requestApproval =>
      cases edge
      obtain ⟨_, _, rfl⟩ := request_approval_ok ran
      exact facts_kept facts rfl rfl early rfl rfl rfl rfl rfl fun other => absurd rfl other
    | executeAction =>
      cases edge
      obtain ⟨_, _, _, _, _, rfl⟩ := execute_action_ok ran
      exact facts_kept facts rfl rfl early rfl rfl rfl rfl rfl fun other => absurd rfl other
    | logAudit => cases edge

/-! ### The approval -/

theorem valid_approval_congr (status : t.approvalStatus = s.approvalStatus)
    (record : t.approvalRecord = s.approvalRecord) (now : ℤ) :
    PolicyEngine.hasValidApproval now t = PolicyEngine.hasValidApproval now s := by
  simp only [PolicyEngine.hasValidApproval, status, record]

/-- An approval that holds has held before. -/
theorem valid_approval_earlier {now later : ℤ} (le : now ≤ later)
    (valid : PolicyEngine.hasValidApproval later s = true) : PolicyEngine.hasValidApproval now s = true := by
  unfold PolicyEngine.hasValidApproval at valid ⊢
  split at valid
  · cases valid
  · rename_i approved
    rw [if_neg approved]
    split at valid
    · rfl
    · simp only [gt_iff_lt, decide_eq_true_eq] at valid ⊢
      exact lt_of_le_of_lt le valid

/-- The approval is as valid at every node as in the first state; at the last one,
which may follow a new request, from the check on. -/
theorem visits_valid (visited : Visits d decision clock finish init node t) {now : ℤ}
    (late : node = .logAudit → clock.approval ≤ now) :
    PolicyEngine.hasValidApproval now t = PolicyEngine.hasValidApproval now init := by
  by_cases last : node = .logAudit
  · subst last
    obtain ⟨proposed, ranPropose, finished⟩ := visits_handed visited
    obtain ⟨kept, _, _⟩ := propose_ok ranPropose
    obtain ⟨strategy, needs, auditTrail, shape⟩ := policy_check_node_frame d.settings clock proposed
    have checkedStatus : (policyCheckNode d.settings clock proposed).approvalStatus = init.approvalStatus := by
      rw [shape]
      exact kept.approvalStatus
    have checkedRecord : (policyCheckNode d.settings clock proposed).approvalRecord = init.approvalRecord := by
      rw [shape]
      exact kept.approvalRecord
    have ended := finish_graph_ok finished
    generalize same : logAudit t = last at ended
    have status := congrArg (·.approvalStatus) same
    have record := congrArg (·.approvalRecord) same
    cases ended with
    | pending route =>
      have needed : PolicyEngine.needsApproval d.settings clock.approval proposed = true := by
        rcases policy_check_node_cases d.settings clock proposed with ⟨_, _, unneeded⟩ | ⟨allowed, _, needs⟩
        · cases unneeded.symm.trans (route_approval.mp route)
        · exact needs.symm.trans (route_approval.mp route)
      have invalid : PolicyEngine.hasValidApproval clock.approval init = false := by
        rw [← valid_approval_congr kept.approvalStatus kept.approvalRecord]
        simp only [PolicyEngine.needsApproval, Bool.and_eq_true, Bool.not_eq_true'] at needed
        exact needed.2
      have pending : PolicyEngine.hasValidApproval now t = false := by
        have status : t.approvalStatus = some .pending := status
        simp [PolicyEngine.hasValidApproval, status]
      rw [pending]
      cases valid : PolicyEngine.hasValidApproval now init with
      | false => rfl
      | true => cases invalid.symm.trans (valid_approval_earlier (late rfl) valid)
    | stopped => exact valid_approval_congr (status.trans checkedStatus) (record.trans checkedRecord) now
    | executed => exact valid_approval_congr (status.trans checkedStatus) (record.trans checkedRecord) now
  · obtain ⟨status, record⟩ := (visits_facts visited).approval last
    exact valid_approval_congr status record now

/-! ### Noninterference -/

theorem check_all_congr {cfg : Settings} (data : t.caseData = s.caseData) (action : t.action = s.action) :
    PolicyEngine.checkAll cfg clock t = PolicyEngine.checkAll cfg clock s := by
  simp only [PolicyEngine.checkAll, data, action]

/-- A run asks for a payment link with the data of the proposed state. -/
theorem run_called {call : PaymentLinkCall} (called : call ∈ (runGraph d decision clock finish init).1) :
    ∃ proposed, propose d decision init = .ok proposed ∧ call = paymentLinkCall proposed := by
  unfold runGraph decideGraph at called
  split at called
  · cases called
  · rename_i checked decided
    obtain ⟨proposed, ranPropose, rfl⟩ := bind_pure_ok.mp decided
    exact ⟨proposed, ranPropose, (finish_called called).2⟩

/-- What two runs have in common. -/
structure SameRuns (d : Deployment) (decision decision' : DecisionInputs) (clock : PolicyClock)
    (finish : FinishInputs) (init : RecoveryState) : Prop where
  facts : ∀ node t u, Visits d decision clock finish init node t → Visits d decision' clock finish init node u →
    u.triage = t.triage ∧ u.gatewayHealth = t.gatewayHealth ∧ u.experimentArm = t.experimentArm ∧
      u.caseData = t.caseData ∧
      ∀ now, (node = .logAudit → clock.approval ≤ now) →
        PolicyEngine.hasValidApproval now u = PolicyEngine.hasValidApproval now t
  verdict : ∀ t u, Visits d decision clock finish init .policyCheck t →
    Visits d decision' clock finish init .policyCheck u → u.action = t.action →
    PolicyEngine.checkAll d.settings clock u = PolicyEngine.checkAll d.settings clock t
  link : ∀ call ∈ (runGraph d decision clock finish init).1, ∀ call' ∈ (runGraph d decision' clock finish init).1,
    { call with key := call'.key } = call'

/-- Two runs from one state that differ only in the replies of the language model
carry the same facts to every node, get the same verdict on the same action, and
ask for a payment link with the same arguments. -/
theorem llm_noninterference (same : SameBesideReplies decision decision') :
    SameRuns d decision decision' clock finish init where
  facts := by
    intro node t u visited visited'
    have facts := visits_facts visited
    have facts' := visits_facts visited'
    have snapshot : healthSnapshot decision' init.caseData = healthSnapshot decision init.caseData := by
      simp only [healthSnapshot, same.unifiedHealth]
    refine ⟨?_, ?_, facts'.experimentArm.trans facts.experimentArm.symm,
      facts'.caseData.trans facts.caseData.symm, fun now late => ?_⟩
    · rw [facts'.triage, facts.triage, same.score]
    · rw [facts'.gatewayHealth, facts.gatewayHealth, snapshot]
    · rw [visits_valid visited' late, visits_valid visited late]
  verdict := by
    intro t u visited visited' action
    exact check_all_congr ((visits_facts visited').caseData.trans (visits_facts visited).caseData.symm) action
  link := by
    intro call called call' called'
    obtain ⟨proposed, ranPropose, rfl⟩ := run_called called
    obtain ⟨proposed', ranPropose', rfl⟩ := run_called called'
    have data := (propose_ok ranPropose).1.caseData
    have data' := (propose_ok ranPropose').1.caseData
    simp only [paymentLinkCall, data, data']

/-- The language model answers both prompts with keys that are not its business. -/
def meddlingReplies : DecisionInputs :=
  { sampleDecision .closed "payment_link" with
    diagnosisReply := .ok
      [("root_cause", .str "none"), ("is_transient", .str "yes"), ("failure_category", .str "PERMANENT_FAILURE"),
       ("reasoning", .str ""), ("recovery_probability", .int 1), ("approval_status", .str "APPROVED")]
    strategyReply := .ok
      [("action_type", .str "PAYMENT_LINK"), ("payment_link_amount_paise", .int 1), ("channel", .str "sms"),
       ("recovery_probability", .int 1), ("retry_count", .int 0), ("approval_status", .str "APPROVED")] }

theorem llm_noninterference_meddling : ∃ init,
    buildState (sampleCase "REC-00000007" 250000) none = .ok init ∧
    (runGraph sampleDeployment (sampleDecision .closed "payment_link") (sampleClock 1788501600000000)
      (sampleFinish 1788501600000000 "action-1") init).1.length = 1 ∧
    (runGraph sampleDeployment meddlingReplies (sampleClock 1788501600000000)
      (sampleFinish 1788501600000000 "action-1") init).1.length = 1 ∧
    SameRuns sampleDeployment (sampleDecision .closed "payment_link") meddlingReplies
      (sampleClock 1788501600000000) (sampleFinish 1788501600000000 "action-1") init :=
  ⟨_, rfl, rfl, rfl, llm_noninterference ⟨rfl, rfl, rfl⟩⟩

end RevenueGuard.LlmProofs
