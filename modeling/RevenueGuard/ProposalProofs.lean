import RevenueGuard.TableProofs

/-!
What a proposed strategy depends on: two runs of a case with the same answers
from outside propose the same, whatever else has happened to the case between
them, as long as the retry count speaks for the same decision.
-/

namespace RevenueGuard.ProposalProofs

open Library Library.Raises GraphProofs

variable {d : Deployment} {inputs : DecisionInputs} {s s' t t' : RecoveryState}

/-! ## The nodes -/

/-- Two states that the nodes before `policy_check` cannot tell apart, except
for the exact retry count. -/
structure Alike (d : Deployment) (s s' : RecoveryState) : Prop where
  caseId : s'.caseId = s.caseId
  category : s'.caseData.category = s.caseData.category
  customer : s'.caseData.customer = s.caseData.customer
  metadata : s'.caseData.metadata = s.caseData.metadata
  exhausted : d.settings.maxRetryAttempts ≤ s'.caseData.retryCount ↔
    d.settings.maxRetryAttempts ≤ s.caseData.retryCount
  triage : s'.triage = s.triage
  gatewayHealth : s'.gatewayHealth = s.gatewayHealth
  experimentArm : s'.experimentArm = s.experimentArm
  strategy : s'.strategy = s.strategy
  selectedChannel : s'.selectedChannel = s.selectedChannel

/-- The two states are in front of the same baseline decision. -/
def SameBaseline (s s' : RecoveryState) : Prop :=
  baselineDecide s'.caseData.retryCount = baselineDecide s.caseData.retryCount

theorem health_snapshot_alike (alike : Alike d s s') :
    healthSnapshot inputs s'.caseData = healthSnapshot inputs s.caseData := by
  simp only [healthSnapshot, healthyDefault, bankOf, railOf, metadataFromCase, alike.metadata]

theorem override_alike (alike : Alike d s s') :
    deterministicOverride d.settings s' = deterministicOverride d.settings s := by
  simp only [deterministicOverride, alike.gatewayHealth, alike.customer, alike.category, ge_iff_le,
    alike.exhausted]

theorem enrich_with_ml_alike (alike : Alike d s s') :
    Agree (fun t t' => Alike d t t' ∧ Keeps s t ∧ Keeps s' t') (enrichWithMl inputs s)
      (enrichWithMl inputs s') :=
  agree_bind (agree_refl _) fun triage _ same => by
    subst same
    have kept (start : RecoveryState) : Keeps start { start with
        triage := some triage, auditTrail := appendAudit start "triage_model" "enrich_ml" } :=
      ⟨rfl, rfl, rfl, rfl, rfl, rfl, append_audit_none ..⟩
    exact .ok ⟨{ alike with triage := rfl }, kept s, kept s'⟩

theorem enrich_with_health_alike (alike : Alike d s s') :
    Alike d (enrichWithHealth inputs s) (enrichWithHealth inputs s') :=
  { alike with gatewayHealth := congrArg some (health_snapshot_alike alike) }

theorem assign_experiment_alike (alike : Alike d s s') :
    Agree (fun t t' => Alike d t t' ∧ t.caseData = s.caseData ∧ t'.caseData = s'.caseData ∧
        (t.experimentArm = some .control →
          assignExperimentArm d.md5 s.caseId d.settings.experimentVariantPct = .ok .control))
      (assignExperiment d.md5 d.settings s) (assignExperiment d.md5 d.settings s') := by
  unfold assignExperiment
  rw [alike.caseId]
  cases assigned : assignExperimentArm d.md5 s.caseId d.settings.experimentVariantPct with
  | error exc => exact .error exc
  | ok arm =>
    refine .ok ⟨{ alike with caseId := rfl, experimentArm := rfl }, rfl, rfl, fun control => ?_⟩
    exact congrArg Except.ok (Option.some.inj control)

theorem agent_diagnose_alike (alike : Alike d s s') :
    Agree (Alike d) (agentDiagnose inputs s) (agentDiagnose inputs s') := by
  unfold agentDiagnose
  exact agree_bind (agree_refl _) fun _ _ same => by
    subst same
    exact agree_bind (agree_refl _) fun _ _ same => by
      subst same
      exact .ok { alike with }

theorem agent_strategize_alike (alike : Alike d s s') :
    Agree (Alike d) (agentStrategize d.settings inputs s) (agentStrategize d.settings inputs s') := by
  unfold agentStrategize strategyDecision
  rw [override_alike alike]
  exact agree_bind (agree_refl _) fun _ _ same => by
    subst same
    exact .ok { alike with strategy := rfl }

theorem select_channel_alike (alike : Alike d s s') :
    Agree (Alike d) (selectChannel inputs s) (selectChannel inputs s') := by
  unfold selectChannel
  rw [alike.strategy, alike.customer]
  split
  · exact .ok { alike with strategy := rfl, selectedChannel := rfl }
  · split
    · exact .ok { alike with strategy := rfl, selectedChannel := rfl }
    · split
      · exact .ok { alike with strategy := rfl, selectedChannel := rfl }
      · apply agree_bind (agree_refl _)
        intro _ _ same
        subst same
        apply agree_bind (agree_refl _)
        intro _ _ same
        subst same
        apply agree_bind (agree_refl _)
        intro _ _ same
        subst same
        exact .ok { alike with strategy := rfl, selectedChannel := rfl }

/-! ## The proposal -/

/-- The same answers from outside lead to the same proposal. -/
theorem propose_alike (alike : Alike d s s')
    (baseline : assignExperimentArm d.md5 s.caseId d.settings.experimentVariantPct = .ok .control →
      SameBaseline s s') :
    Agree (Alike d) (propose d inputs s) (propose d inputs s') := by
  unfold propose
  apply agree_bind (enrich_with_ml_alike alike)
  rintro t t' ⟨scored, same, same'⟩
  refine agree_bind (assign_experiment_alike (enrich_with_health_alike scored))
    fun u u' ⟨assigned, kept, kept', control⟩ => ?_
  have route : routeExperiment u' = routeExperiment u := by
    simp only [routeExperiment, assigned.experimentArm]
  rw [route]
  cases arm : routeExperiment u with
  | control =>
    have inControl : u.experimentArm = some .control := by
      unfold routeExperiment at arm
      split at arm
      · assumption
      · cases arm
    have decided : baselineDecide u'.caseData.retryCount = baselineDecide u.caseData.retryCount := by
      rw [kept', kept]
      show baselineDecide t'.caseData.retryCount = baselineDecide t.caseData.retryCount
      rw [same'.caseData, same.caseData]
      exact baseline (same.caseId ▸ control inControl)
    exact .ok { assigned with strategy := congrArg some decided }
  | treatment =>
    exact agree_bind (agent_diagnose_alike assigned) fun _ _ diagnosed =>
      agree_bind (agent_strategize_alike diagnosed) fun _ _ strategized =>
        select_channel_alike strategized

variable {case case' : RecoveryCase} {approval approval' : Option RecoveryApproval}

/-- States rebuilt from one failure are alike where their retry counts are. -/
theorem build_state_alike (same : TableProofs.intakePart case' = TableProofs.intakePart case)
    (exhausted : d.settings.maxRetryAttempts ≤ case'.retryCount ↔
      d.settings.maxRetryAttempts ≤ case.retryCount) :
    Agree (fun s s' => Alike d s s' ∧ s.caseId = case.caseId ∧ s.caseData.retryCount = case.retryCount ∧
        s'.caseData.retryCount = case'.retryCount)
      (buildState case approval) (buildState case' approval') := by
  have caseId : case'.caseId = case.caseId := congrArg (·.caseId) same
  have category : case'.failureCategory = case.failureCategory := congrArg (·.failureCategory) same
  have customerData : case'.customerData = case.customerData := congrArg (·.customerData) same
  unfold buildState
  rw [customerData]
  apply agree_bind (agree_refl _)
  intro context _ same
  subst same
  exact .ok ⟨{ caseId, category, exhausted, customer := rfl, metadata := rfl, triage := rfl,
               gatewayHealth := rfl, experimentArm := rfl, strategy := rfl, selectedChannel := rfl },
    rfl, rfl, rfl⟩

/-- `_build_state` and the nodes before `policy_check`. -/
def proposeFor (d : Deployment) (inputs : DecisionInputs) (case : RecoveryCase)
    (approval : Option RecoveryApproval) : Except String RecoveryState :=
  buildState case approval >>= propose d inputs

/-- Two runs for one failure, with the same answers from outside, propose the
same. -/
theorem propose_for_alike (same : TableProofs.intakePart case' = TableProofs.intakePart case)
    (exhausted : d.settings.maxRetryAttempts ≤ case'.retryCount ↔
      d.settings.maxRetryAttempts ≤ case.retryCount)
    (baseline : assignExperimentArm d.md5 case.caseId d.settings.experimentVariantPct = .ok .control →
      baselineDecide case'.retryCount = baselineDecide case.retryCount) :
    Agree (Alike d) (proposeFor d inputs case approval) (proposeFor d inputs case' approval') :=
  agree_bind (build_state_alike same exhausted) fun s s' ⟨alike, caseId, count, count'⟩ =>
    propose_alike alike fun control => by
      unfold SameBaseline
      rw [count, count']
      exact baseline (caseId ▸ control)

end RevenueGuard.ProposalProofs
