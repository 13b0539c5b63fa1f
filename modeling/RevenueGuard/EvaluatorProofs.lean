import RevenueGuard.FeatureProofs

/-!
The evaluator's agent beside the live one, on the cases that the live one decides without
the language model.  The two go through the same rules in another order, and the evaluator
has no retry limit: `agent_decide_iff` says on which cases they agree.
-/

namespace RevenueGuard.EvaluatorProofs

open Library Library.Raises FeatureEngineering BatchEvaluator GraphProofs LlmProofs FeatureProofs

variable {d : Deployment} {decision : DecisionInputs} {clock : PolicyClock} {finish : FinishInputs}
  {init s t : RecoveryState} {override : StrategyDecision} {action : ActionType} {event : Dict}
  {health : HealthDict} {probability : ℚ}

/-! ## The live agent -/

/-- The rules of `policy_check` that have their say on an override. -/
def checkedReasons : List (Option String) :=
  [none, some "Customer opted out", some "Maximum retry attempts reached"]

/-- The treatment path of a run decides on an action without the language model: by an
override, and by the opt-out and the retry limit of `policy_check`. -/
structure DecidesAlone (d : Deployment) (decision : DecisionInputs) (clock : PolicyClock)
    (finish : FinishInputs) (init s : RecoveryState) (action : ActionType) : Prop where
  strategizes : Visits d decision clock finish init .agentStrategize s
  overridden : (deterministicOverride d.settings s).isSome
  decided : ∃ t, Visits d decision clock finish init .policyCheck t ∧
    (PolicyEngine.checkAll d.settings clock t).2 ∈ checkedReasons ∧
    (policyCheckNode d.settings clock t).action = some action

/-- What the override says is what `policy_check` is handed. -/
theorem override_checked (strategizes : Visits d decision clock finish init .agentStrategize s)
    (overridden : deterministicOverride d.settings s = some override)
    (checked : Visits d decision clock finish init .policyCheck t) :
    t.strategy = some override ∧ t.caseData = s.caseData := by
  obtain ⟨ready, ⟨enriches, route⟩, diagnosed⟩ := visits_handed strategizes
  have proposed := visits_policy_check.mp checked
  simp only [propose_eq, enriches, ok_bind, route, diagnosed] at proposed
  obtain ⟨strategized, ranStrategize, ranSelect⟩ := bind_ok.mp proposed
  obtain ⟨strategy, decided, rfl⟩ := agent_strategize_ok.mp ranStrategize
  rw [strategyDecision, overridden] at decided
  cases decided
  obtain ⟨selected, selects, held⟩ := select_channel_override decision overridden (t := { s with
    strategy := some override, auditTrail := appendAudit s "strategy_agent" "agent_strategize" }) rfl
  cases ranSelect.symm.trans selects
  exact ⟨held, (select_channel_ok ranSelect).1.caseData⟩

/-- The customer has opted out. -/
abbrev OptedOut (case : CaseData) : Prop := (case.customer.get "opted_out").truthy = true

/-- The opt-out and the retry limit name themselves when they block. -/
theorem blocked_by {cfg : Settings} (blocked : (PolicyEngine.checkAll cfg clock t).1 = false)
    (reason : (PolicyEngine.checkAll cfg clock t).2 ∈ checkedReasons) :
    OptedOut t.caseData ∨ t.caseData.retryCount ≥ cfg.maxRetryAttempts := by
  by_contra neither
  obtain ⟨contact, retry⟩ := not_or.mp neither
  have contact : (t.caseData.customer.get "opted_out").truthy = false := Bool.eq_false_iff.mpr contact
  simp only [PolicyEngine.checkAll, contact, retry, decide_false, Bool.false_and, Bool.false_eq_true, ↓reduceIte]
    at blocked reason
  split at blocked <;> rename_i amount <;> simp only [amount, Bool.false_eq_true, ↓reduceIte] at reason
  · revert reason
    decide
  split at blocked <;> rename_i cooldown <;> simp only [cooldown, Bool.false_eq_true, ↓reduceIte] at reason
  · revert reason
    decide
  split at blocked <;> rename_i quietHours <;> simp only [quietHours, Bool.false_eq_true, ↓reduceIte] at reason
  · revert reason
    decide
  · cases blocked

/-- With its other rules silent, `policy_check` stops after an opt-out and at the retry
limit. -/
theorem policy_check_action {cfg : Settings} {proposed : ActionType} (asked : t.action = some proposed)
    (reason : (PolicyEngine.checkAll cfg clock t).2 ∈ checkedReasons)
    (left : (policyCheckNode cfg clock t).action = some action) :
    action = if OptedOut t.caseData ∨ t.caseData.retryCount ≥ cfg.maxRetryAttempts then .stop
      else proposed := by
  rcases policy_check_node_cases cfg clock t with ⟨refused, stopped, _⟩ | ⟨allowed, kept, _⟩
  · have blocked : (PolicyEngine.checkAll cfg clock t).1 = false :=
      Bool.eq_false_iff.mpr fun passed => refused (check_all_allowed.mp passed)
    rw [if_pos (blocked_by blocked reason)]
    exact Option.some.inj (left.symm.trans stopped)
  · rw [RecoveryState.action, kept] at left
    cases Option.some.inj (left.symm.trans asked)
    split
    · rename_i forbidden
      have stops : t.action = some .stop := forbidden.elim allowed.optedIn allowed.retries
      exact Option.some.inj (asked.symm.trans stops)
    · rfl

/-- Decided alone, a case is stopped after an opt-out or at the retry limit, deferred
while the circuit is open, and otherwise escalated. -/
theorem decides_alone (alone : DecidesAlone d decision clock finish init s action) :
    action = if OptedOut s.caseData ∨ s.caseData.retryCount ≥ d.settings.maxRetryAttempts then .stop
      else if s.gatewayHealth.map (·.state) = some .open then .defer
      else .escalateHuman := by
  obtain ⟨override, overridden⟩ := Option.isSome_iff_exists.mp alone.overridden
  obtain ⟨t, checked, reason, left⟩ := alone.decided
  obtain ⟨held, data⟩ := override_checked alone.strategizes overridden checked
  have asked : t.action = some override.actionType := by rw [RecoveryState.action, held, Option.map_some]
  rw [policy_check_action asked reason left, data]
  by_cases forbidden : OptedOut s.caseData ∨ s.caseData.retryCount ≥ d.settings.maxRetryAttempts
  · rw [if_pos forbidden, if_pos forbidden]
  rw [if_neg forbidden, if_neg forbidden]
  obtain ⟨contact, retry⟩ := not_or.mp forbidden
  unfold deterministicOverride at overridden
  by_cases openCircuit : s.gatewayHealth.map (·.state) = some .open
  · rw [if_pos openCircuit] at overridden ⊢
    cases overridden
    rfl
  · rw [if_neg openCircuit, if_neg contact, if_neg retry] at overridden
    rw [if_neg openCircuit]
    split at overridden
    · cases overridden
      rfl
    · cases overridden

/-! ## The evaluator's agent -/

/-- The evaluator's event and health are those of the case in front of the strategy. -/
structure SameCase (s : RecoveryState) (event : Dict) (health : HealthDict) : Prop where
  customer : event.get "customer" = .obj s.caseData.customer
  source : loweredField event "error_source" = lower s.caseData.source
  category : categoryOf event = lower s.caseData.category
  gateway : health.state = s.gatewayHealth.map (·.state.value)
  retryCount : event.get "prior_retry_count" = .int s.caseData.retryCount

/-- The source of the case is the merchant's own business. -/
abbrev BusinessSource (case : CaseData) : Prop := lower case.source = "business"

theorem state_value_open {state : GatewayHealthState} : state.value = "open" ↔ state = .open := by
  cases state <;> decide

/-- Past an opt-out the evaluator escalates a business source and defers while the circuit
is open; its other actions are ones that the live agent leaves to the language model. -/
theorem agent_decides (same : SameCase s event health) (likely : 15 / 100 < probability) :
    ∃ chosen ∈ [ActionType.smartRetry, .paymentLink, .nudgeWhatsapp, .nudgeEmail],
      agentDecide event health probability = .ok (if OptedOut s.caseData then .stop
        else if BusinessSource s.caseData then .escalateHuman
        else if s.gatewayHealth.map (·.state) = some .open then .defer
        else chosen) := by
  have customer : (event.get "customer").orElse (.obj []) = .obj s.caseData.customer := by
    rw [same.customer, obj_or_empty]
  have unlikely : ¬ probability ≤ 15 / 100 := not_le.mpr likely
  have opened : health.state = some "open" ↔ s.gatewayHealth.map (·.state) = some .open := by
    rw [same.gateway]
    cases s.gatewayHealth with
    | none => simp
    | some snapshot => simp [state_value_open]
  refine ⟨if loweredField event "error_reason" ∈ ["gateway_error", "server_error", "timeout", "payment_failed"]
    then .smartRetry
    else if loweredField event "error_reason" ∈ ["card_expired", "mandate_revoked"] then .paymentLink
    else if lower (s.caseData.customer.getD "preferred_language" (.str "en")).pyStr = "hi" then .nudgeWhatsapp
    else .nudgeEmail, ?_, ?_⟩
  · repeat' split
    all_goals decide
  · simp only [agentDecide, customer, Json.asDict, ok_bind, same.source, unlikely, or_false, opened]
    rfl

/-- On a case that the live agent decides alone the evaluator decides the same exactly if
the customer has opted out, or if the retries are not used up and either the circuit is
open or the source is the merchant's business, but not both. -/
theorem agent_decide_iff (alone : DecidesAlone d decision clock finish init s action)
    (same : SameCase s event health) (likely : 15 / 100 < probability) :
    agentDecide event health probability = .ok action ↔
      OptedOut s.caseData ∨ (s.caseData.retryCount < d.settings.maxRetryAttempts ∧
        (s.gatewayHealth.map (·.state) = some .open ↔ ¬ BusinessSource s.caseData)) := by
  obtain ⟨chosen, choices, decides⟩ := agent_decides same likely
  have apart : chosen ≠ .stop ∧ chosen ≠ .defer ∧ chosen ≠ .escalateHuman := by
    simp only [List.mem_cons, List.not_mem_nil, or_false] at choices
    rcases choices with rfl | rfl | rfl | rfl <;> decide
  rw [decides, decides_alone alone, Except.ok.injEq]
  by_cases optedOut : OptedOut s.caseData
  · rw [if_pos optedOut, if_pos (Or.inl optedOut)]
    exact ⟨fun _ => .inl optedOut, fun _ => rfl⟩
  rw [if_neg optedOut]
  by_cases retries : s.caseData.retryCount ≥ d.settings.maxRetryAttempts
  · rw [if_pos (Or.inr retries), or_iff_right optedOut]
    refine ⟨fun stops => ?_, fun left => absurd left.1 (not_lt.mpr retries)⟩
    split at stops
    · cases stops
    split at stops
    · cases stops
    · exact absurd stops apart.1
  rw [if_neg (not_or.mpr ⟨optedOut, retries⟩), or_iff_right optedOut, and_iff_right (not_le.mp retries)]
  by_cases business : BusinessSource s.caseData <;>
    by_cases circuit : s.gatewayHealth.map (·.state) = some .open <;>
    simp [business, circuit, apart]

/-- The sample in the evaluator, after this many retries. -/
def evaluatedSample (retryCount : ℤ) : Except String Dict :=
  normalizeEvent (sampleEvent "REC-00000007" 100000 retryCount)

/-- While the circuit is open both defer. -/
theorem agent_decide_open : ∃ event, evaluatedSample 0 = .ok event ∧
    agentDecide event { state := some "open" } (1 / 2) = .ok .defer := by
  obtain ⟨init, s, event, _, normalizes, alone, same, circuit, source, retries⟩ : ∃ init s event,
      buildState (sampleCase "REC-00000007" 100000) none = .ok init ∧ evaluatedSample 0 = .ok event ∧
        DecidesAlone sampleDeployment (sampleDecision .open "stop") (sampleClock 0) (sampleFinish 0 "") init s
          .defer ∧
        SameCase s event { state := some "open" } ∧ s.gatewayHealth.map (·.state) = some .open ∧
        s.caseData.source = "bank" ∧ s.caseData.retryCount = 0 :=
    ⟨_, _, _, rfl, rfl,
      ⟨.next (.next (.next (.next .start rfl rfl) rfl rfl) rfl rfl) rfl rfl, rfl, _,
        .next (.next (.next (.next (.next (.next .start rfl rfl) rfl rfl) rfl rfl) rfl rfl) rfl rfl) rfl rfl,
        List.mem_cons_self, rfl⟩,
      ⟨rfl, rfl, rfl, rfl, rfl⟩, rfl, rfl, rfl⟩
  have payer : ¬ BusinessSource s.caseData := by
    rw [BusinessSource, source]
    decide
  have left : s.caseData.retryCount < sampleDeployment.settings.maxRetryAttempts := by
    rw [retries]
    decide
  exact ⟨event, normalizes,
    (agent_decide_iff alone same (by norm_num)).mpr (.inr ⟨left, iff_of_true circuit payer⟩)⟩

/-- On every case that the live agent decides alone the evaluator decides the same. -/
def SameAction : Prop :=
  ∀ d decision clock finish init s action event health probability,
    DecidesAlone d decision clock finish init s action → SameCase s event health → 15 / 100 < probability →
    agentDecide event health probability = .ok action

/-- At the retry limit the live agent stops, and the evaluator goes on. -/
theorem retry_limit_ignored : ¬ SameAction := by
  intro alike
  obtain ⟨init, s, event, _, _, alone, same, contact, source, circuit⟩ : ∃ init s event,
      buildState { sampleCase "REC-00000007" 100000 with retryCount := 3 } none = .ok init ∧
        evaluatedSample 3 = .ok event ∧
        DecidesAlone sampleDeployment (sampleDecision .closed "stop") (sampleClock 0) (sampleFinish 0 "") init s
          .stop ∧
        SameCase s event { state := some "closed" } ∧
        (s.caseData.customer.get "opted_out").truthy = false ∧ s.caseData.source = "bank" ∧
        s.gatewayHealth.map (·.state) = some .closed :=
    ⟨_, _, _, rfl, rfl,
      ⟨.next (.next (.next (.next .start rfl rfl) rfl rfl) rfl rfl) rfl rfl, rfl, _,
        .next (.next (.next (.next (.next (.next .start rfl rfl) rfl rfl) rfl rfl) rfl rfl) rfl rfl) rfl rfl,
        List.mem_cons_self, rfl⟩,
      ⟨rfl, rfl, rfl, rfl, rfl⟩, rfl, rfl, rfl⟩
  have payer : ¬ BusinessSource s.caseData := by
    rw [BusinessSource, source]
    decide
  have likely : (15 / 100 : ℚ) < 1 / 2 := by norm_num
  obtain ⟨chosen, choices, decides⟩ := agent_decides same likely
  have stops := alike _ _ _ _ _ _ _ _ _ _ alone same likely
  rw [decides, if_neg (Bool.eq_false_iff.mp contact), if_neg payer, circuit, if_neg (by decide)] at stops
  cases stops
  revert choices
  decide

end RevenueGuard.EvaluatorProofs
