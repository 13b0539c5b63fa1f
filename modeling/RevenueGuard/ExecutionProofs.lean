import RevenueGuard.StrategyProofs
import RevenueGuard.GraphProofs

/-!
The execution of a strategy that the language model has chosen and every check
has let pass.  The reply is free to choose its delay, which is cut at zero and
bounded by nothing else, so the one thing left that may raise is the date that a
retry or a deferral is put off to.
-/

namespace RevenueGuard.ExecutionProofs

open Library Library.Raises GraphProofs

variable {d : Deployment} {decision : DecisionInputs} {clock : PolicyClock} {execution : ExecutionInputs}
  {s t proposed : RecoveryState} {strategy : StrategyDecision}

/-- `execute_action` returns exactly past `assert_approved` where `_execute` does. -/
theorem execute_action_returns_iff {cfg : Settings} :
    (∃ s', (executeAction cfg execution s).2 = .ok s') ↔
      PolicyEngine.needsApproval cfg execution.clock.approval s = false ∧
        ∃ output, execute execution.clock.execute execution.link (s.action.getD .stop) s.strategy
          (executionChannel s) = .ok output := by
  constructor
  · rintro ⟨s', ran⟩
    obtain ⟨approved, action, _, made, _⟩ := execute_action_ok ran
    have outcome := made.outcome
    rw [made.actionType, made.channel] at outcome
    exact ⟨approved, _, outcome⟩
  · rintro ⟨approved, output, outcome⟩
    simp only [executeAction, PolicyEngine.assertApproved, approved, Bool.false_eq_true, ↓reduceIte, outcome]
    exact ⟨_, rfl⟩

/-- The actions that `_execute` puts off by the delay of the strategy. -/
def delayedActions : List ActionType := [.smartRetry, .defer]

/-- The choice of a channel keeps the delay, and neither makes nor unmakes an
action that is put off. -/
theorem select_channel_delay (held : s.strategy = some strategy)
    (ran : selectChannel decision s = .ok proposed) :
    ∃ selected, proposed.strategy = some selected ∧
      selected.retryDelaySeconds = strategy.retryDelaySeconds ∧
      (selected.actionType ∈ delayedActions ↔ strategy.actionType ∈ delayedActions) := by
  have undelayed : ∀ actionType ∈ nudgeActions, actionType ∉ delayedActions := by decide
  cases select_channel_cases ran with
  | absent none => cases held.symm.trans none
  | other => exact ⟨strategy, held, rfl, Iff.rfl⟩
  | stopped same nudge _ stop _ delay =>
    cases held.symm.trans same
    exact ⟨_, rfl, delay, iff_of_false (by simp [stop, delayedActions]) (undelayed _ nudge)⟩
  | nudged same nudge _ _ mapped =>
    cases held.symm.trans same
    exact ⟨_, rfl, rfl, iff_of_false (undelayed _ (mapped_nudge mapped)) (undelayed _ nudge)⟩

/-- The date `delay` seconds after `now` is one that a `datetime` can hold. -/
structure InCalendar (now delay : ℤ) : Prop where
  interval : delay / 86400 ≤ 999999999
  date : now + Instant.seconds delay ≤ Instant.latest

theorem in_calendar_iff {now delay : ℤ} :
    (∃ due, Instant.addSeconds now delay = .ok due) ↔ InCalendar now delay := by
  simp only [Instant.addSeconds_ok]
  exact ⟨fun ⟨_, interval, date, _⟩ => ⟨interval, date⟩, fun fits => ⟨_, fits.interval, fits.date, rfl⟩⟩

/-- A strategy that the language model chose and that `policy_check` allows is
executed exactly if it needs no approval by then, and the date it is put off to,
if it is, is one that the calendar has. -/
theorem accepted_strategy_executes_iff (chosen : llmDecision decision.strategyReply = .ok strategy)
    (unruled : deterministicOverride d.settings s = none)
    (strategized : agentStrategize d.settings decision s = .ok t)
    (selected : selectChannel decision t = .ok proposed)
    (passes : (PolicyEngine.checkAll d.settings clock proposed).1 = true)
    (linked : ∃ value, execution.link = .ok value) :
    (∃ s', (executeAction d.settings execution (policyCheckNode d.settings clock proposed)).2 = .ok s' ∧
        s'.actions.length = proposed.actions.length + 1) ↔
      PolicyEngine.needsApproval d.settings execution.clock.approval proposed = false ∧
        (strategy.actionType ∈ delayedActions →
          InCalendar execution.clock.execute strategy.retryDelaySeconds) := by
  have held : t.strategy = some strategy := by
    obtain ⟨chosen', ranChoice, rfl⟩ := agent_strategize_ok.mp strategized
    rw [strategyDecision, unruled] at ranChoice
    cases ranChoice.symm.trans chosen
    rfl
  obtain ⟨kept, examined, delay, delayed⟩ := select_channel_delay held selected
  have patient : 0 ≤ strategy.retryDelaySeconds := by
    cases reply : decision.strategyReply with
    | error e =>
      rw [reply] at chosen
      cases chosen
    | ok payload =>
      rw [reply] at chosen
      exact (StrategyProofs.llm_decision_sound chosen).2
  obtain ⟨same, _⟩ := policy_check_allowed (check_all_allowed.mp passes)
  have counted :
      (∃ s', (executeAction d.settings execution (policyCheckNode d.settings clock proposed)).2 = .ok s' ∧
        s'.actions.length = proposed.actions.length + 1) ↔
      ∃ s', (executeAction d.settings execution (policyCheckNode d.settings clock proposed)).2 = .ok s' := by
    refine exists_congr fun s' => and_iff_left_of_imp fun ran => ?_
    obtain ⟨_, action, _, _, _, rfl⟩ := execute_action_ok ran
    rw [List.length_append, same.actions]
    rfl
  have action : proposed.action.getD .stop = kept.actionType := by
    rw [RecoveryState.action, examined]
    rfl
  rw [counted, execute_action_returns_iff, same.needs_approval_eq, same.action_eq, same.strategy, action,
    execute_returns_iff, examined, Option.map_some, Option.getD_some, delay, max_eq_right patient, in_calendar_iff]
  refine and_congr Iff.rfl ((and_iff_right fun _ => linked).trans ?_)
  rw [← delayed]
  simp only [delayedActions, List.mem_cons, List.not_mem_nil, or_false]

/-- A reply that retries after the delay. -/
def retryAfter (seconds : ℤ) : DecisionInputs :=
  { sampleDecision .closed "SMART_RETRY" with
    strategyReply := .ok [("action_type", .str "SMART_RETRY"), ("retry_delay_seconds", .int seconds)] }

theorem accepted_strategy_executes_iff_hour : ∃ (init t proposed : RecoveryState) (strategy : StrategyDecision),
    buildState (sampleCase "REC-00000007" 250000) none = .ok init ∧
    llmDecision (retryAfter 3600).strategyReply = .ok strategy ∧
    agentStrategize sampleDeployment.settings (retryAfter 3600) init = .ok t ∧
    selectChannel (retryAfter 3600) t = .ok proposed ∧
    ((∃ s', (executeAction sampleDeployment.settings (sampleFinish 1788501600000000 "action-1").execution
        (policyCheckNode sampleDeployment.settings (sampleClock 1788501600000000) proposed)).2 = .ok s' ∧
        s'.actions.length = proposed.actions.length + 1) ↔
      PolicyEngine.needsApproval sampleDeployment.settings 1788501600000000 proposed = false ∧
        (strategy.actionType ∈ delayedActions → InCalendar 1788501600000000 strategy.retryDelaySeconds)) := by
  have steps : ∃ (init t proposed : RecoveryState) (strategy : StrategyDecision),
      buildState (sampleCase "REC-00000007" 250000) none = .ok init ∧
      llmDecision (retryAfter 3600).strategyReply = .ok strategy ∧
      deterministicOverride sampleDeployment.settings init = none ∧
      agentStrategize sampleDeployment.settings (retryAfter 3600) init = .ok t ∧
      selectChannel (retryAfter 3600) t = .ok proposed ∧
      (PolicyEngine.checkAll sampleDeployment.settings (sampleClock 1788501600000000) proposed).1 = true :=
    ⟨_, _, _, _, rfl, rfl, rfl, rfl, rfl, rfl⟩
  obtain ⟨init, t, proposed, strategy, built, chosen, unruled, strategized, selected, passes⟩ := steps
  exact ⟨init, t, proposed, strategy, built, chosen, strategized, selected,
    accepted_strategy_executes_iff chosen unruled strategized selected passes ⟨_, rfl⟩⟩

/-- A retry after thirty thousand years is accepted, allowed and free of any
approval, and raises where its date is computed. -/
theorem accepted_strategy_overflows : ∃ (init t proposed : RecoveryState) (strategy : StrategyDecision),
    buildState (sampleCase "REC-00000007" 250000) none = .ok init ∧
    llmDecision (retryAfter 1000000000000).strategyReply = .ok strategy ∧
    deterministicOverride sampleDeployment.settings init = none ∧
    agentStrategize sampleDeployment.settings (retryAfter 1000000000000) init = .ok t ∧
    selectChannel (retryAfter 1000000000000) t = .ok proposed ∧
    (PolicyEngine.checkAll sampleDeployment.settings (sampleClock 1788501600000000) proposed).1 = true ∧
    (policyCheckNode sampleDeployment.settings (sampleClock 1788501600000000) proposed).needsApproval = false ∧
    (executeAction sampleDeployment.settings (sampleFinish 1788501600000000 "action-1").execution
      (policyCheckNode sampleDeployment.settings (sampleClock 1788501600000000) proposed)).2 =
        .error "date value out of range" :=
  ⟨_, _, _, _, rfl, rfl, rfl, rfl, rfl, rfl, rfl, rfl⟩

end RevenueGuard.ExecutionProofs
