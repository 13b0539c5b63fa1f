import RevenueGuard.BatchEvaluator
import RevenueGuard.Library.Raises

/-!
The two outcome rules of the offline evaluator on one action.  They agree on what is
recoverable at all and on the reasons that a retry answers; the treatment rule also asks
for a probability and for the spelling of the generator, which the control rule does not.
-/

namespace RevenueGuard.SimulationProofs

open Library Library.Raises BatchEvaluator FeatureEngineering

variable {md5 md5' : String → ℕ} {score : Dict → HealthDict → Except String ℚ} {event normalized : Dict}
  {health : HealthDict} {probability : ℚ} {reason : String} {recoverable : Bool} {row : EvaluationRow}

/-! ## Events of the generator -/

/-- The ground truth of an event is one that the generator writes for its reason. -/
structure FollowsMapping (event : Dict) (reason : String) (recoverable : Bool) : Prop where
  given : event.lookup "error_reason" = some (.str reason)
  truth : ∃ truth, event.lookup "ground_truth" = some (.obj truth) ∧
    truth.lookup "is_recoverable" = some (.bool recoverable) ∧
    truth.lookup "expected_recovery_method" = some (.str (recoveryMethod reason recoverable))

/-- What the generator writes follows its mapping. -/
theorem ground_truth_follows (errorSource paymentMethod : String) (isSystemicBucket optedOut : Bool) (draw : ℚ)
    (given : event.lookup "error_reason" = some (.str reason))
    (written : event.lookup "ground_truth" =
      some (.obj (groundTruth errorSource reason paymentMethod isSystemicBucket optedOut draw))) :
    FollowsMapping event reason
      (decide (draw < recoveryOdds errorSource reason paymentMethod isSystemicBucket optedOut)) :=
  ⟨given, _, written, rfl, rfl⟩

/-! ## The outcomes of a retry -/

theorem lowered_reason (follows : FollowsMapping event reason recoverable) :
    loweredField event "error_reason" = lower reason := by
  rw [loweredField, Dict.getD, follows.given]
  rfl

theorem normalized_reason (follows : FollowsMapping event reason recoverable)
    (ran : normalizeEvent event = .ok normalized) : loweredField normalized "error_reason" = lower reason := by
  simp only [normalizeEvent, bind_ok, pure_ok] at ran
  obtain ⟨_, _, _, _, _, _, rfl⟩ := ran
  show lower (event.getD "error_reason" (.str "unknown")).pyStr = lower reason
  rw [Dict.getD, follows.given]
  rfl

/-- The agent retries only for a reason that a retry by rule recovers. -/
theorem retries_reason (chosen : agentDecide normalized health probability = .ok .smartRetry) :
    loweredField normalized "error_reason" ∈ retriedReasons := by
  simp only [agentDecide, bind_ok, pure_ok] at chosen
  obtain ⟨customer, _, action⟩ := chosen
  by_contra other
  have other : loweredField normalized "error_reason" ∉
      ["gateway_error", "server_error", "timeout", "payment_failed"] := other
  simp only [other, ↓reduceIte] at action
  split at action
  · cases action
  split at action
  · cases action
  split at action
  · cases action
  split at action
  · cases action
  split at action <;> cases action

theorem retried_mapped : ∀ reason ∈ retriedReasons,
    lower reason = reason ∧ lower (recoveryMethod reason true) = "smart_retry" := by
  decide

theorem mapped_retried :
    ∀ entry ∈ methodByReason, lower entry.2 = "smart_retry" → entry.1 ∈ retriedReasons := by
  decide

/-- A reason that a retry answers in lower case has a retry in the mapping if that is
how it is spelled. -/
theorem mapped_to_retry (retried : lower reason ∈ retriedReasons) :
    lower (recoveryMethod reason true) = "smart_retry" ↔ lower reason = reason := by
  constructor
  · intro mapped
    rw [recoveryMethod, if_pos rfl] at mapped
    cases found : methodByReason.lookup reason with
    | none =>
      rw [found] at mapped
      have unanswered : lower ((none : Option String).getD "none") ≠ "smart_retry" := by decide
      exact absurd mapped unanswered
    | some method =>
      rw [found] at mapped
      obtain ⟨_, _, split, _⟩ := List.lookup_eq_some_iff.mp found
      have listed : (reason, method) ∈ methodByReason := by
        rw [split]
        exact List.mem_append_right _ List.mem_cons_self
      exact (retried_mapped reason (mapped_retried (reason, method) listed mapped)).1
  · intro spelled
    rw [spelled] at retried
    exact (retried_mapped reason retried).2

theorem match_smart_retry (method : String) :
    actionMatch method .smartRetry = decide (method = "smart_retry") := by
  by_cases retry : method = "smart_retry"
  · rw [retry]
    rfl
  · simp [actionMatch, retry]

/-- The outcome of a retry under the treatment rule. -/
theorem simulate_agent_retry (follows : FollowsMapping event reason recoverable)
    (retried : lower reason ∈ retriedReasons) :
    simulateAgentRecovery event .smartRetry probability recoverable =
      .ok (recoverable && decide (lower reason = reason) && decide (35 / 100 ≤ probability)) := by
  cases recoverable with
  | false => rfl
  | true =>
    obtain ⟨truth, held, _, method⟩ := follows.truth
    have dict : (event.getD "ground_truth" (.obj [])).asDict = .ok truth := by
      rw [Dict.getD, held]
      rfl
    have read :
        (Dict.getD truth "expected_recovery_method" (.str "none")).pyStr = recoveryMethod reason true := by
      rw [Dict.getD, method]
      rfl
    simp only [simulateAgentRecovery, dict, ok_bind, read, match_smart_retry, mapped_to_retry retried]
    rfl

/-- The outcome of the same event under the control rule. -/
theorem simulate_baseline_retry (follows : FollowsMapping event reason recoverable)
    (retried : lower reason ∈ retriedReasons) : simulateBaselineRecovery event recoverable = recoverable := by
  rw [simulateBaselineRecovery, lowered_reason follows, decide_eq_true retried, Bool.and_true]

/-! ## The two arms -/

/-- The parts of an evaluation that returns a row. -/
structure Evaluates (md5 : String → ℕ) (score : Dict → HealthDict → Except String ℚ) (event normalized : Dict)
    (probability : ℚ) (row : EvaluationRow) : Prop where
  normalizes : normalizeEvent event = .ok normalized
  scored : score normalized (simulateGatewayHealth normalized) = .ok probability
  truth : ∃ truth, (event.getD "ground_truth" (.obj [])).asDict = .ok truth ∧
    row.actualRecoverable = (truth.getD "is_recoverable" (.bool false)).truthy
  amount : ((normalized.get "amount_paise").orElse (.int 0)).pyInt = .ok row.amountPaise
  assigned : assignExperimentArm md5 (normalized.get "case_id").pyStr 20 = .ok row.arm
  simulated : simulateArm row.arm event normalized (simulateGatewayHealth normalized) probability
    row.actualRecoverable = .ok (row.actionType, row.simulatedRecovered)
  shown : row.probability = roundSix probability
  predicted : row.predictedRecoverable = decide (1 / 2 ≤ probability)
  revenue : row.simulatedRevenuePaise = if row.simulatedRecovered then row.amountPaise else 0
  cost : row.falsePositiveCostPaise =
    if row.predictedRecoverable && !row.actualRecoverable then falsePositiveCost row.actionType else 0

theorem evaluate_event_ok (ran : evaluateEvent md5 score event = .ok row) :
    ∃ normalized probability, Evaluates md5 score event normalized probability row := by
  simp only [evaluateEvent, bind_ok, pure_ok] at ran
  obtain ⟨normalized, normalizes, probability, scored, truth, held, _, amount, _, assigned, ⟨_, _⟩, simulated,
    rfl⟩ := ran
  exact ⟨normalized, probability, normalizes, scored, ⟨truth, held, rfl⟩, amount, assigned, simulated, rfl, rfl, rfl,
    rfl⟩

/-- Another digest evaluates the event in another arm. -/
theorem evaluate_event_in_arm (evaluates : Evaluates md5 score event normalized probability row)
    {arm : ExperimentArm} (assigned : assignExperimentArm md5' (normalized.get "case_id").pyStr 20 = .ok arm)
    {action : ActionType} {recovered : Bool}
    (simulated : simulateArm arm event normalized (simulateGatewayHealth normalized) probability
      row.actualRecoverable = .ok (action, recovered)) :
    ∃ row', evaluateEvent md5' score event = .ok row' ∧ row'.arm = arm ∧ row'.actionType = action ∧
      row'.simulatedRecovered = recovered := by
  obtain ⟨truth, held, recovers⟩ := evaluates.truth
  rw [recovers] at simulated
  simp only [evaluateEvent, evaluates.normalizes, evaluates.scored, held, evaluates.amount, assigned, simulated,
    ok_bind]
  exact ⟨_, rfl, rfl, rfl, rfl⟩

/-- An event that the treatment arm retries is judged in the control arm, which retries
it too, exactly alike where nothing recovers it, or where its probability is at least
0.35 and its reason is spelled as the generator spells it. -/
theorem retry_judged_alike_iff (follows : FollowsMapping event reason recoverable)
    (treated : evaluateEvent md5 score event = .ok row) (arm : row.arm = .treatment)
    (retries : row.actionType = .smartRetry) (normalizes : normalizeEvent event = .ok normalized)
    (scored : score normalized (simulateGatewayHealth normalized) = .ok probability)
    (elsewhere : assignExperimentArm md5' (normalized.get "case_id").pyStr 20 = .ok .control) :
    ∃ row', evaluateEvent md5' score event = .ok row' ∧ row'.arm = .control ∧ row'.actionType = .smartRetry ∧
      (row.simulatedRecovered = row'.simulatedRecovered ↔
        (recoverable = false ∨ 35 / 100 ≤ probability ∧ lower reason = reason)) := by
  obtain ⟨normalized', probability', evaluates⟩ := evaluate_event_ok treated
  cases normalizes.symm.trans evaluates.normalizes
  cases scored.symm.trans evaluates.scored
  have actual : row.actualRecoverable = recoverable := by
    obtain ⟨truth, dict, recovers⟩ := evaluates.truth
    obtain ⟨held, given, marked, _⟩ := follows.truth
    rw [Dict.getD, given] at dict
    cases dict
    rw [recovers, Dict.getD, marked]
    rfl
  have simulated := evaluates.simulated
  rw [arm, actual, retries] at simulated
  obtain ⟨action, chosen, outcome⟩ := bind_ok.mp simulated
  obtain ⟨recovered, ran, same⟩ := bind_pure_ok.mp outcome
  cases same
  have retried : lower reason ∈ retriedReasons := by
    rw [← normalized_reason follows normalizes]
    exact retries_reason chosen
  rw [simulate_agent_retry follows retried] at ran
  have control : simulateArm .control event normalized (simulateGatewayHealth normalized) probability
      row.actualRecoverable = .ok (.smartRetry, recoverable) := by
    rw [simulateArm, actual, simulate_baseline_retry follows retried]
    rfl
  obtain ⟨row', ran', arm', action', recovered'⟩ := evaluate_event_in_arm evaluates elsewhere control
  refine ⟨row', ran', arm', action', ?_⟩
  rw [← Except.ok.inj ran, recovered']
  cases recoverable with
  | false => simp
  | true => simp [and_comm]

/-- A UPI payment that timed out, as the generator writes it. -/
def timedOut : Dict :=
  [("event_id", .str "evt-1"), ("event_type", .str "payment_failed"), ("amount_paise", .int 250000),
   ("error_source", .str "network"), ("error_reason", .str "timeout"), ("customer", .obj []),
   ("ground_truth", .obj (groundTruth "network" "timeout" "upi" true false (1 / 10)))]

/-- Its row in an arm, at a probability of at most six digits. -/
def timedOutRow (arm : ExperimentArm) (probability : ℚ) (recovered : Bool) : EvaluationRow :=
  { eventId := "evt-1"
    arm
    amountPaise := 250000
    probability
    predictedRecoverable := decide (1 / 2 ≤ probability)
    actualRecoverable := true
    actionType := .smartRetry
    simulatedRecovered := recovered
    simulatedRevenuePaise := if recovered then 250000 else 0
    falsePositiveCostPaise := 0 }

theorem timed_out_follows : FollowsMapping timedOut "timeout" true := by
  have drawn : decide ((1 : ℚ) / 10 < recoveryOdds "network" "timeout" "upi" true false) = true := by
    decide +kernel
  rw [← drawn]
  exact ground_truth_follows "network" "upi" true false (1 / 10) rfl rfl

theorem retry_judged_alike_iff_likely : ∃ row',
    evaluateEvent (fun _ => 20) (fun _ _ => .ok (1 / 2)) timedOut = .ok row' ∧ row'.arm = .control ∧
    row'.actionType = .smartRetry ∧
      ((timedOutRow .treatment (1 / 2) true).simulatedRecovered = row'.simulatedRecovered ↔
      (true = false ∨ (35 : ℚ) / 100 ≤ 1 / 2 ∧ lower "timeout" = "timeout")) := by
  have treated : evaluateEvent (fun _ => 0) (fun _ _ => .ok (1 / 2)) timedOut =
      .ok (timedOutRow .treatment (1 / 2) true) := by
    decide +kernel
  exact @retry_judged_alike_iff (fun _ => 0) (fun _ => 20) _ _ _ (1 / 2) _ _ _ timed_out_follows treated
    rfl rfl rfl rfl rfl

/-- At a probability of 0.2 the control arm recovers the payment and the treatment arm,
which retries it just so, does not. -/
theorem retry_judged_by_arm : FollowsMapping timedOut "timeout" true ∧
    evaluateEvent (fun _ => 0) (fun _ _ => .ok (1 / 5)) timedOut = .ok (timedOutRow .treatment (1 / 5) false) ∧
    evaluateEvent (fun _ => 20) (fun _ _ => .ok (1 / 5)) timedOut = .ok (timedOutRow .control (1 / 5) true) :=
  ⟨timed_out_follows, by decide +kernel, by decide +kernel⟩

end RevenueGuard.SimulationProofs
