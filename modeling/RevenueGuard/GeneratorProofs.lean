import RevenueGuard.Generator
import RevenueGuard.SimulationProofs
import RevenueGuard.EncoderProofs
import RevenueGuard.TriageProofs

/-!
What the synthetic failures are good for, whatever is drawn.

1. `generated_well_formed`: a batch has as many events as were asked for, and every event agrees with
   itself: its amounts and counts are in range, the fields of a payment method are those of the method,
   the two classifications of its failure agree, and its ground truth names a method of recovery
   exactly where it says that the payment is recoverable.
2. `generated_batch_judged`: the evaluator returns on every batch, and judges the agent by the
   ground truth and the probability alone: what it does for a recoverable payment is always what the
   ground truth expects.
-/

namespace RevenueGuard.GeneratorProofs

open Library Library.Draws Library.Raises BatchEvaluator FeatureEngineering SyntheticDataGenerator
  SimulationProofs FeatureProofs EncoderProofs

variable {draws : EventDraws} {batch : BatchDraws} {bucket : Bucket} {event : GeneratedEvent} {n : ℕ}

/-! ## Scenarios -/

/-- The rows of the four failure tables. -/
def scenarios : List Scenario :=
  systemicFailures ++ customerFailures ++ subscriptionFailures ++ invoiceCheckoutFailures

theorem scenario_listed (draws : EventDraws) (bucket : Bucket) :
    (scenarioForBucket draws bucket).2.1 ∈ scenarios := by
  simp only [scenarios, List.mem_append]
  cases bucket with
  | systemic => exact .inl (.inl (.inl (choice_mem (by decide) _)))
  | customer => exact .inl (.inl (.inr (choice_mem (by decide) _)))
  | subscription => exact .inl (.inr (choice_mem (by decide) _))
  | invoiceCheckout => exact .inr (choice_mem (by decide) _)

/-- Intake and features put every scenario into one category. -/
theorem scenario_category : ∀ scenario ∈ scenarios, ∃ category,
    classifyFailure (.str scenario.errorSource) (.str scenario.errorReason) = .ok category ∧
      category.value = inferFailureCategory scenario.errorSource scenario.errorReason := by
  have classified : ∀ scenario ∈ scenarios,
      ((classifyFailure (.str scenario.errorSource) (.str scenario.errorReason)).map (·.value)).toOption =
        some (inferFailureCategory scenario.errorSource scenario.errorReason) := by
    decide
  intro scenario listed
  have same := classified scenario listed
  cases ran : classifyFailure (.str scenario.errorSource) (.str scenario.errorReason) with
  | error exc =>
    rw [ran] at same
    cases same
  | ok category =>
    rw [ran] at same
    exact ⟨category, rfl, Option.some.inj same⟩

/-- Every reason has a method, but for the one that nothing recovers. -/
theorem scenario_method : ∀ scenario ∈ scenarios,
    scenario.errorSource = "business" ∨ recoveryMethod scenario.errorReason true ≠ "none" := by
  decide

theorem scenario_spelled : ∀ scenario ∈ scenarios,
    lower scenario.errorReason = scenario.errorReason ∧ lower scenario.errorSource = scenario.errorSource := by
  decide

/-! ## Events -/

/-- What the reader of a generated event may rely on. -/
structure WellFormed (event : GeneratedEvent) : Prop where
  amount : 10000 ≤ event.amountPaise ∧ event.amountPaise ≤ 50000000
  scenario : event.scenario ∈ scenarios
  bank : event.bankName ∈ banks
  method : event.paymentMethod ∈ paymentMethods
  network : (∃ network ∈ cardNetworks, event.cardNetwork = some network) ∨ event.cardNetwork = none
  networkOfCard : event.cardNetwork.isSome = true ↔ event.paymentMethod = "card"
  upi : event.paymentMethod = "upi" → ∃ upiId, event.customer.upiId = some upiId ∧ upiId ≠ ""
  timedOut : event.scenario.errorReason = "timeout" → event.paymentMethod = "upi"
  transactions : 0 ≤ event.customer.failedTransactions ∧
    event.customer.failedTransactions ≤ event.customer.totalTransactions
  category : ∃ category,
    classifyFailure (.str event.scenario.errorSource) (.str event.scenario.errorReason) = .ok category ∧
      category.value = inferFailureCategory event.scenario.errorSource event.scenario.errorReason
  truth : ∃ recoverable, FollowsMapping event.toDict event.scenario.errorReason recoverable ∧
    (recoverable = true ↔ recoveryMethod event.scenario.errorReason recoverable ≠ "none") ∧
      (event.customer.optedOut = true ∨ event.scenario.errorSource = "business" → recoverable = false)

theorem amount_range (draws : EventDraws) :
    10000 ≤ generateAmountPaise draws ∧ generateAmountPaise draws ≤ 50000000 := by
  unfold generateAmountPaise
  split <;> omega

theorem text_ne_empty {first last : String} (nonempty : last ≠ "") : first ++ last ≠ "" := by
  intro empty
  exact nonempty (String.append_eq_empty_iff.mp empty).2

theorem payment_methods_nonempty : paymentMethods ≠ [] := by decide

theorem generated_method (bucket : Bucket) (draws : EventDraws) : (generateEvent bucket draws).paymentMethod =
    if (generateEvent bucket draws).scenario.errorReason = "timeout" then "upi"
    else choice paymentMethods payment_methods_nonempty draws.paymentMethod := rfl

/-- The customer as drawn, before the method is known for good. -/
def drawnCustomer (draws : EventDraws) : Customer :=
  generateCustomer (choice paymentMethods payment_methods_nonempty draws.paymentMethod) draws

theorem generated_customer (bucket : Bucket) (draws : EventDraws) : (generateEvent bucket draws).customer =
    if (generateEvent bucket draws).scenario.errorReason = "timeout" then (drawnCustomer draws).withUpi
    else drawnCustomer draws := rfl

theorem generated_transactions (bucket : Bucket) (draws : EventDraws) :
    0 ≤ (generateEvent bucket draws).customer.failedTransactions ∧
      (generateEvent bucket draws).customer.failedTransactions ≤
        (generateEvent bucket draws).customer.totalTransactions := by
  have total := randint_range (show (1 : ℤ) ≤ 240 by decide) draws.totalTransactions
  have failed := randint_range (show 0 ≤ min 24 (randint 1 240 draws.totalTransactions) by omega)
    draws.failedTransactions
  have drawn : 0 ≤ (drawnCustomer draws).failedTransactions ∧
      (drawnCustomer draws).failedTransactions ≤ (drawnCustomer draws).totalTransactions :=
    ⟨failed.1, failed.2.trans (min_le_right _ _)⟩
  rw [generated_customer]
  split <;> exact drawn

theorem drawn_upi (draws : EventDraws) : ((drawnCustomer draws).upiId.isSome = true ↔
    choice paymentMethods payment_methods_nonempty draws.paymentMethod = "upi") ∧
      ∀ upiId, (drawnCustomer draws).upiId = some upiId → upiId ≠ "" := by
  have handles : ∀ handle ∈ upiHandles, handle ≠ "" := by decide
  by_cases upi : choice paymentMethods payment_methods_nonempty draws.paymentMethod = "upi"
  · have given : (drawnCustomer draws).upiId = some _ := if_pos upi
    rw [given]
    refine ⟨by simp [upi], ?_⟩
    rintro _ ⟨rfl⟩
    exact text_ne_empty (handles _ (choice_mem (by decide) _))
  · have missing : (drawnCustomer draws).upiId = none := if_neg upi
    rw [missing]
    exact ⟨by simp [upi], nofun⟩

theorem generated_upi (upi : (generateEvent bucket draws).paymentMethod = "upi") :
    ∃ upiId, (generateEvent bucket draws).customer.upiId = some upiId ∧ upiId ≠ "" := by
  obtain ⟨given, nonempty⟩ := drawn_upi draws
  rw [generated_customer]
  by_cases late : (generateEvent bucket draws).scenario.errorReason = "timeout"
  · rw [if_pos late]
    refine ⟨_, rfl, ?_⟩
    cases drawn : (drawnCustomer draws).upiId with
    | none => exact text_ne_empty (by decide)
    | some upiId =>
      have kept := nonempty upiId drawn
      simp [Option.filter, kept]
  · rw [generated_method, if_neg late] at upi
    rw [if_neg late]
    obtain ⟨upiId, drawn⟩ := Option.isSome_iff_exists.mp (given.mpr upi)
    exact ⟨upiId, drawn, nonempty upiId drawn⟩

/-- The ground truth of an event, by the odds that it was drawn against. -/
theorem generated_truth (bucket : Bucket) (draws : EventDraws) : ∃ recoverable,
    FollowsMapping (generateEvent bucket draws).toDict (generateEvent bucket draws).scenario.errorReason
      recoverable ∧
    ((generateEvent bucket draws).customer.optedOut = true ∨
      (generateEvent bucket draws).scenario.errorSource = "business" → recoverable = false) := by
  refine ⟨_, ground_truth_follows (generateEvent bucket draws).scenario.errorSource
    (generateEvent bucket draws).paymentMethod (scenarioForBucket draws bucket).2.2
    (generateEvent bucket draws).customer.optedOut draws.recoverable.value rfl rfl, fun refused => ?_⟩
  have odds : recoveryOdds (generateEvent bucket draws).scenario.errorSource
      (generateEvent bucket draws).scenario.errorReason (generateEvent bucket draws).paymentMethod
      (scenarioForBucket draws bucket).2.2 (generateEvent bucket draws).customer.optedOut = 0 := by
    rw [recoveryOdds, if_pos (by simpa using refused)]
  rw [odds, decide_eq_false_iff_not, not_lt]
  exact draws.recoverable.range.1

theorem generated_network (bucket : Bucket) (draws : EventDraws) :
    ((∃ network ∈ cardNetworks, (generateEvent bucket draws).cardNetwork = some network) ∨
        (generateEvent bucket draws).cardNetwork = none) ∧
      ((generateEvent bucket draws).cardNetwork.isSome = true ↔
        (generateEvent bucket draws).paymentMethod = "card") := by
  have drawn : (generateEvent bucket draws).cardNetwork =
      if (generateEvent bucket draws).paymentMethod = "card" then
        some (choice cardNetworks (by decide) draws.cardNetwork) else none := rfl
  by_cases card : (generateEvent bucket draws).paymentMethod = "card"
  · rw [drawn, if_pos card]
    exact ⟨.inl ⟨_, choice_mem (by decide) _, rfl⟩, by simp [card]⟩
  · rw [drawn, if_neg card]
    exact ⟨.inr rfl, by simp [card]⟩

theorem generated_event_well_formed (bucket : Bucket) (draws : EventDraws) :
    WellFormed (generateEvent bucket draws) := by
  have listed : (generateEvent bucket draws).scenario ∈ scenarios := scenario_listed draws bucket
  have network := generated_network bucket draws
  refine
    { amount := amount_range draws
      scenario := listed
      bank := choice_mem (by decide) _
      method := ?_
      network := network.1
      networkOfCard := network.2
      upi := generated_upi
      timedOut := fun late => by rw [generated_method, if_pos late]
      transactions := generated_transactions bucket draws
      category := scenario_category _ listed
      truth := ?_ }
  · rw [generated_method]
    split
    · decide
    · exact choice_mem (by decide) _
  · obtain ⟨recoverable, follows, refused⟩ := generated_truth bucket draws
    refine ⟨recoverable, follows, ?_, refused⟩
    cases recoverable with
    | false => simp [recoveryMethod]
    | true =>
      refine ⟨fun _ => (scenario_method _ listed).resolve_left fun business => ?_, fun _ => rfl⟩
      cases refused (.inr business)

/-! ## Batches -/

theorem ordered_batch_length (n : ℕ) (batch : BatchDraws) : (orderedBatch n batch).length = n := by
  have parts : n * 40 / 100 + (n * 25 / 100 + (n * 20 / 100 +
      (n - (n * 40 / 100 + n * 25 / 100 + n * 20 / 100)))) = n := by omega
  simpa [orderedBatch, bucketCounts, List.length_flatMap] using parts

theorem mem_generate_batch (listed : event ∈ generateBatch n batch) :
    ∃ bucket turn, event = generateEvent bucket (batch.events bucket turn) := by
  have ordered := (shuffle_perm batch.shuffle (orderedBatch n batch)).mem_iff.mp listed
  obtain ⟨⟨bucket, count⟩, _, turned⟩ := List.mem_flatMap.mp ordered
  obtain ⟨turn, _, same⟩ := List.mem_map.mp turned
  exact ⟨bucket, turn, same.symm⟩

theorem batch_event_well_formed (listed : event ∈ generateBatch n batch) : WellFormed event := by
  obtain ⟨bucket, turn, rfl⟩ := mem_generate_batch listed
  exact generated_event_well_formed _ _

/-- A batch has the events that were asked for, each of them in order. -/
theorem generated_well_formed (n : ℕ) (batch : BatchDraws) :
    (generateBatch n batch).length = n ∧ ∀ event ∈ generateBatch n batch, WellFormed event := by
  constructor
  · rw [generateBatch, (shuffle_perm _ _).length_eq, ordered_batch_length]
  · intro event listed
    exact batch_event_well_formed listed

/-! ## The evaluation of an event -/

section Evaluation

variable {normalized : Dict} {probability : ℚ} {artifacts : TriageScorer.Artifacts}
  {fit : List String → List String} {events : List Dict} {context : FeatureContext}

/-- What the evaluator makes of a generated event. -/
structure NormalizedOf (event : GeneratedEvent) (normalized : Dict) : Prop where
  caseId : normalized.get "case_id" = .str event.eventId
  amount : normalized.get "amount_paise" = .int event.amountPaise
  customer : normalized.get "customer" = .obj event.customer.toDict
  source : normalized.getD "error_source" (.str "") = .str event.scenario.errorSource
  reason : normalized.getD "error_reason" (.str "") = .str event.scenario.errorReason
  retries : normalized.get "prior_retry_count" = .int 0

theorem normalize_generated (event : GeneratedEvent) :
    ∃ normalized, normalizeEvent event.toDict = .ok normalized ∧ NormalizedOf event normalized := by
  have amount : event.toDict.get "amount_paise" = .int event.amountPaise := rfl
  have customer : event.toDict.get "customer" = .obj event.customer.toDict := rfl
  have metadata : event.toDict.get "metadata" = .obj event.metadata := rfl
  have retries : event.metadata.getD "prior_retry_count" (.int 0) = .int 0 := rfl
  simp only [normalizeEvent, amount, customer, metadata, retries, int_or_zero, obj_or_empty, Json.pyInt,
    Json.asDict, ok_bind]
  exact ⟨_, rfl, rfl, rfl, rfl, rfl, rfl, rfl⟩

/-- Encoders that were fitted on any events have a label for a failure, so that the features of one
with the amount and the customer of a generated event can be extracted. -/
theorem features_generated {fitted : FeatureContext} {d : Dict} (fits : Fits fit)
    (on : FittedOn fit events context fitted) (amount : d.get "amount_paise" = .int event.amountPaise)
    (customer : d.get "customer" = .obj event.customer.toDict) (retried : priorRetryCountOf d = .ok 0)
    (timestamp : Timestamp) (health : Option HealthDict) :
    ∃ features, extractFeatures fitted d timestamp health = .ok features := by
  obtain ⟨bank, banked⟩ : ∃ bank, bankEncodedOf fitted d = .ok bank := ⟨_, encode_label_eq fits on.bank _⟩
  have reasoned := reason_encoded fits on d
  have total : event.customer.toDict.get "total_transactions" = .int event.customer.totalTransactions := rfl
  have failed : event.customer.toDict.get "failed_transactions" = .int event.customer.failedTransactions := rfl
  have value : event.customer.toDict.get "lifetime_value_paise" = .int event.customer.lifetimeValuePaise := rfl
  simp only [extractFeatures, amount, customer, total, failed, value, int_or_zero, obj_or_empty,
    Json.pyInt, Json.asDict, banked, reasoned, retried, ok_bind]
  exact ⟨_, rfl⟩

theorem normalized_retries (normal : NormalizedOf event normalized) : priorRetryCountOf normalized = .ok 0 := by
  rw [priorRetryCountOf, normal.retries]
  rfl

/-- The action that answers a reason, for a customer who is addressed in Hindi or not. -/
def answerTo (reason : String) (hindi : Bool) : ActionType :=
  if reason = "gateway_error" then .defer
  else if reason ∈ ["server_error", "timeout", "payment_failed"] then .smartRetry
  else if reason ∈ ["card_expired", "mandate_revoked"] then .paymentLink
  else if hindi then .nudgeWhatsapp else .nudgeEmail

/-- The agent answers every reason with what recovers it. -/
theorem answer_matches : ∀ scenario ∈ scenarios, scenario.errorSource = "business" ∨ ∀ hindi,
    answerTo scenario.errorReason hindi ∉ [ActionType.stop, .escalateHuman] ∧
      actionMatch (lower (recoveryMethod scenario.errorReason true)) (answerTo scenario.errorReason hindi) =
        true := by
  decide

theorem lowered_fields (listed : event.scenario ∈ scenarios) (normal : NormalizedOf event normalized) :
    loweredField normalized "error_reason" = event.scenario.errorReason ∧
      loweredField normalized "error_source" = event.scenario.errorSource := by
  obtain ⟨reason, source⟩ := scenario_spelled _ listed
  rw [loweredField, loweredField, normal.reason, normal.source]
  exact ⟨reason, source⟩

/-- The gateway is down for the failures of the gateway, past those of the business. -/
theorem simulated_open (listed : event.scenario ∈ scenarios) (normal : NormalizedOf event normalized) :
    (simulateGatewayHealth normalized).state = some "open" ↔ event.scenario.errorReason = "gateway_error" := by
  obtain ⟨reason, source⟩ := lowered_fields listed normal
  unfold simulateGatewayHealth
  rw [reason, source]
  by_cases down : event.scenario.errorReason = "gateway_error"
  · simp [down]
  · dsimp only
    split
    · simp [down]
    split <;> simp [down]

theorem agent_decides_generated (listed : event.scenario ∈ scenarios) (normal : NormalizedOf event normalized)
    (probability : ℚ) : ∃ hindi, agentDecide normalized (simulateGatewayHealth normalized) probability =
      .ok (if event.customer.optedOut = true ∨ probability ≤ 15 / 100 then .stop
        else if event.scenario.errorSource = "business" then .escalateHuman
        else answerTo event.scenario.errorReason hindi) := by
  obtain ⟨reason, source⟩ := lowered_fields listed normal
  have optedOut : (event.customer.toDict.get "opted_out").truthy = event.customer.optedOut := rfl
  refine ⟨decide (lower (event.customer.toDict.getD "preferred_language" (.str "en")).pyStr = "hi"), ?_⟩
  simp only [agentDecide, normal.customer, obj_or_empty, Json.asDict, ok_bind, optedOut, reason, source,
    simulated_open listed normal]
  congr 3
  unfold answerTo
  by_cases down : event.scenario.errorReason = "gateway_error" <;> simp [down]

theorem truth_read {reason : String} {recoverable : Bool}
    (follows : FollowsMapping event.toDict reason recoverable) :
    ∃ truth : Dict, (event.toDict.getD "ground_truth" (.obj [])).asDict = .ok truth ∧
      (truth.getD "is_recoverable" (.bool false)).truthy = recoverable ∧
      (truth.getD "expected_recovery_method" (.str "none")).pyStr = recoveryMethod reason recoverable := by
  obtain ⟨truth, held, marked, method⟩ := follows.truth
  refine ⟨truth, ?_, ?_, ?_⟩
  · rw [Dict.getD, held]
    rfl
  · rw [Dict.getD, marked]
    rfl
  · rw [Dict.getD, method]
    rfl

/-- What a recoverable payment takes to be recovered in an arm: of the agent a probability that it goes
by, of the control arm a reason that a retry answers. -/
def recoveredIn (arm : ExperimentArm) (reason : String) (probability : ℚ) : Bool :=
  match arm with
  | .control => reason ∈ retriedReasons
  | .treatment => 35 / 100 ≤ probability

theorem stopped_unrecovered (action : ActionType) (probability : ℚ) (recoverable : Bool)
    (given_up : recoverable = false ∨ action ∈ [ActionType.stop, .escalateHuman]) :
    simulateAgentRecovery event.toDict action probability recoverable = .ok false := by
  unfold simulateAgentRecovery
  rw [if_pos]
  rcases given_up with rfl | stopped
  · rfl
  · simp [stopped]

/-- The agent recovers what can be recovered, from a probability of 0.35 on. -/
theorem agent_recovers {recoverable : Bool} (formed : WellFormed event)
    (follows : FollowsMapping event.toDict event.scenario.errorReason recoverable)
    (refused : event.customer.optedOut = true ∨ event.scenario.errorSource = "business" → recoverable = false)
    (normal : NormalizedOf event normalized) (probability : ℚ) :
    ∃ action, simulateArm .treatment event.toDict normalized (simulateGatewayHealth normalized) probability
      recoverable = .ok (action, recoverable && decide (35 / 100 ≤ probability)) := by
  obtain ⟨hindi, decides⟩ := agent_decides_generated formed.scenario normal probability
  rw [simulateArm, decides, ok_bind]
  cases recoverable with
  | false => exact ⟨_, by rw [stopped_unrecovered _ _ _ (.inl rfl)]; rfl⟩
  | true =>
    obtain ⟨optedIn, business⟩ := not_or.mp fun given_up => Bool.noConfusion (refused given_up)
    by_cases unlikely : probability ≤ 15 / 100
    · have short : ¬ (35 : ℚ) / 100 ≤ probability := by linarith
      rw [if_pos (.inr unlikely), stopped_unrecovered _ _ _ (.inr (by decide)), decide_eq_false short]
      exact ⟨_, rfl⟩
    · rw [if_neg (not_or.mpr ⟨optedIn, unlikely⟩), if_neg business]
      obtain ⟨active, matched⟩ := (answer_matches _ formed.scenario).resolve_left business hindi
      obtain ⟨truth, dict, _, method⟩ := truth_read follows
      refine ⟨answerTo event.scenario.errorReason hindi, ?_⟩
      simp only [simulateAgentRecovery, active, dict, ok_bind, method, matched]
      rfl

theorem control_recovers {recoverable : Bool}
    (listed : event.scenario ∈ scenarios)
    (follows : FollowsMapping event.toDict event.scenario.errorReason recoverable) (health : HealthDict) :
    simulateArm .control event.toDict normalized health probability recoverable =
      .ok (.smartRetry, recoverable && decide (event.scenario.errorReason ∈ retriedReasons)) := by
  rw [simulateArm, simulateBaselineRecovery, lowered_reason follows, (scenario_spelled _ listed).1]
  rfl

/-- The row of a generated event. -/
structure Judged (md5 : String → ℕ) (artifacts : TriageScorer.Artifacts) (event : GeneratedEvent)
    (row : EvaluationRow) : Prop where
  eventId : row.eventId = event.eventId
  amount : row.amountPaise = event.amountPaise
  arm : assignExperimentArm md5 event.eventId 20 = .ok row.arm
  actual : FollowsMapping event.toDict event.scenario.errorReason row.actualRecoverable
  scored : ∃ normalized features, normalizeEvent event.toDict = .ok normalized ∧
    evaluatedFeatures artifacts.context event.toDict (simulateGatewayHealth normalized) = .ok features ∧
    row.probability = roundSix (artifacts.predict features) ∧
    row.predictedRecoverable = decide (1 / 2 ≤ artifacts.predict features) ∧
    row.simulatedRecovered = (row.actualRecoverable &&
      recoveredIn row.arm event.scenario.errorReason (artifacts.predict features))
  revenue : row.simulatedRevenuePaise = if row.simulatedRecovered then event.amountPaise else 0

/-- `self.scorer.score(normalized, health).recovery_probability`. -/
def scorer (artifacts : TriageScorer.Artifacts) (normalized : Dict) (health : HealthDict) : Except String ℚ :=
  do
  let triage ← TriageScorer.score artifacts normalized (.json (normalized.get "timestamp")) (some health)
  return triage.recoveryProbability

theorem generated_event_judged (md5 : String → ℕ) (sound : TriageProofs.Sound artifacts) (fits : Fits fit)
    (on : FittedOn fit events context artifacts.context) (bucket : Bucket) (draws : EventDraws) :
    ∃ row, evaluateEvent md5 (scorer artifacts) (generateEvent bucket draws).toDict = .ok row ∧
      Judged md5 artifacts (generateEvent bucket draws) row := by
  have formed := generated_event_well_formed bucket draws
  obtain ⟨recoverable, follows, refused⟩ := generated_truth bucket draws
  generalize generateEvent bucket draws = event at formed follows refused ⊢
  obtain ⟨normalized, normalizes, normal⟩ := normalize_generated event
  obtain ⟨features, extracted⟩ := features_generated fits on normal.amount normal.customer
    (normalized_retries normal) (.json (normalized.get "timestamp")) (some (simulateGatewayHealth normalized))
  have scored : scorer artifacts normalized (simulateGatewayHealth normalized) =
      .ok (artifacts.predict features) := by
    rw [scorer, TriageProofs.score_of_features sound extracted]
    rfl
  have evaluated : evaluatedFeatures artifacts.context event.toDict (simulateGatewayHealth normalized) =
      .ok features := by
    rw [evaluatedFeatures, normalizes, ok_bind]
    exact extracted
  obtain ⟨truth, dict, actual, _⟩ := truth_read follows
  obtain ⟨arm, assigned⟩ : ∃ arm, assignExperimentArm md5 event.eventId 20 = .ok arm := ⟨_, rfl⟩
  obtain ⟨action, simulated⟩ : ∃ action, simulateArm arm event.toDict normalized
      (simulateGatewayHealth normalized) (artifacts.predict features) recoverable =
        .ok (action, recoverable && recoveredIn arm event.scenario.errorReason (artifacts.predict features)) := by
    cases arm with
    | control => exact ⟨_, control_recovers formed.scenario follows _⟩
    | treatment => exact agent_recovers formed follows refused normal _
  have caseId : (normalized.get "case_id").pyStr = event.eventId := by
    rw [normal.caseId]
    rfl
  simp only [evaluateEvent, normalizes, scored, dict, actual, normal.amount, int_or_zero, Json.pyInt, caseId,
    assigned, simulated, ok_bind]
  refine ⟨_, rfl, ?_⟩
  exact ⟨rfl, rfl, assigned, follows, ⟨normalized, features, normalizes, evaluated, rfl, rfl, rfl⟩, rfl⟩

/-- The evaluator returns on every batch, and judges what it does by the ground truth and the
probability. -/
theorem generated_batch_judged (md5 : String → ℕ) (sound : TriageProofs.Sound artifacts) (fits : Fits fit)
    (on : FittedOn fit events context artifacts.context) (n : ℕ) (batch : BatchDraws) :
    ∃ rows, ((generateBatch n batch).mapM fun event => evaluateEvent md5 (scorer artifacts) event.toDict) =
        .ok rows ∧
      List.Forall₂ (Judged md5 artifacts) (generateBatch n batch) rows := by
  refine map_m_related fun event listed => ?_
  obtain ⟨bucket, turn, rfl⟩ := mem_generate_batch listed
  exact generated_event_judged md5 sound fits on bucket _

end Evaluation

/-- The first of everything that may be drawn. -/
def sampleDraws : EventDraws where
  eventType := 0
  scenario := 0
  highAmount := ⟨0, by norm_num⟩
  amount := 1500000
  paymentMethod := 0
  bank := 0
  firstName := "Asha"
  lastName := "Rao"
  phoneStart := 0
  upiHandle := 0
  totalTransactions := 11
  failedTransactions := 3
  customerSuffix := "aB3dE5gH7j"
  emailDomain := 0
  phone := 0
  language := 0
  lifetimeValue := 0
  optedOut := ⟨1 / 2, by norm_num⟩
  cardNetwork := 0
  eventId := "evt-1"
  paymentSuffix := "aB3dE5gH7jK9mN"
  orderSuffix := "N9mKj7Hg5Ed3Ba"
  merchantSuffix := "Q1w2E3r4T5"
  timestamp := "2026-09-04T05:33:20+00:00"
  recoverable := ⟨1 / 2, by norm_num⟩

/-- Every event drawn so, and no shuffle. -/
def sampleBatch : BatchDraws where
  events _ _ := sampleDraws
  shuffle i := i

end RevenueGuard.GeneratorProofs
