import RevenueGuard.BatchEvaluator
import RevenueGuard.LlmProofs

/-!
The features of one failure, scored by the worker and by the batch evaluator.  The worker
scores before it has a health snapshot, and its `retry_count` is under a key that
`extract_features` does not look up.  `extract_features_iff` reduces the comparison of two
vectors to the three features that this touches, `same_features_iff` says when they agree.
-/

namespace RevenueGuard.FeatureProofs

open Library Library.Raises FeatureEngineering BatchEvaluator GraphProofs LlmProofs

variable {context : FeatureContext} {event event' : Dict} {timestamp timestamp' : Timestamp}
  {health health' : Option HealthDict} {features : Features} {case : CaseData}

/-! ## Two dictionaries of one failure -/

/-- What `extract_features` finds is the same in both, the retry count apart. -/
structure SameLookups (event event' : Dict) : Prop where
  amount : (event'.get "amount_paise").orElse (.int 0) = (event.get "amount_paise").orElse (.int 0)
  customer : (event'.get "customer").orElse (.obj []) = (event.get "customer").orElse (.obj [])
  source : sourceOf event' = sourceOf event
  reason : reasonText event' = reasonText event
  category : categoryOf event' = categoryOf event
  bank : (metadataOf event').get "bank_name" = (metadataOf event).get "bank_name"
  method : (metadataOf event').get "payment_method" = (metadataOf event).get "payment_method"

/-- Two vectors of one failure agree if what they say of the gateway and of the retries
does. -/
theorem extract_features_iff (same : SameLookups event event')
    (sameTime : parseTimestamp context timestamp' = parseTimestamp context timestamp)
    (extracted : extractFeatures context event' timestamp' health' = .ok features) :
    extractFeatures context event timestamp health = .ok features ↔
      healthScoreOf (health.getD {}) = healthScoreOf (health'.getD {}) ∧
        degradedOf (health.getD {}) = degradedOf (health'.getD {}) ∧
        priorRetryCountOf event = priorRetryCountOf event' := by
  unfold extractFeatures bankEncodedOf errorReasonEncodedOf at extracted ⊢
  rw [same.amount, same.customer, same.source, same.reason, same.category, same.bank, same.method,
    sameTime] at extracted
  obtain ⟨amount, amounted, extracted⟩ := bind_ok.mp extracted
  obtain ⟨customer, found, extracted⟩ := bind_ok.mp extracted
  obtain ⟨total, totalled, extracted⟩ := bind_ok.mp extracted
  obtain ⟨failed, counted, extracted⟩ := bind_ok.mp extracted
  obtain ⟨bank, banked, extracted⟩ := bind_ok.mp extracted
  obtain ⟨reason, reasoned, extracted⟩ := bind_ok.mp extracted
  obtain ⟨lifetime, valued, extracted⟩ := bind_ok.mp extracted
  obtain ⟨prior, retried, extracted⟩ := bind_ok.mp extracted
  cases pure_ok.mp extracted
  simp only [amounted, found, totalled, counted, banked, reasoned, valued, ok_bind, retried, bind_ok, pure_ok,
    Features.mk.injEq, true_and]
  constructor
  · rintro ⟨same, read, score, degraded, rfl⟩
    exact ⟨score, degraded, read⟩
  · rintro ⟨score, degraded, read⟩
    exact ⟨prior, read, score, degraded, rfl⟩

/-- What each feature that later lemmas look at was made of. -/
structure Extracted (context : FeatureContext) (event : Dict) (health : Option HealthDict)
    (features : Features) :
    Prop where
  score : features.gatewayHealthScore = healthScoreOf (health.getD {})
  retries : priorRetryCountOf event = .ok features.priorRetryCount
  bank : bankEncodedOf context event = .ok features.bankEncoded
  reason : errorReasonEncodedOf context event = .ok features.errorReasonEncoded

theorem extracted_features (extracted : extractFeatures context event timestamp health = .ok features) :
    Extracted context event health features := by
  unfold extractFeatures at extracted
  obtain ⟨_, _, extracted⟩ := bind_ok.mp extracted
  obtain ⟨_, _, extracted⟩ := bind_ok.mp extracted
  obtain ⟨_, _, extracted⟩ := bind_ok.mp extracted
  obtain ⟨_, _, extracted⟩ := bind_ok.mp extracted
  obtain ⟨bank, banked, extracted⟩ := bind_ok.mp extracted
  obtain ⟨reason, reasoned, extracted⟩ := bind_ok.mp extracted
  obtain ⟨_, _, extracted⟩ := bind_ok.mp extracted
  obtain ⟨prior, retried, extracted⟩ := bind_pure_ok.mp extracted
  cases extracted
  exact ⟨rfl, retried, banked, reasoned⟩

/-! ## One failure in two pipelines -/

/-- An event of the evaluator describes the failure of a case: its metadata has the
retry count in it, and its category, which it does not carry, is inferred to be the
same. -/
structure SameFailure (context : FeatureContext) (case : CaseData) (event : Dict) : Prop where
  amount : event.get "amount_paise" = .int case.amountPaise
  source : event.get "error_source" = .str case.source
  reason : event.get "error_reason" = .str case.reason
  customer : event.get "customer" = .obj case.customer
  category : categoryOf case.toDict = inferFailureCategory (sourceOf case.toDict) (reasonOf case.toDict)
  metadata : ∃ metadata : Dict, event.get "metadata" = .obj metadata ∧
    metadata.get "prior_retry_count" = .int case.retryCount ∧
    ∀ key ≠ "prior_retry_count", metadata.get key = case.metadata.dictOrEmpty.get key
  timestamp : ∃ text, event.get "timestamp" = .str text ∧
    context.fromIsoFormat (text.replace "Z" "+00:00") = some (utcDatetime case.timestamp)

theorem get_d_of_get {d : Dict} {key : String} {value default : Json} (found : d.get key = value)
    (present : value ≠ .null) : d.getD key default = value := by
  unfold Dict.get at found
  cases looked : d.lookup key with
  | none =>
    rw [looked] at found
    exact (present found.symm).elim
  | some stored =>
    rw [looked] at found
    rw [Dict.getD, looked]
    exact found

theorem int_or_zero (n : ℤ) : (Json.int n).orElse (.int 0) = .int n := by
  by_cases zero : n = 0 <;> simp [Json.orElse, Json.truthy, zero]

theorem obj_or_empty (fields : Dict) : (Json.obj fields).orElse (.obj []) = .obj fields := by
  cases fields <;> simp [Json.orElse, Json.truthy]

/-- A text that is looked up under one key or under the other. -/
theorem str_or_either (text default : String) :
    ((Json.str text).orElse .null).orElse (.str default) =
      (Json.null.orElse (.str text)).orElse (.str default) := by
  by_cases empty : text = "" <;> simp [Json.orElse, Json.truthy, empty]

/-- What the evaluator makes of its event agrees with `case_data`, but for the key of the
retry count. -/
theorem normalize_same (same : SameFailure context case event) :
    ∃ normalized, normalizeEvent event = .ok normalized ∧ SameLookups case.toDict normalized ∧
      priorRetryCountOf normalized = .ok (max 0 case.retryCount) ∧
      parseTimestamp context (.json (normalized.get "timestamp")) = utcDatetime case.timestamp := by
  obtain ⟨metadata, found, prior, others⟩ := same.metadata
  obtain ⟨text, stamped, parsed⟩ := same.timestamp
  have source : event.getD "error_source" (.str "unknown") = .str case.source :=
    get_d_of_get same.source (by simp)
  have reason : event.getD "error_reason" (.str "unknown") = .str case.reason :=
    get_d_of_get same.reason (by simp)
  have counted : metadata.getD "prior_retry_count" (.int 0) = .int case.retryCount :=
    get_d_of_get prior (by simp)
  have normal : ∃ normalized : Dict, normalizeEvent event = .ok normalized ∧
      normalized.get "amount_paise" = .int case.amountPaise ∧
      normalized.get "customer" = .obj case.customer ∧
      normalized.get "error_source" = .str case.source ∧ normalized.get "source" = .null ∧
      normalized.get "error_reason" = .str case.reason ∧ normalized.get "reason" = .null ∧
      normalized.get "failure_category" = .null ∧ normalized.get "category" = .null ∧
      normalized.get "metadata" = .obj metadata ∧
      normalized.get "prior_retry_count" = .int case.retryCount ∧ normalized.get "timestamp" = .str text := by
    simp only [normalizeEvent, same.amount, same.customer, found, int_or_zero, obj_or_empty, Json.pyInt,
      Json.asDict, ok_bind, counted, source, reason, stamped]
    exact ⟨_, rfl, rfl, rfl, rfl, rfl, rfl, rfl, rfl, rfl, rfl, rfl, rfl⟩
  obtain ⟨normalized, normalizes, amount, customer, source, noSource, reason, noReason, noCategory, noCategory',
    metadata_, retried, stamp⟩ := normal
  have sources : sourceOf normalized = sourceOf case.toDict := by
    simp only [sourceOf, source, noSource]
    exact congrArg enumValue (str_or_either case.source "unknown")
  have reasons : reasonText normalized = reasonText case.toDict := by
    simp only [reasonText, reason, noReason]
    exact congrArg Json.pyStr (str_or_either case.reason unknownLabel)
  refine ⟨normalized, normalizes, ?_, ?_, ?_⟩
  · constructor
    · rw [amount]
      rfl
    · rw [customer]
      rfl
    · exact sources
    · exact reasons
    · have inferred : categoryOf normalized =
          inferFailureCategory (sourceOf normalized) (reasonOf normalized) := by
        simp only [categoryOf, noCategory, noCategory']
        rfl
      rw [inferred, sources, reasonOf, reasons, same.category, reasonOf]
    · rw [metadataOf, metadata_]
      exact others "bank_name" (by decide)
    · rw [metadataOf, metadata_]
      exact others "payment_method" (by decide)
  · simp only [priorRetryCountOf, retried, int_or_zero, Json.pyInt, ok_bind]
    rfl
  · rw [stamp, parseTimestamp, parsed]
    rfl

/-! ## Live and offline -/

/-- The retry count that the metadata of a failure tells. -/
def metadataRetries (metadata : Dict) : Except String ℤ := do
  let value := metadata.getD "prior_retry_count" (metadata.getD "retry_count" (.int 0))
  return max 0 (← (value.orElse (.int 0)).pyInt)

/-- The worker's `retry_count` is under a key that the features do not look up. -/
theorem live_retries (case : CaseData) :
    priorRetryCountOf case.toDict = metadataRetries (metadataFromCase case) := rfl

/-- At a score of 95 percent it is the state that tells whether the gateway is degraded. -/
theorem degraded_by_state {health : HealthDict} (told : health.gatewayIsDegraded.or health.isDegraded = none)
    (score : healthScoreOf health = 95 / 100) :
    degradedOf health = decide (lower ((health.state.filter (· ≠ "")).getD "closed") ∈
      ["open", "half_open", "degraded", "down"]) := by
  unfold degradedOf
  rw [told, score, decide_eq_false (show ¬ (95 / 100 : ℚ) < 90 / 100 by norm_num)]
  exact Bool.or_false _

/-- Without a snapshot the features say what they say of a closed circuit with a success
rate of 95 percent. -/
theorem no_health_iff (snapshot : GatewayHealthSnapshot) :
    (healthScoreOf {} = healthScoreOf snapshot.dump ∧ degradedOf {} = degradedOf snapshot.dump) ↔
      snapshot.successRate = 95 / 100 ∧ snapshot.state = .closed := by
  have score : healthScoreOf {} = healthScoreOf snapshot.dump ↔ snapshot.successRate = 95 / 100 := by
    simp only [healthScoreOf, GatewayHealthSnapshot.dump, Option.getD_none, Option.getD_some]
    grind
  have unknown : healthScoreOf {} = 95 / 100 := by norm_num [healthScoreOf]
  rw [score]
  refine and_congr_right fun rate => ?_
  have healthy : healthScoreOf snapshot.dump = 95 / 100 := by rw [← score.mpr rate, unknown]
  have closed (state : GatewayHealthState) :
      false = decide (lower (((some state.value).filter (· ≠ "")).getD "closed") ∈
        ["open", "half_open", "degraded", "down"]) ↔ state = .closed := by
    cases state <;> decide
  rw [degraded_by_state rfl unknown, degraded_by_state rfl healthy]
  exact closed snapshot.state

/-- The worker and the evaluator score one failure alike exactly if its metadata tells the
retry count of its row and the circuit is closed with a success rate of 95 percent. -/
theorem same_features_iff {row : RecoveryCase} {approval : Option RecoveryApproval} {built t : RecoveryState}
    {d : Deployment} {decision : DecisionInputs} {clock : PolicyClock} {finish : FinishInputs}
    {snapshot : GatewayHealthSnapshot} (rebuilt : buildState row approval = .ok built)
    (visited : Visits d decision clock finish built .enrichMl t)
    (same : SameFailure context built.caseData event)
    (snapped : healthSnapshot decision built.caseData = snapshot)
    (evaluated : evaluatedFeatures context event snapshot.dump = .ok features) :
    scoredFeatures context t = .ok features ↔
      snapshot.successRate = 95 / 100 ∧ snapshot.state = .closed ∧
        metadataRetries (metadataFromCase built.caseData) = .ok (max 0 row.retryCount) := by
  cases visits_handed visited
  obtain ⟨noHealth, counted⟩ : built.gatewayHealth = none ∧ built.caseData.retryCount = row.retryCount := by
    obtain ⟨_, _, rfl⟩ := bind_pure_ok.mp rebuilt
    exact ⟨rfl, rfl⟩
  obtain ⟨normalized, normalizes, lookups, prior, stamped⟩ := normalize_same same
  unfold evaluatedFeatures at evaluated
  rw [normalizes, ok_bind] at evaluated
  unfold scoredFeatures
  rw [noHealth, extract_features_iff lookups stamped evaluated, prior, counted, ← and_assoc, ← and_assoc,
    ← no_health_iff]
  rfl

/-- The health that the evaluator simulates is never the one that the worker scores with. -/
theorem simulated_apart {row : RecoveryCase} {approval : Option RecoveryApproval} {built t : RecoveryState}
    {d : Deployment} {decision : DecisionInputs} {clock : PolicyClock} {finish : FinishInputs}
    {normalized : Dict} (rebuilt : buildState row approval = .ok built)
    (visited : Visits d decision clock finish built .enrichMl t)
    (evaluated : evaluatedFeatures context event (simulateGatewayHealth normalized) = .ok features) :
    scoredFeatures context t ≠ .ok features := by
  intro scored
  cases visits_handed visited
  have noHealth : built.gatewayHealth = none := by
    obtain ⟨_, _, rfl⟩ := bind_pure_ok.mp rebuilt
    rfl
  obtain ⟨_, _, extracted⟩ := bind_ok.mp evaluated
  have live := (extracted_features scored).score
  have simulated := (extracted_features extracted).score
  rw [noHealth] at live
  rw [live] at simulated
  simp only [healthScoreOf, simulateGatewayHealth, Option.map_none, Option.getD_none,
    Option.getD_some] at simulated
  split at simulated
  · norm_num at simulated
  split at simulated <;> norm_num at simulated

/-- The failure of `sampleCase`, as a batch file tells it. -/
def sampleEvent (caseId : String) (amountPaise retryCount : ℤ) : Dict :=
  [("event_id", .str caseId), ("amount_paise", .int amountPaise), ("error_source", .str "bank"),
   ("error_reason", .str "insufficient_funds"),
   ("customer", .obj [("phone", .str "+919900000000"), ("email", .str "payer@example.com")]),
   ("timestamp", .str "2026-09-04T05:33:20Z"),
   ("metadata", .obj [("prior_retry_count", .int retryCount)])]

/-- The encoders know no bank and no reason; the logarithms and the time are those of
the sample. -/
def sampleContext : FeatureContext where
  labelClasses _ := some [unknownLabel]
  lower := lower
  log10 n := if n = 100000 then 5 else 0
  fromIsoFormat _ := some (utcDatetime 1788500000000000)
  now := utcDatetime 0

/-- The keys of `case_data` that its category depends on. -/
def failureOf (category source reason : String) : Dict :=
  [("category", .str category), ("source", .str source), ("reason", .str reason)]

theorem category_to_dict (case : CaseData) :
    categoryOf case.toDict = categoryOf (failureOf case.category case.source case.reason) := rfl

theorem source_to_dict (case : CaseData) :
    sourceOf case.toDict = sourceOf (failureOf case.category case.source case.reason) := rfl

theorem reason_to_dict (case : CaseData) :
    reasonOf case.toDict = reasonOf (failureOf case.category case.source case.reason) := rfl

/-- The sample after this many retries. -/
theorem sample_same (retryCount : ℤ) : ∃ built,
    buildState { sampleCase "REC-00000007" 100000 with retryCount } none = .ok built ∧
    SameFailure sampleContext built.caseData (sampleEvent "REC-00000007" 100000 retryCount) ∧
    built.caseData.metadata = .obj [] := by
  refine ⟨_, rfl, ?_, rfl⟩
  constructor
  · rfl
  · rfl
  · rfl
  · rfl
  · let failure := failureOf "customer" "bank" "insufficient_funds"
    have inferred : categoryOf failure = inferFailureCategory (sourceOf failure) (reasonOf failure) := by decide
    rw [category_to_dict, source_to_dict, reason_to_dict]
    exact inferred
  · refine ⟨_, rfl, rfl, fun key other => ?_⟩
    rw [Dict.get, List.lookup_cons, beq_eq_false_iff_ne.mpr other]
    rfl
  · exact ⟨_, rfl, rfl⟩

/-- With no monitor to ask, a first failure is scored alike. -/
theorem same_features_unmonitored : ∃ built features,
    buildState (sampleCase "REC-00000007" 100000) none = .ok built ∧
    evaluatedFeatures sampleContext (sampleEvent "REC-00000007" 100000 0) (healthyDefault built.caseData).dump =
      .ok features ∧ scoredFeatures sampleContext built = .ok features := by
  obtain ⟨built, rebuilt, same, bare⟩ := sample_same 0
  let down := { sampleDecision .closed "stop" with unifiedHealth := .error "ConnectionError" }
  have visited : Visits sampleDeployment down (sampleClock 0) (sampleFinish 0 "") built .enrichMl built :=
    .start
  obtain ⟨features, evaluated⟩ : ∃ features, evaluatedFeatures sampleContext
      (sampleEvent "REC-00000007" 100000 0) (healthyDefault built.caseData).dump = .ok features := ⟨_, rfl⟩
  refine ⟨built, features, rebuilt, evaluated, ?_⟩
  refine (same_features_iff rebuilt visited same rfl evaluated).mpr ⟨rfl, rfl, ?_⟩
  rw [metadataFromCase, bare]
  rfl

/-- The worker and the evaluator score every failure alike. -/
def SameFeatures : Prop :=
  ∀ d decision clock finish context row approval built t event snapshot features,
    buildState row approval = .ok built → Visits d decision clock finish built .enrichMl t →
    SameFailure context built.caseData event → healthSnapshot decision built.caseData = snapshot →
    evaluatedFeatures context event snapshot.dump = .ok features → scoredFeatures context t = .ok features

/-- A case that has been retried once is scored as if it had not been. -/
theorem retried_scored_as_new : ¬ SameFeatures := by
  intro alike
  obtain ⟨built, rebuilt, same, bare⟩ := sample_same 1
  let down := { sampleDecision .closed "stop" with unifiedHealth := .error "ConnectionError" }
  have visited : Visits sampleDeployment down (sampleClock 0) (sampleFinish 0 "") built .enrichMl built :=
    .start
  obtain ⟨features, evaluated, retried⟩ : ∃ features, evaluatedFeatures sampleContext
      (sampleEvent "REC-00000007" 100000 1) (healthyDefault built.caseData).dump = .ok features ∧
      features.priorRetryCount = 1 := ⟨_, rfl, rfl⟩
  have scored := alike _ _ _ _ _ _ _ _ _ _ _ _ rebuilt visited same rfl evaluated
  have forgotten : priorRetryCountOf built.caseData.toDict = .ok 0 := by
    rw [live_retries, metadataFromCase, bare]
    rfl
  have told := (extracted_features scored).retries
  rw [forgotten, retried] at told
  cases told

end RevenueGuard.FeatureProofs
