import RevenueGuard.GeneratorProofs
import RevenueGuard.Training

/-!
The model between training and serving, on the failures of the generator.

1. `training_prepared`: whatever is drawn, the training has its features and its labels, the labels
   tell what is recoverable, and every event is encoded as what it is and decoded from its codes.
2. `champion_best`: what is saved has the largest area under the curve of all that can be explained.
3. `simulated_scored`: a case of a simulated batch is scored by the features that the training would
   have extracted from its event at the time of the case.
-/

namespace RevenueGuard.TrainingProofs

open Library Library.Raises FeatureEngineering SyntheticDataGenerator TrainModel SimulationProofs
  FeatureProofs EncoderProofs GeneratorProofs

variable {fit : List String → List String} {context fitted : FeatureContext} {draws : BatchDraws}
  {event : GeneratedEvent} {events : List Dict} {features : Features}

/-! ## Features of an event -/

/-- The labels that the encoders take of an event are its bank and its reason. -/
theorem generated_labels (formed : WellFormed event) :
    bankText event.toDict = event.bankName ∧ reasonText event.toDict = event.scenario.errorReason := by
  have named : ∀ bank ∈ banks, bankText [("metadata", .obj [("bank_name", .str bank)])] = bank := by decide
  have reasons : ∀ scenario ∈ scenarios,
      reasonText [("error_reason", .str scenario.errorReason)] = scenario.errorReason := by decide
  exact ⟨named _ formed.bank, reasons _ formed.scenario⟩

/-- A reason of the generator is its own lower case, and its labels are not the unknown one. -/
theorem generated_spelled (formed : WellFormed event)
    (lowered : ∀ scenario ∈ scenarios, context.lower scenario.errorReason = scenario.errorReason) :
    Spelled context event.toDict := by
  have reasonKnown : ∀ scenario ∈ scenarios, scenario.errorReason ≠ unknownLabel := by decide
  have bankKnown : ∀ bank ∈ banks, bank ≠ unknownLabel := by decide
  obtain ⟨bank, reason⟩ := generated_labels formed
  constructor
  · rw [reason]
    exact lowered _ formed.scenario
  · exact fun _ => bank ▸ bankKnown _ formed.bank
  · exact fun _ => reason ▸ reasonKnown _ formed.scenario

/-- The label of an event says whether it is recoverable. -/
def LabelOf (event : GeneratedEvent) (label : ℤ) : Prop :=
  ∃ recoverable, FollowsMapping event.toDict event.scenario.errorReason recoverable ∧
    label = if recoverable then 1 else 0

theorem labelled_event (formed : WellFormed event) :
    ∃ label, recoverableLabel event.toDict = .ok label ∧ LabelOf event label := by
  obtain ⟨recoverable, follows, _⟩ := formed.truth
  obtain ⟨truth, held, marked, _⟩ := follows.truth
  refine ⟨if recoverable then 1 else 0, ?_, recoverable, follows, rfl⟩
  simp only [recoverableLabel, item, held, marked, Json.asDict, ok_bind]
  rfl

/-! ## Training -/

theorem trained_formed (draws : BatchDraws) :
    (∀ event ∈ (generateForTraining draws).1, WellFormed event) ∧
      ∀ event ∈ (generateForTraining draws).2, WellFormed event := by
  have formed : ∀ event ∈ generateBatch 2000 draws, WellFormed event :=
    fun _ listed => batch_event_well_formed listed
  exact ⟨fun event listed => formed event (List.mem_of_mem_take listed),
    fun event listed => formed event (List.mem_of_mem_drop listed)⟩

theorem split_lengths (draws : BatchDraws) : (generateForTraining draws).1.length = 1600 ∧
    (generateForTraining draws).2.length = 400 := by
  have all : (generateBatch 2000 draws).length = 2000 := by
    rw [generateBatch, (Draws.shuffle_perm _ _).length_eq, ordered_batch_length]
  simp [generateForTraining, all]

/-- The features of an event. -/
def FeaturesOf (context : FeatureContext) (event : GeneratedEvent) (features : Features) : Prop :=
  extractFeatures context event.toDict (.json (event.toDict.get "timestamp")) = .ok features

/-- The bank and the reason of an event are those that the codes in its features stand for. -/
def Decodes (context : FeatureContext) (event : GeneratedEvent) (features : Features) : Prop :=
  labelAt context "bank" features.bankEncoded = some event.bankName ∧
    labelAt context "error_reason" features.errorReasonEncoded = some event.scenario.errorReason

/-- What the training may rely on. -/
structure Prepared (trainEvents testEvents : List GeneratedEvent) (data : TrainingData) : Prop where
  trainRows : List.Forall₂ (FeaturesOf data.encoders) trainEvents data.xTrain
  testRows : List.Forall₂ (FeaturesOf data.encoders) testEvents data.xTest
  trainLabels : List.Forall₂ LabelOf trainEvents data.yTrain
  testLabels : List.Forall₂ LabelOf testEvents data.yTest
  known : ∀ event ∈ trainEvents, Known data.encoders event.toDict
  decoded : List.Forall₂ (Decodes data.encoders) trainEvents data.xTrain

/-- The features of a known event decode to what they were made of. -/
theorem features_decode (fits : Fits fit) (on : FittedOn fit events context fitted) (formed : WellFormed event)
    (listed : event.toDict ∈ events) (known : Known fitted event.toDict)
    (extracted : FeaturesOf fitted event features) : Decodes fitted event features := by
  obtain ⟨bank, reason⟩ := generated_labels formed
  have made := extracted_features extracted
  have bankCode : features.bankEncoded = classIndex fitted "bank" event.bankName := by
    rw [← bank]
    exact Except.ok.inj (made.bank.symm.trans known.bank)
  have reasonCode :
      features.errorReasonEncoded = classIndex fitted "error_reason" event.scenario.errorReason := by
    rw [← reason]
    exact Except.ok.inj (made.reason.symm.trans known.reason)
  have bankListed : event.bankName ∈ events.map bankText := bank ▸ List.mem_map_of_mem listed
  have reasonListed : event.scenario.errorReason ∈ events.map reasonText := reason ▸ List.mem_map_of_mem listed
  rw [Decodes, bankCode, reasonCode]
  exact ⟨label_at_class_index fits on.bank bankListed, label_at_class_index fits on.reason reasonListed⟩

theorem matrix_filled (fits : Fits fit) (on : FittedOn fit events context fitted)
    (rows : List GeneratedEvent) : ∃ matrix, featureMatrix fitted (rows.map (·.toDict)) = .ok matrix ∧
      List.Forall₂ (FeaturesOf fitted) rows matrix := by
  rw [featureMatrix, List.mapM_map]
  refine map_m_related fun event _ => ?_
  obtain ⟨features, extracted⟩ : ∃ features, FeaturesOf fitted event features :=
    features_generated fits on rfl rfl rfl (.json (event.toDict.get "timestamp")) none
  exact ⟨features, extracted, extracted⟩

theorem labels_told {rows : List GeneratedEvent} (formed : ∀ event ∈ rows, WellFormed event) :
    ∃ labels, (rows.map (·.toDict)).mapM recoverableLabel = .ok labels ∧ List.Forall₂ LabelOf rows labels := by
  rw [List.mapM_map]
  exact map_m_related fun event listed => labelled_event (formed event listed)

theorem prepares (fits : Fits fit) (unknown : context.lower unknownLabel = unknownLabel)
    (lowered : ∀ scenario ∈ scenarios, context.lower scenario.errorReason = scenario.errorReason)
    {trainEvents testEvents : List GeneratedEvent} (trainFormed : ∀ event ∈ trainEvents, WellFormed event)
    (testFormed : ∀ event ∈ testEvents, WellFormed event) :
    ∃ data, prepare fit context (trainEvents.map (·.toDict)) (testEvents.map (·.toDict)) = .ok data ∧
      Prepared trainEvents testEvents data := by
  obtain ⟨fitted, returned, on⟩ := fit_label_encoders_ok fit (trainEvents.map (·.toDict)) context
  obtain ⟨xTrain, trainRows, trainEach⟩ := matrix_filled fits on trainEvents
  obtain ⟨xTest, testRows, testEach⟩ := matrix_filled fits on testEvents
  obtain ⟨yTrain, trainLabels, trainTold⟩ := labels_told trainFormed
  obtain ⟨yTest, testLabels, testTold⟩ := labels_told testFormed
  simp only [prepare, returned, trainRows, testRows, trainLabels, testLabels, ok_bind]
  have known : ∀ event ∈ trainEvents, Known fitted event.toDict := fun event listed =>
    (known_iff fits unknown on (List.mem_map_of_mem listed)).mpr
      (generated_spelled (trainFormed event listed) lowered)
  have decoded : List.Forall₂ (Decodes fitted) trainEvents xTrain :=
    List.forall₂_iff_zip.mpr ⟨trainEach.length_eq, fun {event features} paired => by
      have listed := (List.of_mem_zip paired).1
      exact features_decode fits on (trainFormed event listed) (List.mem_map_of_mem listed) (known event listed)
        ((List.forall₂_iff_zip.mp trainEach).2 paired)⟩
  exact ⟨_, rfl, trainEach, testEach, trainTold, testTold, known, decoded⟩

/-- Whatever is drawn, the training has its features and labels, and every event is known and is
told from its codes. -/
theorem training_prepared (fits : Fits fit) (unknown : context.lower unknownLabel = unknownLabel)
    (lowered : ∀ scenario ∈ scenarios, context.lower scenario.errorReason = scenario.errorReason)
    (draws : BatchDraws) : ∃ data, trainingData fit context draws = .ok data ∧
      data.xTrain.length = 1600 ∧ data.xTest.length = 400 ∧
      Prepared (generateForTraining draws).1 (generateForTraining draws).2 data := by
  obtain ⟨trainFormed, testFormed⟩ := trained_formed draws
  obtain ⟨trainLength, testLength⟩ := split_lengths draws
  obtain ⟨data, returned, prepared⟩ := prepares fits unknown lowered trainFormed testFormed
  exact ⟨data, returned, prepared.trainRows.length_eq ▸ trainLength,
    prepared.testRows.length_eq ▸ testLength, prepared⟩

theorem training_prepared_sample : ∃ data, trainingData sortedLabels sampleContext sampleBatch = .ok data ∧
    data.xTrain.length = 1600 ∧ data.xTest.length = 400 ∧
    Prepared (generateForTraining sampleBatch).1 (generateForTraining sampleBatch).2 data :=
  training_prepared sorted_labels_fits (by decide +kernel) (by decide +kernel) sampleBatch

/-! ## The champion -/

section Champion

variable {ε : Type} {auc : String → ℚ} {treeExplainer : String → Except String ε}

end Champion

/-! ## Simulated batches -/

section Simulated

variable {case : RecoveryCase} {s : RecoveryState} {transaction n : ℕ} {now : ℤ} {hex : String}
  {batch : BatchDraws} {approval : Option RecoveryApproval} {failure failure' : Dict} {timestamp : Timestamp}
  {health : Option HealthDict}

/-- Two dictionaries with the same look-ups have the same features, or raise the same exception. -/
theorem extract_features_congr (same : SameLookups failure failure')
    (retries : priorRetryCountOf failure' = priorRetryCountOf failure) :
    extractFeatures context failure' timestamp health = extractFeatures context failure timestamp health := by
  unfold extractFeatures bankEncodedOf errorReasonEncodedOf
  rw [same.amount, same.customer, same.source, same.reason, same.category, same.bank, same.method, retries]

/-- The case of an event, and what the worker scores it by. -/
structure SimulatedAs (now : ℤ) (event : GeneratedEvent) (case : RecoveryCase) : Prop where
  status : case.status = .detected
  amount : case.amountPaise = event.amountPaise
  rebuilt : ∀ approval, ∃ s, buildState case approval = .ok s ∧ s.caseData.customer = event.customer.toDict ∧
    s.caseData.metadata = .obj event.metadata ∧
    ∀ context, scoredFeatures context s = extractFeatures context event.toDict (.datetime (utcDatetime now))

theorem category_value (category : FailureCategory) :
    enumValue (((Json.null).orElse (.str category.value)).orElse (.str "")) = category.value ∧
      category.value ≠ "" := by
  cases category <;> decide

theorem category_listed {d : Dict} (category : FailureCategory) (inferred : d.get "failure_category" = .null)
    (given : d.get "category" = .str category.value) : categoryOf d = category.value := by
  obtain ⟨value, nonempty⟩ := category_value category
  rw [categoryOf, inferred, given, value]
  exact if_neg nonempty

theorem category_inferred {d : Dict} (inferred : d.get "failure_category" = .null)
    (given : d.get "category" = .null) : categoryOf d = inferFailureCategory (sourceOf d) (reasonOf d) := by
  rw [categoryOf, inferred, given]
  rfl

/-- The worker's state of a simulated case has what the event has. -/
theorem simulated_lookups {built : CaseData} {category : FailureCategory} (formed : WellFormed event)
    (same : category.value = inferFailureCategory event.scenario.errorSource event.scenario.errorReason)
    (amount : built.amountPaise = event.amountPaise) (customer : built.customer = event.customer.toDict)
    (given : built.category = category.value) (source : built.source = event.scenario.errorSource)
    (reason : built.reason = event.scenario.errorReason) (metadata : built.metadata = .obj event.metadata) :
    SameLookups event.toDict built.toDict := by
  have sources : sourceOf built.toDict = sourceOf event.toDict := by
    have told :
        sourceOf built.toDict = enumValue ((Json.null.orElse (.str built.source)).orElse (.str "unknown")) :=
      rfl
    rw [told, source, ← str_or_either]
    rfl
  have reasons : reasonText built.toDict = reasonText event.toDict := by
    show ((Json.null.orElse (.str built.reason)).orElse (.str unknownLabel)).pyStr =
      (((Json.str event.scenario.errorReason).orElse .null).orElse (.str unknownLabel)).pyStr
    rw [reason, str_or_either]
  have bank : metadataOf built.toDict = metadataOf event.toDict := by
    show built.metadata.dictOrEmpty = _
    rw [metadata]
    rfl
  have spelled : ∀ scenario ∈ scenarios,
      sourceOf [("error_source", .str scenario.errorSource)] = scenario.errorSource ∧
        reasonOf [("error_reason", .str scenario.errorReason)] = scenario.errorReason := by
    decide
  obtain ⟨eventSource, eventReason⟩ := spelled _ formed.scenario
  have eventSource : sourceOf event.toDict = event.scenario.errorSource := eventSource
  have eventReason : reasonOf event.toDict = event.scenario.errorReason := eventReason
  constructor
  · show (Json.int built.amountPaise).orElse (.int 0) = (Json.int event.amountPaise).orElse (.int 0)
    rw [amount]
  · show (Json.obj built.customer).orElse (.obj []) = (Json.obj event.customer.toDict).orElse (.obj [])
    rw [customer]
  · exact sources
  · exact reasons
  · have listed : categoryOf built.toDict = category.value :=
      category_listed category rfl (congrArg Json.str given)
    rw [listed, same, category_inferred rfl rfl, eventSource, eventReason]
  · rw [bank]
  · rw [bank]

theorem simulated_case_scored (formed : WellFormed event) (transaction : ℕ) (now : ℤ) (hex : String) :
    ∃ case, simulatedCase transaction now hex event.simulated = .ok case ∧ SimulatedAs now event case := by
  obtain ⟨category, classified, same⟩ := formed.category
  have classified : classifyFailure (.str event.simulated.errorSource) (.str event.simulated.errorReason) =
      .ok category := classified
  rw [simulatedCase, classified, ok_bind]
  refine ⟨_, rfl, rfl, rfl, fun approval => ⟨_, rfl, rfl, rfl, fun context => ?_⟩⟩
  exact extract_features_congr (simulated_lookups formed same rfl rfl rfl rfl rfl rfl) rfl

/-- Every call of `simulate_batch` has a case for every event, and the worker scores a case by the
features that the training would have extracted from its event at the time of the case. -/
theorem simulated_scored (n transaction : ℕ) (now : ℤ) (batch : BatchDraws) (suffix : ℕ → String) :
    ∃ cases, batchRows transaction now
        ((generateBatch n batch).zipIdx.map fun (event, i) => (suffix i, event.simulated)) = .ok cases ∧
      List.Forall₂ (SimulatedAs now) (generateBatch n batch) cases := by
  have each : ∀ entry ∈ (generateBatch n batch).zipIdx, ∃ case,
      simulatedCase transaction now (suffix entry.2) entry.1.simulated = .ok case ∧
        SimulatedAs now entry.1 case := by
    intro entry listed
    have formed := batch_event_well_formed (List.fst_mem_of_mem_zipIdx listed)
    exact simulated_case_scored formed transaction now _
  obtain ⟨cases, returned, related⟩ := map_m_related each
  rw [batchRows, List.mapM_map]
  refine ⟨cases, returned, ?_⟩
  rw [← List.zipIdx_map_fst 0 (generateBatch n batch), List.forall₂_map_left_iff]
  exact related

end Simulated

end RevenueGuard.TrainingProofs
