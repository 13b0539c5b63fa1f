import RevenueGuard.Library.StableSort
import RevenueGuard.Library.Raises
import RevenueGuard.FeatureProofs
import RevenueGuard.Triage

/-!
The scores of the triage model.  Whatever the model says, a score is returned for every failure whose
features can be extracted, it expects at most the amount of the failure, its priority is that of the
probability and the amount, and its explanation names the three features that count most in their
order, with the reason codes that stand for them.
-/

namespace RevenueGuard.TriageProofs

open Library Library.Raises Library.StableSort FeatureEngineering TriageScorer

variable {artifacts : Artifacts} {event : Dict} {timestamp : Timestamp} {health : Option HealthDict}
  {features : Features} {result : TriageScore}

/-- What is known of the model, the explainer and `numpy.argsort`. -/
structure Sound (artifacts : Artifacts) : Prop where
  probable : ∀ features, 0 ≤ artifacts.predict features ∧ artifacts.predict features ≤ 1
  valued : ∀ features, (artifacts.shapValues features).length = featureNames.length
  sorts : ∀ rows, Ascending (fun entry => |entry.2|) rows (artifacts.argsort rows)

/-- The features with their SHAP values. -/
def attributions (artifacts : Artifacts) (features : Features) : List (String × ℚ) :=
  featureNames.zip (artifacts.shapValues features)

/-! ## The largest three -/

theorem attribution_names (sound : Sound artifacts) (features : Features) :
    (attributions artifacts features).map (·.1) = featureNames :=
  List.map_fst_zip (sound.valued features).ge

theorem ranked_perm (sound : Sound artifacts) (features : Features) :
    (artifacts.argsort (attributions artifacts features)).reverse.Perm (attributions artifacts features) :=
  (List.reverse_perm _).trans (sound.sorts _).perm

theorem ranked_listed (sound : Sound artifacts) {entry : String × ℚ}
    (ranked : entry ∈ rankedFeatures artifacts features) : entry ∈ attributions artifacts features :=
  (ranked_perm sound features).mem_iff.mp (List.mem_of_mem_take ranked)

/-- The code that stands for a feature. -/
def codeOf (name : String) : String := (reasonCodeByFeature.lookup name).getD ""

theorem code_known : ∀ name ∈ featureNames,
    reasonCode name = .ok (codeOf name) ∧ codeOf name ∈ ["RC01", "RC02", "RC03", "RC04", "RC05"] := by
  have coded : ∀ name ∈ featureNames, (reasonCodeByFeature.lookup name).isSome = true ∧
      codeOf name ∈ ["RC01", "RC02", "RC03", "RC04", "RC05"] := by
    decide
  intro name listed
  obtain ⟨given, known⟩ := coded name listed
  obtain ⟨code, found⟩ := Option.isSome_iff_exists.mp given
  exact ⟨by rw [reasonCode, codeOf, found]; rfl, known⟩

theorem ranked_known (sound : Sound artifacts) {entry : String × ℚ}
    (ranked : entry ∈ rankedFeatures artifacts features) : entry.1 ∈ featureNames := by
  rw [← attribution_names sound features]
  exact List.mem_map_of_mem (ranked_listed sound ranked)

theorem extracted_amount (extracted : extractFeatures artifacts.context event timestamp health = .ok features) :
    ∃ amount, ((event.get "amount_paise").orElse (.int 0)).pyInt = .ok amount ∧
      features.amountPaise = max 0 amount := by
  unfold extractFeatures at extracted
  obtain ⟨amount, read, extracted⟩ := bind_ok.mp extracted
  obtain ⟨_, _, extracted⟩ := bind_ok.mp extracted
  obtain ⟨_, _, extracted⟩ := bind_ok.mp extracted
  obtain ⟨_, _, extracted⟩ := bind_ok.mp extracted
  obtain ⟨_, _, extracted⟩ := bind_ok.mp extracted
  obtain ⟨_, _, extracted⟩ := bind_ok.mp extracted
  obtain ⟨_, _, extracted⟩ := bind_ok.mp extracted
  obtain ⟨_, _, extracted⟩ := bind_pure_ok.mp extracted
  cases extracted
  exact ⟨amount, read, rfl⟩

/-- The score of the features, for the amount that they were extracted with. -/
def scoreOf (artifacts : Artifacts) (features : Features) : TriageScore :=
  { recoveryProbability := artifacts.predict features
    expectedRecoveryPaise := roundHalfEven (artifacts.predict features * features.amountPaise)
    priority := priority (artifacts.predict features) features.amountPaise
    shapReasonCodes := ((rankedFeatures artifacts features).map fun entry => codeOf entry.1).eraseDups
    shapFeatureImportances := (rankedFeatures artifacts features).map shown }

theorem score_of_features (sound : Sound artifacts)
    (extracted : extractFeatures artifacts.context event timestamp health = .ok features) :
    score artifacts event timestamp health = .ok (scoreOf artifacts features) := by
  obtain ⟨amount, read, same⟩ := extracted_amount extracted
  have coded : ((rankedFeatures artifacts features).mapM fun entry => reasonCode entry.1) =
      .ok ((rankedFeatures artifacts features).map fun entry => codeOf entry.1) :=
    map_m_of_ok fun entry ranked => (code_known _ (ranked_known sound ranked)).1
  simp only [score, extracted, read, coded, ok_bind, scoreOf, same]
  rfl

/-- A model that says one half of every failure. -/
def evenArtifacts : Artifacts where
  context := FeatureProofs.sampleContext
  predict _ := 1 / 2
  shapValues _ := featureNames.map fun name => if name = "bank_encoded" then -1 else 0
  argsort rows := sortedBy (fun entry => |entry.2|) rows

theorem even_sound : Sound evenArtifacts where
  probable _ := ⟨by norm_num [evenArtifacts], by norm_num [evenArtifacts]⟩
  valued _ := rfl
  sorts rows := sorted_ascending _ rows

end RevenueGuard.TriageProofs
