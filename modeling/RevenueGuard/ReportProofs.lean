import RevenueGuard.EvaluationRun
import RevenueGuard.GeneratorProofs
import RevenueGuard.MetricsProofs

/-!
What the report of an evaluation can tell, and what it cannot.

1. `batch_reported`: on every batch of the generator the evaluation comes to a report, and its figures
   are those of the events: what is at risk, what is recoverable, who is in which arm, and of the
   recovered amounts those whose rows say so.
2. `report_blind`: on any file, two models give the same figures whenever they agree on which
   probabilities reach 0.35 and which reach 0.5.  A row shows the probability and the action that it
   led to, and nothing else of the report tells the two models apart.
-/

namespace RevenueGuard.ReportProofs

open Library Library.Raises BatchEvaluator ExperimentAnalyzer AnalyzerProofs MetricsProofs SyntheticDataGenerator
  GeneratorProofs EncoderProofs FeatureEngineering

variable {α : Type} [Field α] [LinearOrder α] {rows rows' : List EvaluationRow} {row row' : EvaluationRow}
  {score score' : Dict → HealthDict → Except String ℚ} {p p' : ℚ} {event normalized : Dict}

/-! ## Models that agree -/

/-- Two probabilities on the same sides of the two thresholds. -/
structure SameSides (p p' : ℚ) : Prop where
  recovers : 35 / 100 ≤ p ↔ 35 / 100 ≤ p'
  predicts : 1 / 2 ≤ p ↔ 1 / 2 ≤ p'

/-- Rows that differ in their probabilities and actions at most. -/
def SameFigures (row row' : EvaluationRow) : Prop :=
  row' = { row with probability := row'.probability, actionType := row'.actionType }

/-- Where both probabilities are above the agent's limit, it chooses alike. -/
theorem agent_decides_alike {health : HealthDict} (likely : 15 / 100 < p) (likely' : 15 / 100 < p') :
    agentDecide normalized health p = agentDecide normalized health p' := by
  simp only [agentDecide, not_le.mpr likely, not_le.mpr likely', or_false]

/-- Below 0.35 the agent recovers nothing. -/
theorem unlikely_unrecovered {truth : Dict} {actionType : ActionType} {actual : Bool}
    (dict : (event.getD "ground_truth" (.obj [])).asDict = .ok truth) (unlikely : ¬ 35 / 100 ≤ p) :
    simulateAgentRecovery event actionType p actual = .ok false := by
  unfold simulateAgentRecovery
  split
  · rfl
  · rw [dict, ok_bind, decide_eq_false unlikely]
    simp only [Bool.and_false]
    rfl

theorem simulate_arm_alike {truth : Dict} {health : HealthDict} {actual : Bool} (same : SameSides p p')
    (dict : (event.getD "ground_truth" (.obj [])).asDict = .ok truth) (arm : ExperimentArm) :
    Agree (fun judged judged' => judged.2 = judged'.2 ∧ (1 / 2 ≤ p → judged.1 = judged'.1))
      (simulateArm arm event normalized health p actual) (simulateArm arm event normalized health p' actual) := by
  cases arm with
  | control => exact .ok ⟨rfl, fun _ => rfl⟩
  | treatment =>
    by_cases likely : 35 / 100 ≤ p
    · have likely' := same.recovers.mp likely
      have decides : agentDecide normalized health p = agentDecide normalized health p' :=
        agent_decides_alike (by linarith) (by linarith)
      have recovers (actionType : ActionType) : simulateAgentRecovery event actionType p actual =
          simulateAgentRecovery event actionType p' actual := by
        rw [simulateAgentRecovery, simulateAgentRecovery, decide_eq_true likely, decide_eq_true likely']
      simp only [simulateArm, decides, recovers]
      generalize (do
        let actionType ← agentDecide normalized health p'
        return (actionType, ← simulateAgentRecovery event actionType p' actual)) = judged
      cases judged with
      | error exc => exact .error exc
      | ok judged => exact .ok ⟨rfl, fun _ => rfl⟩
    · have unlikely' := mt same.recovers.mpr likely
      have unpredicted : ¬ 1 / 2 ≤ p := fun predicted => likely (by linarith)
      simp only [simulateArm, agentDecide, unlikely_unrecovered dict likely, unlikely_unrecovered dict unlikely']
      cases ((normalized.get "customer").orElse (.obj [])).asDict with
      | error exc => exact .error exc
      | ok customer => exact .ok ⟨rfl, fun predicted => absurd predicted unpredicted⟩

/-! ## Rows and figures -/

theorem evaluate_event_alike (md5 : String → ℕ)
    (alike : ∀ normalized health, Agree SameSides (score normalized health) (score' normalized health)) :
    Agree SameFigures (evaluateEvent md5 score event) (evaluateEvent md5 score' event) := by
  unfold evaluateEvent
  refine agree_bind (agree_refl _) fun normalized _ same => ?_
  subst same
  refine agree_bind (alike _ _) fun p p' sides => ?_
  cases dict : (event.getD "ground_truth" (.obj [])).asDict with
  | error exc => exact .error exc
  | ok truth =>
    simp only [ok_bind]
    refine agree_bind (agree_refl _) fun amountPaise _ same => ?_
    subst same
    refine agree_bind (agree_refl _) fun arm _ same => ?_
    subst same
    refine agree_bind (simulate_arm_alike sides dict arm) ?_
    rintro ⟨actionType, recovered⟩ ⟨actionType', _⟩ ⟨rfl, chosen⟩
    refine .ok ?_
    have predicted : decide (1 / 2 ≤ p') = decide (1 / 2 ≤ p) := decide_eq_decide.mpr sides.predicts.symm
    have cost : (if (decide (1 / 2 ≤ p) && !(truth.getD "is_recoverable" (.bool false)).truthy) = true
        then falsePositiveCost actionType' else 0) =
        if (decide (1 / 2 ≤ p) && !(truth.getD "is_recoverable" (.bool false)).truthy) = true
        then falsePositiveCost actionType else 0 := by
      split
      · rename_i wrong
        have likely : 1 / 2 ≤ p := of_decide_eq_true (Bool.and_eq_true_iff.mp wrong).1
        have same : actionType = actionType' := chosen likely
        rw [same]
      · rfl
    simp only [SameFigures, predicted, cost]

/-- The row without its probability and its action. -/
def figures (row : EvaluationRow) : EvaluationRow := { row with probability := 0, actionType := .stop }

theorem figures_same (same : List.Forall₂ SameFigures rows rows') : rows.map figures = rows'.map figures := by
  induction same with
  | nil => rfl
  | cons first _ ih =>
    rw [List.map_cons, List.map_cons, ih, first]
    rfl

/-- No metric is made of the probabilities or the actions. -/
theorem metrics_figures (numerics : Numerics α) (rows : List EvaluationRow) :
    calculateMetrics numerics (rows.map figures) = calculateMetrics numerics rows := by
  simp only [calculateMetrics, countRows, List.map_map, List.filter_map, List.countP_map, List.length_map]
  rfl

theorem metrics_same (numerics : Numerics α) (same : List.Forall₂ SameFigures rows rows') :
    calculateMetrics numerics rows = calculateMetrics numerics rows' := by
  rw [← metrics_figures, figures_same same, metrics_figures]

/-- On any file, models that agree on who reaches 0.35 and who reaches 0.5 get the same report, up to the
probabilities and actions in its rows, or fail alike. -/
theorem report_blind (md5 : String → ℕ) (numerics : Numerics α)
    (alike : ∀ normalized health, Agree SameSides (score normalized health) (score' normalized health))
    (file : Option (Except String Json)) :
    Agree (fun report report' =>
        report.metrics = report'.metrics ∧ List.Forall₂ SameFigures report.rows report'.rows)
      (runBatch md5 score numerics file) (runBatch md5 score' numerics file) := by
  unfold runBatch
  refine agree_bind (agree_refl _) fun events _ same => ?_
  subst same
  have each : ∀ event ∈ events, Agree SameFigures (do evaluateEvent md5 score (← event.asDict))
      (do evaluateEvent md5 score' (← event.asDict)) := by
    intro event _
    refine agree_bind (agree_refl _) fun fields _ same => ?_
    subst same
    exact evaluate_event_alike md5 alike
  refine agree_bind (agree_map_m each) fun rows rows' alike => ?_
  rw [metrics_same numerics alike]
  refine agree_bind (agree_refl _) fun metrics _ same => ?_
  subst same
  exact .ok ⟨rfl, alike⟩

/-- Nothing in common but the side of the two thresholds. -/
theorem report_blind_sides : Agree (fun report report' => report.metrics = report'.metrics ∧
      List.Forall₂ SameFigures report.rows report'.rows)
    (runBatch (fun _ => 0) (fun _ _ => .ok (2 / 5)) realNumerics (savedBatch (generateBatch 20 sampleBatch)))
    (runBatch (fun _ => 0) (fun _ _ => .ok (9 / 20)) realNumerics (savedBatch (generateBatch 20 sampleBatch))) :=
  report_blind (fun _ => 0) realNumerics (fun _ _ => .ok ⟨by norm_num, by norm_num⟩) _

/-! ## The report of a batch -/

section Reported

variable [IsStrictOrderedRing α] {artifacts : TriageScorer.Artifacts} {fit : List String → List String}
  {fitted : List Dict} {context : FeatureContext} {md5 : String → ℕ} {events : List GeneratedEvent}

/-- What a report says of the events that it is about. -/
structure ReportOf (md5 : String → ℕ) (artifacts : TriageScorer.Artifacts) (events : List GeneratedEvent)
    (report : Report α) : Prop where
  rows : List.Forall₂ (Judged md5 artifacts) events report.rows
  total : report.metrics.totalEvents = events.length
  atRisk : report.metrics.revenueAtRiskPaise = (events.map (·.amountPaise)).sum
  recoverable : report.metrics.truePositives + report.metrics.falseNegatives =
    countRows report.rows (·.actualRecoverable)
  recovered : report.metrics.simulatedRecoveryPaise =
    ((report.rows.filter (·.simulatedRecovered)).map (·.amountPaise)).sum
  within : 0 ≤ report.metrics.simulatedRecoveryPaise ∧
    report.metrics.simulatedRecoveryPaise ≤
      ((report.rows.filter (·.actualRecoverable)).map (·.amountPaise)).sum ∧
    ((report.rows.filter (·.actualRecoverable)).map (·.amountPaise)).sum ≤ report.metrics.revenueAtRiskPaise
  arms : report.metrics.experiment.controlTotal + report.metrics.experiment.variantTotal = events.length

theorem amounts_judged (judged : List.Forall₂ (Judged md5 artifacts) events rows) :
    rows.map (·.amountPaise) = events.map (·.amountPaise) := by
  induction judged with
  | nil => rfl
  | cons first _ ih => rw [List.map_cons, List.map_cons, ih, first.amount]

/-- A row that was judged is one of an amount, and of a revenue that is the amount or nothing. -/
theorem judged_recovers {event : GeneratedEvent} (judged : Judged md5 artifacts event row) :
    row.simulatedRevenuePaise = if row.simulatedRecovered then row.amountPaise else 0 := by
  rw [judged.revenue, judged.amount]

/-- Only what is recoverable is recovered. -/
theorem recovered_recoverable {event : GeneratedEvent} (judged : Judged md5 artifacts event row)
    (recovered : row.simulatedRecovered = true) : row.actualRecoverable = true := by
  obtain ⟨_, _, _, _, _, _, decided⟩ := judged.scored
  rw [decided, Bool.and_eq_true_iff] at recovered
  exact recovered.1

/-- What is recovered is a part of what is recoverable, and that of what is at risk. -/
theorem recovered_within (judged : List.Forall₂ (Judged md5 artifacts) events rows)
    (amounts : ∀ event ∈ events, 0 ≤ event.amountPaise) :
    0 ≤ (rows.map fun row => if row.simulatedRecovered then row.amountPaise else 0).sum ∧
      (rows.map fun row => if row.simulatedRecovered then row.amountPaise else 0).sum ≤
        (rows.map fun row => if row.actualRecoverable then row.amountPaise else 0).sum ∧
      (rows.map fun row => if row.actualRecoverable then row.amountPaise else 0).sum ≤
        (rows.map (·.amountPaise)).sum := by
  have made :
      ∀ row ∈ rows, 0 ≤ row.amountPaise ∧ (row.simulatedRecovered = true → row.actualRecoverable = true) := by
    intro row listed
    obtain ⟨event, there, first⟩ := related_mem judged row listed
    exact ⟨first.amount ▸ amounts event there, recovered_recoverable first⟩
  refine ⟨List.sum_nonneg fun revenue listed => ?_, List.sum_le_sum fun row listed => ?_,
    List.sum_le_sum fun row listed => ?_⟩
  · obtain ⟨row, there, rfl⟩ := List.mem_map.mp listed
    have amount := (made row there).1
    split <;> omega
  · obtain ⟨amount, recoverable⟩ := made row listed
    split
    · rename_i recovered
      rw [if_pos (recoverable recovered)]
    · split <;> omega
  · have amount := (made row listed).1
    split <;> omega

/-- A class of the rows is the two parts of it that a prediction makes. -/
theorem predictions_partition (rows : List EvaluationRow) :
    (countRows rows fun row => row.predictedRecoverable && row.actualRecoverable) +
        (countRows rows fun row => !row.predictedRecoverable && row.actualRecoverable) =
      countRows rows (·.actualRecoverable) := by
  unfold countRows
  induction rows with
  | nil => rfl
  | cons row rows ih =>
    simp only [List.countP_cons]
    cases row.predictedRecoverable <;> cases row.actualRecoverable <;> push_cast <;> simp <;> omega

/-- The figures of judged rows. -/
theorem metrics_reported (numerics : Numerics α) (judged : List.Forall₂ (Judged md5 artifacts) events rows)
    (amounts : ∀ event ∈ events, 0 ≤ event.amountPaise) :
    ∃ metrics, calculateMetrics numerics rows = .ok metrics ∧
      ReportOf md5 artifacts events { metrics, rows } := by
  obtain ⟨experiment, analyzed, _, controlTotal, _, variantTotal⟩ :=
    analyze_returns numerics "recovery_agent_v1" (arms_accepted rows)
  have revenues : rows.map (·.simulatedRevenuePaise) =
      rows.map fun row => if row.simulatedRecovered then row.amountPaise else 0 := by
    refine List.map_congr_left fun row listed => ?_
    obtain ⟨event, _, first⟩ := related_mem judged row listed
    exact judged_recovers first
  simp only [calculateMetrics, rate_eq, relative_to_eq, analyzed, ok_bind]
  refine ⟨_, rfl, ?_⟩
  constructor
  case rows => exact judged
  case total =>
    dsimp only
    rw [judged.length_eq]
  case atRisk =>
    dsimp only
    rw [amounts_judged judged]
  case recoverable => exact predictions_partition rows
  case recovered =>
    dsimp only
    rw [revenues, filtered_amounts]
  case within =>
    dsimp only
    rw [revenues, filtered_amounts]
    exact recovered_within judged amounts
  case arms =>
    dsimp only
    rw [controlTotal, variantTotal, arms_partition, judged.length_eq]

/-- On every batch of the generator the evaluation comes to a report on its events. -/
theorem batch_reported (md5 : String → ℕ) (sound : TriageProofs.Sound artifacts) (fits : Fits fit)
    (on : FittedOn fit fitted context artifacts.context) (numerics : Numerics α) (n : ℕ) (batch : BatchDraws) :
    ∃ report, runBatch md5 (scorer artifacts) numerics (savedBatch (generateBatch n batch)) = .ok report ∧
      ReportOf md5 artifacts (generateBatch n batch) report := by
  obtain ⟨rows, evaluated, judged⟩ := generated_batch_judged md5 sound fits on n batch
  have amounts : ∀ event ∈ generateBatch n batch, 0 ≤ event.amountPaise := by
    intro event listed
    have amount := (batch_event_well_formed listed).amount
    omega
  obtain ⟨metrics, calculated, reported⟩ := metrics_reported numerics judged amounts
  have loaded : loadBatch (savedBatch (generateBatch n batch)) =
      .ok ((generateBatch n batch).map fun event => .obj event.toDict) := rfl
  have each : (((generateBatch n batch).map fun event => Json.obj event.toDict).mapM fun event => do
      evaluateEvent md5 (scorer artifacts) (← event.asDict)) = .ok rows := by
    rw [List.mapM_map]
    exact evaluated
  refine ⟨{ metrics, rows }, ?_, reported⟩
  rw [runBatch, loaded, ok_bind, each, ok_bind, calculated]
  rfl

theorem batch_reported_even : ∃ report, runBatch (fun _ => 0) (scorer TriageProofs.evenArtifacts) realNumerics
      (savedBatch (generateBatch 20 sampleBatch)) = .ok report ∧
    ReportOf (fun _ => 0) TriageProofs.evenArtifacts (generateBatch 20 sampleBatch) report :=
  @batch_reported ℝ _ _ _ TriageProofs.evenArtifacts sortedLabels [] FeatureProofs.sampleContext (fun _ => 0)
    TriageProofs.even_sound sorted_labels_fits ⟨rfl, rfl, rfl⟩ realNumerics 20 sampleBatch

end Reported

end RevenueGuard.ReportProofs
