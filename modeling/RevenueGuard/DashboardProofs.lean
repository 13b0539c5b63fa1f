import Mathlib.Algebra.BigOperators.Group.List.Lemmas
import RevenueGuard.AnalyzerProofs
import RevenueGuard.ArmProofs
import RevenueGuard.Dashboard
import RevenueGuard.HistoryProofs

/-!
The dashboard, whatever the order of the steps, and whatever is committed between its queries.

1. `dashboard_adds_up`: the groups of the arms add up to the cases of their query, which are no fewer than
   the cases in the total, and the cases of an arm are as many as its assignments.
2. `nothing_recovered`: no step of the service records a recovery.  So every rate is zero, an
   experiment shows no lift, and with a case in both arms its test has no statistic.
-/

namespace RevenueGuard.DashboardProofs

open Library Library.Runs Library.Raises ExperimentAnalyzer GraphProofs WorkerProofs SystemProofs
  TableProofs ArmProofs AnalyzerProofs

open CaseFileProofs (processedRun)

variable {d : Deployment} {s s' t : System} {db : Database} {e : Event} {es fs gs : List Event} {caseId : String}
  {arm : ExperimentArm} {reads : DashboardReads}

/-! ## Arms and assignments -/

/-- The arm that a fixed percentage puts a case in. -/
def fixedSide (d : Deployment) (caseId : String) : ExperimentArm :=
  if (bucket d.md5 caseId : ℤ) < d.settings.experimentVariantPct then .treatment else .control

theorem fixed_arms (ran : run (step d) {} es = some s) : ArmsOn (fixedSide d) s := by
  refine run_invariant (P := fun s => ArmsOn (fixedSide d) s) (fun s e s' arms stepped => ?_) arms_start ran
  have configured : configuredStep d s ⟨d.settings.experimentVariantPct, e⟩ = some s' := stepped
  refine arms_step arms (fun rows _ => ?_) configured
  unfold fixedSide
  split <;> simp_all

theorem assigned_ids_nodup (ran : run (step d) {} es = some s) :
    (s.db.experimentAssignments.map (·.caseId)).Nodup := by
  have keys := (HistoryProofs.own_constraints ran).assignments
  have same : s.db.experimentAssignments.map (fun r => (r.experimentId, r.caseId)) =
      (s.db.experimentAssignments.map (·.caseId)).map fun caseId => (experimentId, caseId) := by
    rw [List.map_map]
    refine List.map_congr_left fun r listed => ?_
    rw [(HistoryProofs.own_constraints ran).assigned r listed]
    rfl
  rw [same] at keys
  exact keys.of_map _

theorem stored_arm_exists {rows : List ExperimentAssignmentRecord} {r : ExperimentAssignmentRecord}
    (listed : r ∈ rows) (own : r.experimentId = experimentId) :
    ∃ first, storedArm rows r.caseId = some first := by
  have found : (rows.find? fun r' => r'.caseId = r.caseId && r'.experimentId = experimentId).isSome = true :=
    List.find?_isSome.mpr ⟨r, listed, by simp [own]⟩
  obtain ⟨r', same⟩ := Option.isSome_iff_exists.mp found
  exact ⟨r'.arm, by rw [storedArm, same]; rfl⟩

/-- The cases of an arm are those that have an assignment to it. -/
theorem arm_ids_iff (ran : run (step d) {} es = some s) (caseId : String) :
    (∃ case ∈ s.db.recoveryCases, case.experimentArm = some arm ∧ case.caseId = caseId) ↔
      ∃ r ∈ s.db.experimentAssignments, r.arm = arm ∧ r.caseId = caseId := by
  have tables := (fixed_arms ran).tables
  constructor
  · rintro ⟨case, stored, inArm, rfl⟩
    obtain ⟨r, listed, ofCase, same⟩ := stored_arm_mem ((tables.column case stored).symm.trans inArm)
    exact ⟨r, listed, same, ofCase⟩
  · rintro ⟨r, listed, rfl, rfl⟩
    obtain ⟨same, case, stored, ofCase⟩ := tables.assigned r listed
    obtain ⟨first, found⟩ := stored_arm_exists listed ((HistoryProofs.own_constraints ran).assigned r listed)
    refine ⟨case, stored, ?_, ofCase⟩
    rw [tables.column case stored, ofCase, found, stored_on_side tables found, same]

/-- An arm has as many cases as assignments. -/
theorem arm_counts (ran : run (step d) {} es = some s) (arm : ExperimentArm) :
    (s.db.recoveryCases.countP fun r => r.experimentArm = some arm) =
      s.db.experimentAssignments.countP fun r => r.arm = arm := by
  have cases_ : ((s.db.recoveryCases.filter fun r => r.experimentArm = some arm).map (·.caseId)).Nodup :=
    (case_ids_unique ran).sublist (List.filter_sublist.map _)
  have assigned : ((s.db.experimentAssignments.filter fun r => r.arm = arm).map (·.caseId)).Nodup :=
    (assigned_ids_nodup ran).sublist (List.filter_sublist.map _)
  have same := (List.perm_ext_iff_of_nodup cases_ assigned).mpr fun caseId => by
    simp only [List.mem_map, List.mem_filter, decide_eq_true_eq, and_assoc]
    exact arm_ids_iff ran caseId
  simpa [List.countP_eq_length_filter] using same.length_eq

theorem arm_label_inj : Function.Injective armLabel := by
  intro x y same
  rcases x with _ | ⟨_ | _⟩ <;> rcases y with _ | ⟨_ | _⟩ <;> first | rfl | exact absurd same (by decide)

theorem ratio_of_range {recovered total : ℤ} (nonneg : 0 ≤ recovered) (within : recovered ≤ total) :
    0 ≤ ratioOf recovered total ∧ ratioOf recovered total ≤ 1 := by
  unfold ratioOf
  split
  · exact ⟨le_refl 0, zero_le_one⟩
  · exact rate_range nonneg within

theorem case_status_unrecovered (result : RecoveryState) : caseStatus result ≠ .recovered := by
  unfold caseStatus
  split
  · decide
  · split <;> decide

theorem unrecovered (ran : run (step d) {} es = some s) :
    ∀ case ∈ s.db.recoveryCases, case.status ≠ .recovered := by
  refine (CaseFileProofs.rows_invariant (Q := fun case => case.status ≠ .recovered) (fun case fresh => ?_)
    (fun _ _ result _ _ _ => case_status_unrecovered result) (fun _ _ _ same => by cases same) ran).1
  rw [← fresh]
  exact fun same => by cases same

theorem overall_unrecovered (none_ : ∀ case ∈ reads.recovered.recoveryCases, case.status ≠ .recovered) :
    (dashboardMetrics reads).recoveryRate = 0 := by
  have nobody : (reads.recovered.recoveryCases.countP fun r => r.status = .recovered) = 0 := by
    rw [List.countP_eq_zero]
    intro case listed
    simp [none_ case listed]
  simp [dashboardMetrics, nobody, ratioOf]

/-- The groups of the dashboard: each arm has one, all cases are in one, and the cases of an arm are
those that were assigned to it.  What has come in since the total was read is in the groups only.
The rate of a group comes from one query; the rate of all cases divides what one query counts by
the total that another one has read before. -/
structure AddsUp (reads : DashboardReads) (metrics : DashboardMetrics) : Prop where
  labels : (metrics.byExperimentArm.map (·.1)).Nodup
  groups : (metrics.byExperimentArm.map (·.2.total)).sum = reads.groups.recoveryCases.length
  total : metrics.totalEvents ≤ (metrics.byExperimentArm.map (·.2.total)).sum
  assigned : ∀ (arm : ExperimentArm) (figures : ArmMetrics), (arm.value, figures) ∈ metrics.byExperimentArm →
    figures.total = (reads.groups.experimentAssignments.countP fun r => r.arm = arm : ℕ)
  rates : ∀ entry ∈ metrics.byExperimentArm, 0 ≤ entry.2.recoveryRate ∧ entry.2.recoveryRate ≤ 1
  overall : 0 ≤ metrics.recoveryRate ∧ metrics.recoveryRate ≤ 1

theorem group_totals (reads : DashboardReads) :
    ((dashboardMetrics reads).byExperimentArm.map (·.2.total)).sum = reads.groups.recoveryCases.length := by
  have counted := List.sum_map_count_dedup_eq_length (reads.groups.recoveryCases.map (·.experimentArm))
  rw [List.length_map] at counted
  rw [← counted, dashboardMetrics, List.map_map, Nat.cast_list_sum, List.map_map]
  refine congrArg List.sum (List.map_congr_left fun arm _ => ?_)
  simp only [Function.comp_apply, armMetrics, List.count_eq_countP, List.countP_map]
  exact congrArg Nat.cast (List.countP_congr fun case _ => by simp)

theorem cases_grow (ran : run (step d) {} es = some s) (later : run (step d) {} (es ++ fs) = some s') :
    s.db.recoveryCases.length ≤ s'.db.recoveryCases.length := by
  refine run_related (R := fun s s' : System => s.db.recoveryCases.length ≤ s'.db.recoveryCases.length)
    (fun _ => Nat.le_refl _) (fun _ _ _ => Nat.le_trans) (fun _ _ _ _ _ stepped => ?_) ran later
  have grown := (HistoryProofs.db_grows (step_db stepped)).recoveryCases.length_le
  rwa [List.length_map, List.length_map] at grown

/-- The groups of the arms add up to the cases, and the cases of an arm to its assignments. -/
theorem dashboard_adds_up (ran : run (step d) {} es = some s) (between : run (step d) {} (es ++ fs) = some t)
    (later : run (step d) {} (es ++ fs ++ gs) = some s') (first : reads.events = s.db)
    (middle : reads.recovered = t.db) (last : reads.groups = s'.db) :
    AddsUp reads (dashboardMetrics reads) := by
  constructor
  · rw [dashboardMetrics, List.map_map]
    exact (List.nodup_dedup _).map arm_label_inj
  · exact group_totals reads
  · rw [group_totals, last]
    refine Int.ofNat_le.mpr ?_
    rw [first]
    exact (cases_grow ran between).trans (cases_grow between later)
  · intro arm figures listed
    obtain ⟨other, _, same⟩ := List.mem_map.mp listed
    obtain ⟨label, rfl⟩ := Prod.mk.injEq .. ▸ same
    have inArm : other = some arm := arm_label_inj label
    rw [inArm, last, ← arm_counts later arm]
    rfl
  · intro entry listed
    obtain ⟨arm, _, rfl⟩ := List.mem_map.mp listed
    refine ratio_of_range (Int.natCast_nonneg _) (Int.ofNat_le.mpr (List.countP_mono_left fun case _ both => ?_))
    exact (Bool.and_eq_true_iff.mp both).1
  · have none_ := unrecovered between
    rw [← middle] at none_
    rw [overall_unrecovered none_]
    exact ⟨le_refl 0, zero_le_one⟩

/-- The total is read before the case comes in, and the groups after it has been processed. -/
theorem dashboard_adds_up_processed : ∃ s', run (step sampleDeployment) {} processedRun = some s' ∧
    s'.db.experimentAssignments.length = 1 ∧
    AddsUp ⟨{}, {}, s'.db, s'.db⟩ (dashboardMetrics ⟨{}, {}, s'.db, s'.db⟩) := by
  obtain ⟨s', later, one⟩ : ∃ s', run (step sampleDeployment) {} processedRun = some s' ∧
      s'.db.experimentAssignments.length = 1 := ⟨_, rfl, rfl⟩
  have ran : run (step sampleDeployment) {} [] = some {} := rfl
  have after : run (step sampleDeployment) {} ([] ++ processedRun ++ []) = some s' := by simpa using later
  have between : run (step sampleDeployment) {} ([] ++ processedRun) = some s' := later
  exact ⟨s', later, one, dashboard_adds_up ran between after rfl rfl rfl⟩

/-! ## Recoveries -/

section Results

variable {α : Type} [Field α] [LinearOrder α] [IsStrictOrderedRing α] {numerics : Numerics α}

/-- What an experiment shows of arms in which nobody has recovered. -/
structure NoLift (result : ExperimentAnalysis α) : Prop where
  rates : result.controlRate = 0 ∧ result.variantRate = 0
  lift : result.absoluteLift = 0 ∧ result.relativeLift = 0
  untested : 0 < result.controlTotal → 0 < result.variantTotal → result.zStatistic = none ∧ result.pValue = none
  insignificant : result.isSignificant = false

theorem recovery_untested (sound : Sound numerics) {controlTotal variantTotal : ℤ} (control : 0 < controlTotal)
    (variant : 0 < variantTotal) : (recoveryTest numerics 0 controlTotal 0 variantTotal).1 = none ∧
      (recoveryTest numerics 0 controlTotal 0 variantTotal).2 = none := by
  have untested := (tested_iff sound ⟨⟨le_refl 0, control.le⟩, le_refl 0, variant.le⟩).not.mpr
    (show ¬ Undegenerate 0 controlTotal 0 variantTotal by unfold Undegenerate; omega)
  have filled : ¬ (controlTotal = 0 ∨ variantTotal = 0) := by omega
  rw [Tested, recoveryTest, if_neg filled] at untested
  rw [recoveryTest, if_neg filled]
  cases statistic : zStatistic numerics ((0 : ℤ) : α) ((0 : ℤ) : α) variantTotal controlTotal with
  | none => exact ⟨rfl, rfl⟩
  | some z => exact absurd ⟨z, numerics.normSf z, by rw [statistic]; rfl⟩ untested

theorem analyze_unrecovered (sound : Sound numerics) (experimentId : String) {controlTotal variantTotal : ℤ}
    (control : 0 ≤ controlTotal) (variant : 0 ≤ variantTotal) :
    ∃ result, analyze numerics experimentId 0 controlTotal 0 variantTotal = .ok result ∧
      result.controlTotal = controlTotal ∧ result.variantTotal = variantTotal ∧ NoLift result := by
  have accepted : Accepted 0 controlTotal 0 variantTotal := ⟨⟨le_refl 0, control⟩, le_refl 0, variant⟩
  obtain ⟨error, deviation, _⟩ := standard_error_returns numerics
    (rate_range (α := α) (le_refl 0) control) (rate_range (α := α) (le_refl 0) variant) control variant
  simp only [analyze, validate_counts_iff.mpr accepted, rate_eq, relative_to_eq, deviation, ok_bind]
  refine ⟨_, rfl, rfl, rfl, ?_⟩
  constructor
  · simp
  · simp
  · intro controls variants
    exact recovery_untested sound controls variants
  · simp

theorem arm_counts_unrecovered (none_ : ∀ case ∈ db.recoveryCases, case.status ≠ .recovered)
    (arm : ExperimentArm) : (armCounts db arm).2 = 0 := by
  have unlisted : (db.recoveryCases.filter fun r => r.experimentArm = some arm).countP
      (fun r => r.status = .recovered) = 0 := by
    rw [List.countP_eq_zero]
    intro case listed
    simpa using none_ case (List.mem_of_mem_filter listed)
  exact congrArg Nat.cast unlisted

/-- No step records a recovery.  So every rate is zero, and an experiment shows no lift. -/
theorem nothing_recovered (sound : Sound numerics) (ran : run (step d) {} es = some s)
    (later : run (step d) {} (es ++ fs) = some s') (counted : reads.recovered = s.db)
    (grouped : reads.groups = s'.db) :
    (∀ case ∈ s.db.recoveryCases, case.status ≠ .recovered) ∧
      (dashboardMetrics reads).recoveryRate = 0 ∧
      (∀ entry ∈ (dashboardMetrics reads).byExperimentArm, entry.2.recovered = 0 ∧ entry.2.recoveryRate = 0) ∧
      ∀ (experiments : List Experiment), ∀ experiment ∈ experiments, ∃ result,
        experimentResults numerics experiments experiment.experimentId s.db = .ok result ∧ NoLift result := by
  have none_ := unrecovered ran
  refine ⟨none_, ?_, ?_, fun experiments experiment listed => ?_⟩
  · exact overall_unrecovered (counted ▸ none_)
  · have nobody (p : RecoveryCase → Bool) :
        (reads.groups.recoveryCases.countP fun r => p r && r.status = .recovered) = 0 := by
      rw [grouped, List.countP_eq_zero]
      intro case listed
      simp [unrecovered later case listed]
    intro entry listed
    obtain ⟨arm, _, rfl⟩ := List.mem_map.mp listed
    simp [armMetrics, nobody, ratioOf]
  · have known : (experiments.any fun e => e.experimentId = experiment.experimentId) = true :=
      List.any_eq_true.mpr ⟨experiment, listed, decide_eq_true rfl⟩
    have accepted := arm_counts_accepted s.db
    obtain ⟨result, analyzed, _, _, noLift⟩ := analyze_unrecovered sound experiment.experimentId
      (accepted.control.1.trans accepted.control.2) (accepted.variant.1.trans accepted.variant.2)
    refine ⟨result, ?_, noLift⟩
    have control := arm_counts_unrecovered none_ .control
    have variant := arm_counts_unrecovered none_ .treatment
    rw [experimentResults, if_pos known]
    show analyze numerics experiment.experimentId (armCounts s.db .control).2 (armCounts s.db .control).1
      (armCounts s.db .treatment).2 (armCounts s.db .treatment).1 = .ok result
    rw [control, variant]
    exact analyzed

theorem nothing_recovered_processed : ∃ s s', run (step sampleDeployment) {} (processedRun.take 8) = some s ∧
    run (step sampleDeployment) {} (processedRun.take 8 ++ processedRun.drop 8) = some s' ∧
    s'.db.recoveryActions.length = 1 ∧ (∀ case ∈ s.db.recoveryCases, case.status ≠ .recovered) ∧
    (dashboardMetrics ⟨s.db, s.db, s.db, s'.db⟩).recoveryRate = 0 := by
  obtain ⟨s, ran⟩ : ∃ s, run (step sampleDeployment) {} (processedRun.take 8) = some s := ⟨_, rfl⟩
  obtain ⟨s', later, one⟩ : ∃ s', run (step sampleDeployment) {} (processedRun.take 8 ++ processedRun.drop 8) =
      some s' ∧ s'.db.recoveryActions.length = 1 := ⟨_, rfl, rfl⟩
  have counted : (⟨s.db, s.db, s.db, s'.db⟩ : DashboardReads).recovered = s.db := rfl
  obtain ⟨none_, rate, _⟩ := nothing_recovered real_numerics_sound ran later counted rfl
  exact ⟨s, s', ran, later, one, none_, rate⟩

end Results

end RevenueGuard.DashboardProofs
