import RevenueGuard.TableProofs

/-!
The experiment arm of a case while `EXPERIMENT_VARIANT_PCT` changes between runs.
Every run computes the arm anew and writes it over the one in `recovery_cases`;
`experiment_assignments` keeps the first.  `arm_kept` says that the two and every
run agree as long as the percentages of the case's runs lie on one side of its
bucket.
-/

namespace RevenueGuard.ArmProofs

open Library Library.Runs Library.Raises GraphProofs WorkerProofs SystemProofs TableProofs

/-! ## Steps under a changing configuration -/

/-- The deployment while `EXPERIMENT_VARIANT_PCT` has this value. -/
def withVariantPct (d : Deployment) (variantPct : ℤ) : Deployment :=
  { d with settings := { d.settings with experimentVariantPct := variantPct } }

/-- A step, and the percentage that the party taking it is configured with. -/
structure ConfiguredEvent where
  variantPct : ℤ
  event : Event

def configuredStep (d : Deployment) (s : System) (e : ConfiguredEvent) : Option System :=
  step (withVariantPct d e.variantPct) s e.event

/-- The arm in the first assignment row of a case. -/
def storedArm (rows : List ExperimentAssignmentRecord) (caseId : String) : Option ExperimentArm :=
  (rows.find? fun r => r.caseId = caseId && r.experimentId = experimentId).map (·.arm)

/-- The step takes a graph run on these rows to `assign_experiment`: nothing raises
before it. -/
def ReachesAssignment (s : System) (e : ConfiguredEvent) (rows : LoadedRows) : Prop :=
  ∃ w decision clock, e.event = .worker w (.decide decision clock) ∧ s.workers w = .gated rows ∧
    (∃ built, buildState rows.case rows.approval = .ok built) ∧ ∃ triage, decision.score = .ok triage

/-- The step puts a run of the case into this arm. -/
def AssignsArm (d : Deployment) (s : System) (e : ConfiguredEvent) (caseId : String)
    (arm : ExperimentArm) : Prop :=
  ∃ rows, ReachesAssignment s e rows ∧ rows.case.caseId = caseId ∧
    assignExperimentArm d.md5 caseId e.variantPct = .ok arm

/-- The arm that a graph run carries. -/
def carriedArm : WorkerPhase → Option ExperimentArm
  | .decided _ _ _ state => state.experimentArm
  | .finished _ result => result.experimentArm
  | _ => none

/-- The runs of a case so far, the run under way and the case itself have the arm of
its first assignment row. -/
structure KeepsArm (d : Deployment) (es : List ConfiguredEvent) (s : System) (caseId : String) : Prop where
  assigned : ∀ fs e gs before arm stored, es = fs ++ e :: gs →
    run (configuredStep d) {} fs = some before → AssignsArm d before e caseId arm →
    storedArm s.db.experimentAssignments caseId = some stored → arm = stored
  carried : ∀ w arm stored, (s.workers w).caseId = some caseId → carriedArm (s.workers w) = some arm →
    storedArm s.db.experimentAssignments caseId = some stored → arm = stored
  column : ∀ case ∈ s.db.recoveryCases, case.caseId = caseId →
    case.experimentArm = storedArm s.db.experimentAssignments caseId

/-- The bucket of a case. -/
def bucket (md5 : String → ℕ) (caseId : String) : ℕ := md5 ("recovery_agent_v1" ++ ":" ++ caseId) % 100

/-- A run that assigns an arm does so under a percentage on the given side of the
case's bucket. -/
def OnSide (d : Deployment) (side : String → ExperimentArm) (s : System) (e : ConfiguredEvent) : Prop :=
  ∀ rows, ReachesAssignment s e rows →
    ((bucket d.md5 rows.case.caseId : ℤ) < e.variantPct ↔ side rows.case.caseId = .treatment)

variable {d : Deployment} {side : String → ExperimentArm} {s s' : System} {e : ConfiguredEvent}
  {es : List ConfiguredEvent} {caseId other : String} {arm : ExperimentArm}
  {rows : List ExperimentAssignmentRecord}

/-- A percentage on the given side leads to its arm. -/
theorem assigned_on_side {variantPct : ℤ}
    (onSide : (bucket d.md5 caseId : ℤ) < variantPct ↔ side caseId = .treatment)
    (assigned : assignExperimentArm d.md5 caseId variantPct = .ok arm) : arm = side caseId := by
  unfold assignExperimentArm at assigned
  split at assigned
  · cases assigned
    by_cases below : (bucket d.md5 caseId : ℤ) < variantPct
    · rw [onSide.mp below]
      exact if_pos below
    · have control : side caseId = .control := by
        cases same : side caseId with
        | control => rfl
        | treatment => exact (below (onSide.mpr same)).elim
      rw [control]
      exact if_neg below
  · cases assigned

/-! ## The assignment rows -/

theorem stored_arm_mem (stored : storedArm rows caseId = some arm) :
    ∃ r ∈ rows, r.caseId = caseId ∧ r.arm = arm := by
  obtain ⟨r, found, rfl⟩ := Option.map_eq_some_iff.mp stored
  have matched := List.find?_some found
  simp only [Bool.and_eq_true, decide_eq_true_eq] at matched
  exact ⟨r, List.mem_of_find?_eq_some found, matched.1, rfl⟩

theorem mem_insert_assignment {r : ExperimentAssignmentRecord}
    (listed : r ∈ insertAssignment caseId (some arm) rows) :
    r ∈ rows ∨ r = { experimentId, caseId, arm } := by
  simp only [insertAssignment] at listed
  split at listed
  · exact .inl listed
  · exact (List.mem_append.mp listed).imp_right List.mem_singleton.mp

/-- A run stores its arm where none is stored. -/
theorem stored_arm_insert :
    storedArm (insertAssignment caseId (some arm) rows) caseId = some ((storedArm rows caseId).getD arm) := by
  simp only [insertAssignment]
  split
  · rename_i known
    obtain ⟨r, found⟩ := Option.isSome_iff_exists.mp (List.find?_isSome.mpr (List.any_eq_true.mp known))
    simp [storedArm, found]
  · rename_i unknown
    have none_ : (rows.find? fun r => r.caseId = caseId && r.experimentId = experimentId) = none := by
      simpa using unknown
    simp [storedArm, List.find?_append, none_]

theorem stored_arm_insert_other (apart : other ≠ caseId) (inserted : Option ExperimentArm) :
    storedArm (insertAssignment caseId inserted rows) other = storedArm rows other := by
  cases inserted with
  | none => rfl
  | some arm =>
    simp only [insertAssignment]
    split
    · rfl
    · simp [storedArm, List.find?_append, Ne.symm apart]

/-! ## What every step keeps -/

/-- Every assignment row has the arm of its case's side, and every case the arm of its
first assignment row. -/
structure TablesOn (side : String → ExperimentArm) (db : Database) : Prop where
  assigned : ∀ r ∈ db.experimentAssignments,
    r.arm = side r.caseId ∧ ∃ case ∈ db.recoveryCases, case.caseId = r.caseId
  column : ∀ case ∈ db.recoveryCases,
    case.experimentArm = storedArm db.experimentAssignments case.caseId

/-- A graph run under way carries the arm of its case's side. -/
def CarriesSide (side : String → ExperimentArm) : WorkerPhase → Prop
  | .decided rows _ _ state => state.experimentArm = some (side rows.case.caseId)
  | .finished rows result => result.experimentArm = some (side rows.case.caseId)
  | _ => True

/-- `loaded` is about rows read before another worker's commit: what they say of the
arm is still true. -/
structure ArmsOn (side : String → ExperimentArm) (s : System) : Prop where
  staged : ∀ i, StagedIntake (s.requests i)
  worked : WorkedStored s
  tables : TablesOn side s.db
  loaded : ∀ w case arm, workedCase (s.workers w) = some case → case.experimentArm = some arm →
    storedArm s.db.experimentAssignments case.caseId = some arm
  carries : ∀ w, CarriesSide side (s.workers w)

variable {d' : Deployment} {db : Database} {case : RecoveryCase}

/-- A stored arm is the arm of the side. -/
theorem stored_on_side (tables : TablesOn side db)
    (stored : storedArm db.experimentAssignments caseId = some arm) : arm = side caseId := by
  obtain ⟨r, listed, rfl, rfl⟩ := stored_arm_mem stored
  exact (tables.assigned r listed).1

/-- A case that comes in has no arm, and no row has one for it. -/
theorem column_inserted (tables : TablesOn side db) (intake : intakePart case = case)
    (fresh : ∀ c ∈ db.recoveryCases, c.caseId ≠ case.caseId) :
    case.experimentArm = storedArm db.experimentAssignments case.caseId := by
  have unassigned : case.experimentArm = none := by rw [← intake]; rfl
  cases stored : storedArm db.experimentAssignments case.caseId with
  | none => exact unassigned
  | some arm =>
    obtain ⟨r, listed, ofCase, _⟩ := stored_arm_mem stored
    obtain ⟨known, member, same⟩ := (tables.assigned r listed).2
    exact (fresh known member (same.trans ofCase)).elim

/-- New cases leave the arms in order. -/
theorem tables_inserted {cases : List RecoveryCase} (tables : TablesOn side db)
    (intake : ∀ new ∈ cases, intakePart new = new)
    (fresh : ∀ new ∈ cases, ∀ c ∈ db.recoveryCases, c.caseId ≠ new.caseId) :
    TablesOn side { db with recoveryCases := db.recoveryCases ++ cases } := by
  constructor
  · intro r listed
    obtain ⟨same, known, member, ofCase⟩ := tables.assigned r listed
    exact ⟨same, known, List.mem_append_left _ member, ofCase⟩
  · intro case stored
    rcases List.mem_append.mp stored with known | new
    · exact tables.column case known
    · have unassigned := column_inserted tables (intake case new) (fresh case new)
      exact unassigned

/-- The commit of a run writes its arm over the one of the case and stores it where none
is stored. -/
theorem tables_persisted {loaded : RecoveryCase} {result : RecoveryState} {kind : DatabaseKind} {now : ℤ}
    {db' : Database} (tables : TablesOn side db)
    (known : ∃ case ∈ db.recoveryCases, case.caseId = loaded.caseId)
    (read : ∀ arm, loaded.experimentArm = some arm →
      storedArm db.experimentAssignments loaded.caseId = some arm)
    (carried : result.experimentArm = some (side loaded.caseId))
    (committed : persistResult kind now loaded result db = .ok db') : TablesOn side db' := by
  have persisted := persist_result_ok committed
  have assignments := persisted.experimentAssignments
  rw [carried] at assignments
  -- The stored arm is the side's, whether this run stores it or an earlier one did.
  have own : storedArm db'.experimentAssignments loaded.caseId = some (side loaded.caseId) := by
    rw [assignments, stored_arm_insert]
    cases stored : storedArm db.experimentAssignments loaded.caseId with
    | none => rfl
    | some arm => exact congrArg some (stored_on_side tables stored)
  constructor
  · intro r listed
    rw [assignments] at listed
    rw [persisted.recoveryCases]
    have kept : ∀ case ∈ db.recoveryCases, ∃ case' ∈ Keyed.modify (·.caseId) loaded.caseId
        (updateCase now loaded result) db.recoveryCases, case'.caseId = case.caseId :=
      fun case stored => Keyed.modify_kept stored rfl rfl
    rcases mem_insert_assignment listed with before | rfl
    · obtain ⟨same, case, stored, ofCase⟩ := tables.assigned r before
      obtain ⟨case', stored', same'⟩ := kept case stored
      exact ⟨same, case', stored', same'.trans ofCase⟩
    · obtain ⟨case, stored, ofCase⟩ := known
      obtain ⟨case', stored', same'⟩ := kept case stored
      exact ⟨rfl, case', stored', same'.trans ofCase⟩
  · intro case stored
    rw [persisted.recoveryCases] at stored
    rcases Keyed.mem_modify.mp stored with ⟨current, member, ofCase, rfl⟩ | ⟨member, apart⟩
    · have ofLoaded : (updateCase now loaded result current).caseId = loaded.caseId := ofCase
      rw [ofLoaded, own]
      simp only [updateCase, written, carried]
      split
      · rename_i unchanged
        rw [tables.column current member, ofCase]
        exact read _ unchanged.symm
      · rfl
    · rw [assignments, stored_arm_insert_other apart]
      exact tables.column case member

/-- A stored arm is never replaced. -/
theorem stored_arm_step (stepped : DbStep d' s db)
    (stored : storedArm s.db.experimentAssignments caseId = some arm) :
    storedArm db.experimentAssignments caseId = some arm := by
  cases stepped with
  | webhook _ committed =>
    obtain ⟨_, _, rfl⟩ := commit_webhook_ok committed
    exact stored
  | batch _ committed =>
    obtain ⟨_, rfl⟩ := commit_batch_ok committed
    exact stored
  | @persist w rows result now _ phase committed =>
    rw [(persist_result_ok committed).experimentAssignments]
    by_cases same : caseId = rows.case.caseId
    · subst same
      cases carried : result.experimentArm with
      | none => exact stored
      | some new => rw [stored_arm_insert, stored]; rfl
    · rw [stored_arm_insert_other same]
      exact stored
  | _ => exact stored

theorem tables_step (arms : ArmsOn side s) (stepped : DbStep d' s db) : TablesOn side db := by
  cases stepped with
  | unchanged => exact arms.tables
  | @webhook i record case _ phase committed =>
    obtain ⟨_, fresh, rfl⟩ := commit_webhook_ok committed
    have staged := arms.staged i
    rw [phase] at staged
    have intake : ∀ new ∈ case.toList, intakePart new = new :=
      fun new listed => staged new (Option.mem_toList.mp listed)
    have inserted := tables_inserted arms.tables intake
      (fun new listed => fresh new (Option.mem_toList.mp listed))
    exact ⟨inserted.assigned, inserted.column⟩
  | @batch i cases _ phase committed =>
    obtain ⟨unique, rfl⟩ := commit_batch_ok committed
    have staged := arms.staged i
    rw [phase] at staged
    rw [List.map_append] at unique
    have apart := (List.nodup_append.mp unique).2.2
    exact tables_inserted arms.tables staged fun new listed c stored =>
      apart c.caseId (List.mem_map_of_mem stored) new.caseId (List.mem_map_of_mem listed)
  | verdict => exact ⟨arms.tables.assigned, arms.tables.column⟩
  | @persist w rows result now _ phase committed =>
    have worked : workedCase (s.workers w) = some rows.case := by rw [phase]; rfl
    have carried := arms.carries w
    rw [phase] at carried
    exact tables_persisted arms.tables (arms.worked w rows.case worked)
      (fun arm => arms.loaded w rows.case arm worked) carried committed
  | recordFailure =>
    constructor
    · intro r listed
      obtain ⟨same, case, stored, ofCase⟩ := arms.tables.assigned r listed
      exact ⟨same, Keyed.modify_kept stored ofCase ofCase⟩
    · intro case stored
      rcases Keyed.mem_modify.mp stored with ⟨current, member, _, rfl⟩ | ⟨member, _⟩
      · exact arms.tables.column current member
      · exact arms.tables.column case member

/-- Steps of the workers keep the arms of their graph runs on the side. -/
theorem carries_step (arms : ArmsOn side s) (onSide : OnSide d side s e)
    (stepped : configuredStep d s e = some s') (v : ℕ) : CarriesSide side (s'.workers v) := by
  obtain ⟨variantPct, event⟩ := e
  have kept := arms.carries v
  cases step_cases stepped with
  | request moved => cases moved <;> exact kept
  | @worker w _ _ moved =>
    by_cases same : v = w
    · subst same
      cases moved with
      | popLost => exact kept
      | @decide rows decision clock built state phase ranBuild ranDecide =>
        obtain ⟨proposed, ranPropose, rfl⟩ := bind_pure_ok.mp ranDecide
        obtain ⟨arm, assigned, armed⟩ := propose_arm ranPropose
        rw [(build_state_ok ranBuild).caseId] at assigned
        have onSide := onSide rows
          ⟨v, decision, clock, rfl, phase, ⟨built, ranBuild⟩, propose_scored ranPropose⟩
        simp only [tick_workers, set_worker_workers, Function.update_self, CarriesSide,
          policy_check_experiment_arm]
        rw [armed, assigned_on_side onSide assigned]
      | finish phase ranFinish =>
        rw [phase] at kept
        simp only [tick_workers, set_worker_workers, Function.update_self, CarriesSide]
        cases finish_graph_ok ranFinish <;> exact kept
      | _ =>
        simp only [tick_workers, set_worker_workers, release_workers, Function.update_self]
        trivial
    · cases moved with
      | popLost => exact kept
      | _ => simpa [Function.update_of_ne same] using kept

theorem arms_step (arms : ArmsOn side s) (onSide : OnSide d side s e)
    (stepped : configuredStep d s e = some s') : ArmsOn side s' where
  staged := staged_step arms.staged stepped
  worked := worked_stored_step arms.worked stepped
  tables := tables_step arms (step_db stepped)
  loaded := by
    intro w case arm worked hasArm
    have stored : storedArm s.db.experimentAssignments case.caseId = some arm := by
      rcases worked_case_step stepped worked with earlier | read
      · exact arms.loaded w case arm earlier hasArm
      · rw [← arms.tables.column case read]
        exact hasArm
    exact stored_arm_step (step_db stepped) stored
  carries := carries_step arms onSide stepped

theorem arms_start : ArmsOn side {} where
  staged _ := trivial
  worked _ _ worked := by cases worked
  tables := ⟨fun _ listed => (by cases listed), fun _ stored => (by cases stored)⟩
  loaded _ _ _ worked := by cases worked
  carries _ := trivial

/-- While the percentages of the runs of each case stay on one side of its bucket, no case
changes its arm. -/
theorem arm_kept (met : Meets (configuredStep d) (OnSide d side) {} es)
    (ran : run (configuredStep d) {} es = some s) (caseId : String) : KeepsArm d es s caseId := by
  have arms : ArmsOn side s :=
    meets_invariant arms_start (fun _ _ _ arms onSide stepped => arms_step arms onSide stepped) met ran
  constructor
  · rintro fs e gs before arm stored shape ranBefore ⟨rows, reaches, rfl, assigned⟩ first
    have onSide := met fs e gs shape before ranBefore rows reaches
    rw [assigned_on_side onSide assigned, stored_on_side arms.tables first]
  · intro w arm stored ofCase carried first
    have carries := arms.carries w
    rw [stored_on_side arms.tables first]
    cases phase : s.workers w with
    | decided rows _ _ state =>
      rw [phase] at ofCase carried carries
      cases ofCase
      exact Option.some.inj (carried.symm.trans carries)
    | finished rows result =>
      rw [phase] at ofCase carried carries
      cases ofCase
      exact Option.some.inj (carried.symm.trans carries)
    | _ =>
      rw [phase] at carried
      cases carried
  · rintro case stored rfl
    exact arms.tables.column case stored

/-! ## A case that changes its arm -/

/-- Steps under one percentage. -/
def configured (variantPct : ℤ) (es : List Event) : List ConfiguredEvent :=
  es.map fun event => { variantPct, event }

/-- The sample case, in bucket 17, is delivered twice, and the percentage changes between
its runs. -/
def reconfigured (first second : ℤ) : List ConfiguredEvent :=
  configured first
      (sampleIntake 0 "00000007" 250000 ++
        [.request 0 (.push .failedAfter), .request 0 (.push .delivered)] ++
        sampleProcess 0 "nudge_email" 1788501600000000 "action-1") ++
    configured second (sampleProcess 0 "nudge_email" 1788588000000000 "action-2")

theorem arm_kept_reconfigured : ∃ s, run (configuredStep sampleDeployment) {} (reconfigured 20 18) = some s ∧
    storedArm s.db.experimentAssignments "REC-00000007" = some .treatment ∧
    KeepsArm sampleDeployment (reconfigured 20 18) s "REC-00000007" := by
  obtain ⟨s, ran, stored⟩ : ∃ s, run (configuredStep sampleDeployment) {} (reconfigured 20 18) = some s ∧
      storedArm s.db.experimentAssignments "REC-00000007" = some .treatment := ⟨_, rfl, rfl⟩
  -- No sample bucket lies between the two percentages.
  have apart (caseId : String) : bucket sampleDeployment.md5 caseId < 18 ∨
      20 ≤ bucket sampleDeployment.md5 caseId := by
    simp only [bucket, sampleDeployment]
    split
    · decide
    · split <;> decide
  have met : Meets (configuredStep sampleDeployment) (OnSide sampleDeployment fun caseId =>
      if bucket sampleDeployment.md5 caseId < 18 then .treatment else .control) {} (reconfigured 20 18) := by
    refine meets_mono (meets_of_events (p := fun e => e.variantPct = 20 ∨ e.variantPct = 18) ?_) ?_
    · decide
    · intro s e percentage rows _
      have apart := apart rows.case.caseId
      show _ ↔ (if bucket sampleDeployment.md5 rows.case.caseId < 18 then ExperimentArm.treatment
        else .control) = .treatment
      rcases percentage with twenty | eighteen <;> split <;> simp <;> omega
  exact ⟨s, ran, stored, arm_kept met ran _⟩

/-- No case changes its arm, whatever the percentages. -/
def ArmNeverChanges : Prop :=
  ∀ d es s, (∀ e ∈ es, 0 ≤ e.variantPct ∧ e.variantPct ≤ 100) →
    run (configuredStep d) {} es = some s → ∀ caseId, KeepsArm d es s caseId

/-- Lowered from 20 to 10 between its two runs, the percentage moves the case from the
treatment arm to the control arm. -/
theorem arm_changes_with_percentage : ¬ ArmNeverChanges := by
  intro never
  obtain ⟨s, ran, stored, column⟩ : ∃ s,
      run (configuredStep sampleDeployment) {} (reconfigured 20 10) = some s ∧
        storedArm s.db.experimentAssignments "REC-00000007" = some .treatment ∧
        ∃ case ∈ s.db.recoveryCases, case.caseId = "REC-00000007" ∧ case.experimentArm = some .control :=
    ⟨_, rfl, rfl, _, List.mem_singleton_self _, rfl, rfl⟩
  obtain ⟨case, listed, ofCase, control⟩ := column
  have kept := (never _ _ s (by decide) ran "REC-00000007").column case listed ofCase
  rw [control, stored] at kept
  cases kept

end RevenueGuard.ArmProofs
