import Mathlib.Data.List.Infix
import RevenueGuard.Analyzer
import RevenueGuard.CaseFileProofs
import RevenueGuard.IntakeProofs
import RevenueGuard.OutcomeProofs

/-!
What the tables remember, and which constraints they obey.

1. `tables_grow`: no table loses or moves a row between two points of a run, and of a case or a
   request for approval only the columns change that runs and verdicts write.
2. `schema_holds`: the unique and the foreign keys of `orm_models.py` hold in every reached state,
   on SQLite as well, which checks no foreign key.  The one that may fail there is
   `audit_logs.action_id`.  The experiment that the assignments refer to is stored at the first
   start of the service.
-/

namespace RevenueGuard.HistoryProofs

open Library Library.Runs Library.Raises GraphProofs WorkerProofs SystemProofs TableProofs DeliveryProofs
  CaseFileProofs IntakeProofs OutcomeProofs

variable {d : Deployment} {s s' : System} {db db' : Database} {e : Event} {es fs : List Event} {caseId : String}

/-! ## Tables only grow -/

/-- The later tables begin with the rows of the earlier ones, as far as no run and no verdict may
write them. -/
structure Grows (db db' : Database) : Prop where
  webhookEvents : db.webhookEvents <+: db'.webhookEvents
  recoveryCases : db.recoveryCases.map intakePart <+: db'.recoveryCases.map intakePart
  recoveryActions : db.recoveryActions <+: db'.recoveryActions
  auditLogs : db.auditLogs <+: db'.auditLogs
  gatewayHealthSnapshots : db.gatewayHealthSnapshots <+: db'.gatewayHealthSnapshots
  experimentAssignments : db.experimentAssignments <+: db'.experimentAssignments
  recoveryApprovals : db.recoveryApprovals.map requestPart <+: db'.recoveryApprovals.map requestPart

theorem grows_refl (db : Database) : Grows db db := by
  constructor <;> exact List.prefix_refl _

theorem grows_trans {db'' : Database} (first : Grows db db') (second : Grows db' db'') : Grows db db'' where
  webhookEvents := first.webhookEvents.trans second.webhookEvents
  recoveryCases := first.recoveryCases.trans second.recoveryCases
  recoveryActions := first.recoveryActions.trans second.recoveryActions
  auditLogs := first.auditLogs.trans second.auditLogs
  gatewayHealthSnapshots := first.gatewayHealthSnapshots.trans second.gatewayHealthSnapshots
  experimentAssignments := first.experimentAssignments.trans second.experimentAssignments
  recoveryApprovals := first.recoveryApprovals.trans second.recoveryApprovals

theorem insert_actions_prefix {rows rows' actions : List RecoveryAction}
    (inserted : insertActions caseId rows actions = .ok rows') : rows <+: rows' := by
  induction actions generalizing rows with
  | nil =>
    cases inserted
    exact List.prefix_refl _
  | cons action rest ih =>
    simp only [insertActions] at inserted
    split at inserted
    · exact ih inserted
    · split at inserted
      · cases inserted
      · exact (List.prefix_append _ _).trans (ih inserted)

theorem insert_assignment_prefix (arm : Option ExperimentArm) (rows : List ExperimentAssignmentRecord) :
    rows <+: insertAssignment caseId arm rows := by
  unfold insertAssignment
  split
  · exact List.prefix_refl _
  · split
    · exact List.prefix_refl _
    · exact List.prefix_append _ _

theorem db_grows (stepped : DbStep d s db) : Grows s.db db := by
  cases stepped with
  | unchanged => exact grows_refl _
  | webhook _ committed =>
    obtain ⟨_, _, rfl⟩ := commit_webhook_ok committed
    refine { grows_refl s.db with webhookEvents := List.prefix_append _ _, recoveryCases := ?_ }
    rw [List.map_append]
    exact List.prefix_append _ _
  | batch _ committed =>
    obtain ⟨_, rfl⟩ := commit_batch_ok committed
    refine { grows_refl s.db with recoveryCases := ?_ }
    rw [List.map_append]
    exact List.prefix_append _ _
  | verdict =>
    refine { grows_refl s.db with recoveryApprovals := ?_ }
    rw [commitVerdict, Keyed.map_modify fun _ => request_part_decide ..]
  | persist _ committed =>
    have persisted := persist_result_ok committed
    constructor
    · rw [persisted.webhookEvents]
    · rw [persisted.recoveryCases, Keyed.map_modify fun _ => intake_part_update ..]
    · exact insert_actions_prefix persisted.recoveryActions
    · rw [(persist_result_written committed).2]
      exact List.prefix_append _ _
    · rw [persist_snapshots committed]
      exact List.prefix_append _ _
    · rw [persisted.experimentAssignments]
      exact insert_assignment_prefix ..
    · rcases insert_approval_ok persisted.recoveryApprovals with same | ⟨_, _, _, _, grown⟩
      · rw [same]
      · rw [grown, List.map_append]
        exact List.prefix_append _ _
  | @recordFailure _ failed now _ =>
    refine { grows_refl s.db with recoveryCases := ?_, auditLogs := List.prefix_append _ _ }
    have same : (recordFailure now failed s.db).recoveryCases.map intakePart =
        s.db.recoveryCases.map intakePart := Keyed.map_modify fun _ => rfl
    rw [same]

/-- Between two points of a run the tables only grow. -/
theorem tables_grow (ran : run (step d) {} es = some s) (later : run (step d) {} (es ++ fs) = some s') :
    Grows s.db s'.db :=
  run_related (R := fun s s' : System => Grows s.db s'.db) (fun s => grows_refl s.db)
    (fun _ _ _ => grows_trans) (fun _ _ _ _ _ stepped => db_grows (step_db stepped)) ran later

theorem tables_grow_processed : ∃ s s', run (step sampleDeployment) {} (processedRun.take 8) = some s ∧
    run (step sampleDeployment) {} (processedRun.take 8 ++ processedRun.drop 8) = some s' ∧
      s.db.recoveryActions.length < s'.db.recoveryActions.length ∧ Grows s.db s'.db := by
  obtain ⟨s, ran, none_⟩ : ∃ s, run (step sampleDeployment) {} (processedRun.take 8) = some s ∧
      s.db.recoveryActions.length = 0 := ⟨_, rfl, rfl⟩
  obtain ⟨s', later, one⟩ : ∃ s',
      run (step sampleDeployment) {} (processedRun.take 8 ++ processedRun.drop 8) = some s' ∧
        s'.db.recoveryActions.length = 1 := ⟨_, rfl, rfl⟩
  exact ⟨s, s', ran, later, by omega, tables_grow ran later⟩

/-! ## The constraints of the tables -/

/-- `experiments` after the starts of the service, each under the settings it had then. -/
def startedExperiments (starts : List Settings) : List Experiment :=
  starts.foldl (fun experiments settings => createDefaultExperiment settings experiments) []

/-- The keys of the tables.  That a case has one assignment in an experiment is no constraint of
`orm_models.py`, but what the look-up of `_persist_result` is for. -/
structure Schema (kind : DatabaseKind) (experiments : List Experiment) (db : Database) : Prop where
  eventIds : (db.webhookEvents.map (·.razorpayEventId)).Nodup
  caseIds : (db.recoveryCases.map (·.caseId)).Nodup
  actionIds : (db.recoveryActions.map (·.actionId)).Nodup
  idempotencyKeys : (db.recoveryActions.map (·.idempotencyKey)).Nodup
  approvalIds : (db.recoveryApprovals.map (·.approvalId)).Nodup
  experimentIds : (experiments.map (·.experimentId)).Nodup
  assignments : (db.experimentAssignments.map fun r => (r.experimentId, r.caseId)).Nodup
  cases : RowsReferred db
  experiments : ∀ r ∈ db.experimentAssignments, ∃ e ∈ experiments, e.experimentId = r.experimentId
  actions : kind.enforcesForeignKeys = true → auditsRefer db.recoveryActions db.auditLogs = true

theorem action_ids_insert {rows rows' actions : List RecoveryAction}
    (unique : (rows.map (·.actionId)).Nodup) (inserted : insertActions caseId rows actions = .ok rows') :
    (rows'.map (·.actionId)).Nodup := by
  induction actions generalizing rows with
  | nil =>
    cases inserted
    exact unique
  | cons action rest ih =>
    simp only [insertActions] at inserted
    split at inserted
    · exact ih unique inserted
    · split at inserted
      · cases inserted
      · rename_i fresh
        have fresh : ∀ r ∈ rows, r.actionId ≠ action.actionId := by simpa using fresh
        have grown : ((rows ++ [{ action with caseId }]).map RecoveryAction.actionId).Nodup :=
          Keyed.nodup_insert unique fresh
        exact ih grown inserted

theorem assignments_insert (arm : Option ExperimentArm) {rows : List ExperimentAssignmentRecord}
    (unique : (rows.map fun r => (r.experimentId, r.caseId)).Nodup) :
    ((insertAssignment caseId arm rows).map fun r => (r.experimentId, r.caseId)).Nodup := by
  unfold insertAssignment
  split
  · exact unique
  · split
    · exact unique
    · rename_i absent
      refine Keyed.nodup_insert unique fun r stored same => absent ?_
      obtain ⟨experiment, case⟩ := Prod.ext_iff.mp same
      simp only [List.any_eq_true, Bool.and_eq_true, decide_eq_true_eq]
      exact ⟨r, stored, case, experiment⟩

theorem assigned_experiment {arm : Option ExperimentArm} {rows : List ExperimentAssignmentRecord}
    (assigned : ∀ r ∈ rows, r.experimentId = experimentId) :
    ∀ r ∈ insertAssignment caseId arm rows, r.experimentId = experimentId := by
  unfold insertAssignment
  split
  · exact assigned
  · split
    · exact assigned
    · intro r listed
      rcases List.mem_append.mp listed with known | new
      · exact assigned r known
      · rw [List.mem_singleton.mp new]

/-- A start leaves the experiments apart, and the default one among them. -/
theorem create_default_experiment_ok {settings : Settings} {experiments : List Experiment}
    (unique : (experiments.map (·.experimentId)).Nodup) :
    ((createDefaultExperiment settings experiments).map (·.experimentId)).Nodup ∧
      ∃ e ∈ createDefaultExperiment settings experiments, e.experimentId = experimentId := by
  unfold createDefaultExperiment
  split
  · rename_i known
    obtain ⟨e, stored, same⟩ := List.any_eq_true.mp known
    exact ⟨unique, e, stored, of_decide_eq_true same⟩
  · rename_i missing
    have absent : ∀ e ∈ experiments, e.experimentId ≠ "recovery_agent_v1" := by simpa using missing
    exact ⟨Keyed.nodup_insert unique absent, _, List.mem_append_right _ (List.mem_singleton_self _), rfl⟩

/-- From the first start on the experiments are apart, with the default one among them. -/
theorem started_experiments (first : Settings) (later : List Settings) :
    ((startedExperiments (first :: later)).map (·.experimentId)).Nodup ∧
      ∃ e ∈ startedExperiments (first :: later), e.experimentId = experimentId := by
  have restarted (experiments : List Experiment)
      (started : (experiments.map (·.experimentId)).Nodup ∧ ∃ e ∈ experiments, e.experimentId = experimentId) :
      ((later.foldl (fun experiments settings => createDefaultExperiment settings experiments)
        experiments).map (·.experimentId)).Nodup ∧
        ∃ e ∈ later.foldl (fun experiments settings => createDefaultExperiment settings experiments) experiments,
          e.experimentId = experimentId := by
    induction later generalizing experiments with
    | nil => exact started
    | cons next later ih => exact ih _ (create_default_experiment_ok started.1)
  exact restarted _ (create_default_experiment_ok List.nodup_nil)

theorem audits_refer_append {rows : List RecoveryAction} {audits new : List AuditEntry} :
    auditsRefer rows (audits ++ new) = true ↔
      auditsRefer rows audits = true ∧ auditsRefer rows new = true := by
  simp only [auditsRefer, List.all_append, Bool.and_eq_true]

/-- What audit rows refer to stays stored, whichever case they are filed under. -/
theorem audits_refer_mono {rows rows' : List RecoveryAction} {audits audits' : List AuditEntry}
    (grown : rows <+: rows') (same : audits'.map (·.actionId) = audits.map (·.actionId))
    (refer : auditsRefer rows audits = true) : auditsRefer rows' audits' = true := by
  rw [audits_refer_iff] at refer ⊢
  have pointers : audits'.filterMap (·.actionId) = audits.filterMap (·.actionId) := by
    simpa [List.filterMap_map, Function.comp_def] using congrArg (List.filterMap id) same
  intro actionId listed
  rw [pointers] at listed
  obtain ⟨r, stored, points⟩ := refer actionId listed
  exact ⟨r, grown.subset stored, points⟩

/-- The constraints that one transaction keeps by itself. -/
structure OwnConstraints (kind : DatabaseKind) (db : Database) : Prop where
  actionIds : (db.recoveryActions.map (·.actionId)).Nodup
  assignments : (db.experimentAssignments.map fun r => (r.experimentId, r.caseId)).Nodup
  assigned : ∀ r ∈ db.experimentAssignments, r.experimentId = experimentId
  actions : kind.enforcesForeignKeys = true → auditsRefer db.recoveryActions db.auditLogs = true

theorem own_constraints_step (kept : OwnConstraints d.database s.db) (stepped : DbStep d s db) :
    OwnConstraints d.database db := by
  cases stepped with
  | unchanged => exact kept
  | webhook _ committed =>
    obtain ⟨_, _, rfl⟩ := commit_webhook_ok committed
    exact ⟨kept.actionIds, kept.assignments, kept.assigned, kept.actions⟩
  | batch _ committed =>
    obtain ⟨_, rfl⟩ := commit_batch_ok committed
    exact ⟨kept.actionIds, kept.assignments, kept.assigned, kept.actions⟩
  | verdict => exact ⟨kept.actionIds, kept.assignments, kept.assigned, kept.actions⟩
  | persist _ committed =>
    obtain ⟨persisted, audits⟩ := persist_result_written committed
    refine ⟨action_ids_insert kept.actionIds persisted.recoveryActions, ?_, ?_, fun enforced => ?_⟩
    · rw [persisted.experimentAssignments]
      exact assignments_insert _ kept.assignments
    · rw [persisted.experimentAssignments]
      exact assigned_experiment kept.assigned
    · rw [audits, audits_refer_append]
      have grown := insert_actions_prefix persisted.recoveryActions
      exact ⟨audits_refer_mono grown rfl (kept.actions enforced),
        audits_refer_mono (List.prefix_refl _) (by simp) (persisted.referred enforced)⟩
  | recordFailure =>
    refine ⟨kept.actionIds, kept.assignments, kept.assigned, fun enforced => ?_⟩
    exact audits_refer_append.mpr ⟨kept.actions enforced, rfl⟩

theorem own_constraints (ran : run (step d) {} es = some s) : OwnConstraints d.database s.db := by
  have start : OwnConstraints d.database ({} : System).db :=
    ⟨List.nodup_nil, List.nodup_nil, fun _ listed => (by cases listed), fun _ => rfl⟩
  exact run_invariant (P := fun s => OwnConstraints d.database s.db)
    (fun _ _ _ kept stepped => own_constraints_step kept (step_db stepped)) start ran

/-- The constraints hold in every reached state, however often the service has been started. -/
theorem schema_holds (first : Settings) (later : List Settings) (ran : run (step d) {} es = some s) :
    Schema d.database (startedExperiments (first :: later)) s.db where
  eventIds := (intake_invariant ran).eventIds
  caseIds := case_ids_unique ran
  actionIds := (own_constraints ran).actionIds
  idempotencyKeys := idempotency_keys_unique ran
  approvalIds := approval_ids_unique ran
  experimentIds := (started_experiments first later).1
  assignments := (own_constraints ran).assignments
  cases := rows_referred ran
  experiments r assigned := by
    obtain ⟨e, stored, same⟩ := (started_experiments first later).2
    exact ⟨e, stored, same.trans ((own_constraints ran).assigned r assigned).symm⟩
  actions := (own_constraints ran).actions

theorem schema_holds_processed : ∃ s, run (step sampleDeployment) {} processedRun = some s ∧
    s.db.recoveryActions.length = 1 ∧
      Schema sampleDeployment.database (startedExperiments [sampleDeployment.settings]) s.db := by
  obtain ⟨s, ran, one⟩ : ∃ s, run (step sampleDeployment) {} processedRun = some s ∧
      s.db.recoveryActions.length = 1 := ⟨_, rfl, rfl⟩
  exact ⟨s, ran, one, schema_holds _ _ ran⟩

end RevenueGuard.HistoryProofs
