import RevenueGuard.GraphProofs
import RevenueGuard.WorkerSession

/-!
What a failed run leaves behind.  The session's program does to the tables what the worker's
functions say (`attempt_refines`), and nothing of it is committed where it raises, at
whatever statement: what is committed then is the record of the failure.
-/

namespace RevenueGuard.FailureProofs

open Library Library.Sessions

variable {d : Deployment} {decision : DecisionInputs} {visit : Visit} {kind : DatabaseKind} {now : ℤ}
  {caseId exc : String} {case loaded : RecoveryCase} {result : RecoveryState} {db db' : Database}
  {s s' s₁ s₂ : Session Database}

/-! ## The writes of a run -/

theorem persist_snapshot_refines (caseId : String) (health : Option GatewayHealthSnapshot) :
    Refines (WorkerSession.persistSnapshot caseId health) (changeTables fun db => .ok
      { db with gatewayHealthSnapshots := db.gatewayHealthSnapshots ++
          (health.map fun snapshot => { caseId, snapshot }).toList }) := by
  cases health with
  | none =>
    simp only [Option.map_none, Option.toList_none, List.append_nil]
    exact refines_nothing
  | some snapshot => exact refines_add _

theorem persist_assignment_refines (caseId : String) (arm : Option ExperimentArm) :
    Refines (WorkerSession.persistAssignment caseId arm) (changeTables fun db => .ok
      { db with experimentAssignments := insertAssignment caseId arm db.experimentAssignments }) := by
  cases arm with
  | none => exact refines_nothing
  | some arm =>
    refine refines_same (refines_unless _ (refines_add _)) ?_
    intro db
    unfold insertAssignment
    dsimp only
    split <;> rfl

/-- The loop over the actions writes the rows that are new. -/
theorem insert_actions_cons (action : RecoveryAction) (rest : List RecoveryAction) (db : Database) :
    (insertActions caseId db.recoveryActions (action :: rest)).map
        (fun rows => { db with recoveryActions := rows }) =
      (if db.recoveryActions.any fun r => r.idempotencyKey = action.idempotencyKey then .ok db
        else if db.recoveryActions.any fun r => r.actionId = action.actionId then
          .error "UNIQUE constraint failed: recovery_actions.id"
        else .ok { db with recoveryActions := db.recoveryActions ++ [{ action with caseId }] }) >>= fun db =>
          (insertActions caseId db.recoveryActions rest).map fun rows => { db with recoveryActions := rows } := by
  rw [insertActions]
  split
  · rfl
  · split <;> rfl

theorem persist_actions_refines (caseId : String) (actions : List RecoveryAction) :
    Refines (actions.forM (WorkerSession.persistAction caseId)) (changeTables fun db =>
      (insertActions caseId db.recoveryActions actions).map fun rows => { db with recoveryActions := rows }) := by
  induction actions with
  | nil => exact refines_nothing
  | cons action rest ih =>
    exact refines_same (refines_changes (refines_unless _ (refines_add _)) ih) fun db =>
      (insert_actions_cons action rest db).symm

/-- The audit rows of a run, which all point at stored actions where that is checked. -/
def insertAudits (kind : DatabaseKind) (caseId : String) (audits : List AuditEntry) (db : Database) :
    Except String Database :=
  if kind.enforcesForeignKeys && !auditsRefer db.recoveryActions audits then
    .error "FOREIGN KEY constraint failed: audit_logs.action_id"
  else .ok { db with auditLogs := db.auditLogs ++ audits.map fun audit => { audit with caseId } }

/-- The loop over the audit entries writes them all, or meets one that points at no action. -/
theorem insert_audits_cons (audit : AuditEntry) (rest : List AuditEntry) (db : Database) :
    (if kind.enforcesForeignKeys && !auditsRefer db.recoveryActions [{ audit with caseId }] then
        .error "FOREIGN KEY constraint failed: audit_logs.action_id"
      else .ok { db with auditLogs := db.auditLogs ++ [{ audit with caseId }] }) >>=
        insertAudits kind caseId rest =
      insertAudits kind caseId (audit :: rest) db := by
  have first :
      auditsRefer db.recoveryActions [{ audit with caseId }] = auditsRefer db.recoveryActions [audit] := rfl
  have all : auditsRefer db.recoveryActions (audit :: rest) =
      (auditsRefer db.recoveryActions [audit] && auditsRefer db.recoveryActions rest) := by
    simp [auditsRefer]
  rw [first, insertAudits, all]
  by_cases refused : kind.enforcesForeignKeys && !auditsRefer db.recoveryActions [audit]
  · obtain ⟨enforced, dangling⟩ := Bool.and_eq_true_iff.mp refused
    rw [Bool.not_eq_true'] at dangling
    rw [if_pos refused, enforced, dangling]
    rfl
  · rw [if_neg refused, Raises.ok_bind, insertAudits, List.map_cons, List.append_assoc]
    cases enforced : kind.enforcesForeignKeys with
    | false => rfl
    | true =>
      cases refers : auditsRefer db.recoveryActions [audit] with
      | false => exact absurd (by rw [enforced, refers]; rfl) refused
      | true => rfl

theorem persist_audits_refines (kind : DatabaseKind) (caseId : String) (audits : List AuditEntry) :
    Refines (audits.forM fun audit => WorkerSession.addAudit kind { audit with caseId })
      (changeTables (insertAudits kind caseId audits)) := by
  induction audits with
  | nil =>
    refine refines_same refines_nothing ?_
    intro db
    simp [insertAudits, auditsRefer]
  | cons audit rest ih => exact refines_same (refines_changes (refines_add _) ih) (insert_audits_cons audit rest)

theorem persist_approval_refines (caseId : String) (result : RecoveryState) :
    Refines (WorkerSession.persistApproval caseId result) (changeTables fun db =>
      (insertApproval caseId result db.recoveryApprovals).map fun rows =>
        { db with recoveryApprovals := rows }) := by
  unfold WorkerSession.persistApproval insertApproval
  split
  · cases result.approvalRecord with
    | none => exact refines_nothing
    | some record =>
      cases record with
      | loaded approvalId expiresAt =>
        refine refines_same (refines_unless _ (refines_raise _)) ?_
        intro db
        dsimp only
        split <;> rfl
      | requested record =>
        refine refines_same (refines_unless _ (refines_add _)) ?_
        intro db
        dsimp only
        split <;> rfl
  · exact refines_nothing

/-- `_persist_result` does what the worker's function does to the tables. -/
theorem persist_result_refines (kind : DatabaseKind) (now : ℤ) (loaded : RecoveryCase)
    (result : RecoveryState) :
    Refines (WorkerSession.persistResult kind now loaded result)
      (changeTables (persistResult kind now loaded result)) := by
  refine refines_same (refines_changes (refines_add _) (refines_changes (persist_snapshot_refines _ _)
    (refines_changes (persist_assignment_refines _ _) (refines_changes (persist_actions_refines _ _)
      (refines_changes refines_flush (refines_changes (persist_audits_refines kind _ _)
        (persist_approval_refines _ _))))))) ?_
  intro db
  simp only [Raises.ok_bind, persistResult]
  cases insertActions loaded.caseId db.recoveryActions result.actions with
  | error exc => rfl
  | ok rows =>
    simp only [Except.map, Raises.ok_bind, insertAudits]
    split
    · rfl
    · rw [Raises.ok_bind]
      cases insertApproval loaded.caseId result db.recoveryApprovals <;> rfl

/-! ## Attempts -/

/-- The row as the status set before the run leaves it. -/
def triaged (now : ℤ) (caseId : String) (db : Database) : Database :=
  { db with
    recoveryCases := Keyed.modify (·.caseId) caseId
      (fun row => { row with status := .triaging, updatedAt := some now }) db.recoveryCases }

/-- The writes of a run make up for it. -/
theorem persist_result_triaged (kind : DatabaseKind) (now : ℤ) (loaded : RecoveryCase) (result : RecoveryState)
    (db : Database) :
    persistResult kind now loaded result (triaged now loaded.caseId db) =
      persistResult kind now loaded result db := by
  have rows : Keyed.modify (·.caseId) loaded.caseId (updateCase now loaded result)
      (triaged now loaded.caseId db).recoveryCases =
        Keyed.modify (·.caseId) loaded.caseId (updateCase now loaded result) db.recoveryCases :=
    Keyed.modify_modify fun _ => rfl
  unfold persistResult
  rw [rows]
  rfl

/-- What an attempt does to the tables: the worker's run and its writes. -/
def attemptTables (d : Deployment) (decision : DecisionInputs) (visit : Visit) (case : RecoveryCase) :
    Tables Database RecoveryState := fun db => do
  let result ← (visitRun d decision visit case db).2
  let db ← persistResult d.database visit.now case result db
  return (result, db)

theorem attempt_tables_ok : attemptTables d decision visit case db = .ok (result, db') ↔
    (visitRun d decision visit case db).2 = .ok result ∧
      persistResult d.database visit.now case result db = .ok db' := by
  constructor
  · intro attempted
    obtain ⟨result', returned, attempted⟩ := Raises.bind_ok.mp attempted
    obtain ⟨db'', persisted, same⟩ := Raises.bind_ok.mp attempted
    cases same
    exact ⟨returned, persisted⟩
  · rintro ⟨returned, persisted⟩
    exact Raises.bind_ok.mpr ⟨result, returned, Raises.bind_ok.mpr ⟨db', persisted, rfl⟩⟩

theorem attempt_refines (d : Deployment) (decision : DecisionInputs) (visit : Visit) (case : RecoveryCase) :
    Refines (WorkerSession.attempt d decision visit case) (attemptTables d decision visit case) := by
  have steps := refines_bind (refines_add (fun db => .ok (triaged visit.now case.caseId db))) fun _ =>
    refines_bind (refines_scalar fun db => activeApproval visit.pick db case.caseId) fun approval =>
      refines_bind (refines_evaluate (graphRun d decision visit.clock visit.finish case approval).2) fun result =>
        refines_bind (persist_result_refines d.database visit.now case result) fun _ => refines_pure result
  refine steps.congr (funext fun db => ?_)
  -- the status set before the run changes nothing that the run reads
  show ((visitRun d decision visit case db).2.map fun result => (result, triaged visit.now case.caseId db)) >>=
    (fun read =>
      (changeTables (persistResult d.database visit.now case read.1) >>= fun _ => pure read.1) read.2) = _
  unfold attemptTables
  cases (visitRun d decision visit case db).2 with
  | error exc => rfl
  | ok result =>
    show ((persistResult d.database visit.now case result (triaged visit.now case.caseId db)).map
      fun db => ((), db)) >>= (fun written => .ok (result, written.2)) = _
    rw [persist_result_triaged, Raises.ok_bind]
    cases persistResult d.database visit.now case result db <;> rfl

/-! ## Failures -/

/-- The case's row as a failure leaves it. -/
def failed (now : ℤ) (row : RecoveryCase) : RecoveryCase :=
  { row with status := .failed, updatedAt := some now }

/-- The tables with the row marked, if one was found. -/
def marked (now : ℤ) (caseId : String) (found : Option RecoveryCase) (db : Database) : Database :=
  { db with
    recoveryCases :=
      if found.isSome then Keyed.modify (·.caseId) caseId (failed now) db.recoveryCases else db.recoveryCases }

theorem mark_failed_refines (now : ℤ) (caseId : String) (found : Option RecoveryCase) :
    Refines (WorkerSession.markFailed now caseId found)
      (changeTables fun db => .ok (marked now caseId found db)) := by
  cases found with
  | none => exact refines_nothing
  | some case => exact refines_add _

/-- `_record_failure` does what the worker's function does to the tables. -/
theorem record_failure_refines (now : ℤ) (caseId : String) :
    Refines (WorkerSession.recordFailure now caseId)
      (changeTables fun db => .ok (recordFailure now caseId db)) := by
  refine refines_same (refines_reading _ fun found => refines_changes (mark_failed_refines now caseId found)
    (refines_add _)) ?_
  intro db
  cases found : Keyed.find (·.caseId) caseId db.recoveryCases with
  | none =>
    exact congrArg (fun rows => Except.ok { db with
      recoveryCases := rows, auditLogs := db.auditLogs ++ [WorkerSession.failureEntry caseId] })
      (Keyed.modify_none found).symm
  | some case => rfl

/-- What a failed run has changed: the status of its case, with a new `updated_at`, and one
audit row. -/
structure FailureRecorded (now : ℤ) (case : RecoveryCase) (db db' : Database) : Prop where
  cases : db'.recoveryCases = db.recoveryCases.map fun row =>
    if row.caseId = case.caseId then failed now row else row
  status : Keyed.find (·.caseId) case.caseId db'.recoveryCases = some (failed now case)
  audit : ∃ entry, entry.caseId = case.caseId ∧ entry.step = "process_case" ∧
    db'.auditLogs = db.auditLogs ++ [entry]
  actions : db'.recoveryActions = db.recoveryActions
  approvals : db'.recoveryApprovals = db.recoveryApprovals
  assignments : db'.experimentAssignments = db.experimentAssignments
  snapshots : db'.gatewayHealthSnapshots = db.gatewayHealthSnapshots
  webhooks : db'.webhookEvents = db.webhookEvents

theorem failure_recorded (found : Keyed.find (·.caseId) caseId db.recoveryCases = some case) :
    FailureRecorded now case db (recordFailure now caseId db) := by
  have same : case.caseId = caseId := Keyed.find_key found
  subst same
  constructor
  case status =>
    have keeps (row : RecoveryCase) : (failed now row).caseId = row.caseId := rfl
    exact (Keyed.find_modify_self keeps).trans (congrArg (Option.map (failed now)) found)
  case audit => exact ⟨_, rfl, rfl, rfl⟩
  all_goals rfl

/-! ## Runs -/

/-- What a run has committed when it ends. -/
inductive Committed (d : Deployment) (decision : DecisionInputs) (visit : Visit) (caseId : String)
    (db : Database) :
    Except String WorkerSession.Outcome → Database → Prop where
  | raised (exc : String) : Committed d decision visit caseId db (.error exc) db
  | skipped : Keyed.find (·.caseId) caseId db.recoveryCases = none →
      Committed d decision visit caseId db (.ok .skipped) db
  | failed (exc : String) :
      Committed d decision visit caseId db (.ok (.failed exc)) (recordFailure visit.now caseId db)
  | processed {case : RecoveryCase} {result : RecoveryState} {db' : Database} :
      Keyed.find (·.caseId) caseId db.recoveryCases = some case →
      (visitRun d decision visit case db).2 = .ok result →
      persistResult d.database visit.now case result db = .ok db' →
      Committed d decision visit caseId db (.ok (.processed result)) db'

theorem recovered_committed {u : Unit}
    (recovered : exec (recovery (WorkerSession.recordFailure now caseId)) s = (.ok u, s')) :
    s'.committed = recordFailure now caseId s.committed := by
  have committed := recovery_ok (record_failure_refines now caseId) recovered
  exact (congrArg Prod.snd (Except.ok.inj committed)).symm

/-- Whatever the guarded block meets, it has committed its whole result, the record of its
failure, or nothing. -/
theorem run_case_committed {outcome : Except String WorkerSession.Outcome} (fresh : Fresh s)
    (found : Keyed.find (·.caseId) caseId s.committed.recoveryCases = some case)
    (ran : exec (WorkerSession.runCase d decision visit caseId case) s = (outcome, s')) :
    Committed d decision visit caseId s.committed outcome s'.committed := by
  have attempts := attempt_refines d decision visit case
  have records := record_failure_refines visit.now caseId
  cases outcome with
  | ok outcome =>
    rcases exec_try_ok.mp ran with returned | ⟨exc, s₁, raised, handled⟩
    · obtain ⟨result, s₁, returned, same⟩ := exec_bind_ok.mp returned
      cases same
      have committed := transaction_ok attempts returned
      rw [view_fresh fresh, Raises.ok_bind, attempt_tables_ok] at committed
      exact .processed found committed.1 committed.2
    · obtain ⟨_, s₂, recovered, same⟩ := exec_bind_ok.mp handled
      cases same
      rw [← (transaction_raises attempts (exec_bind_pure_error.mp raised)).committed,
        recovered_committed recovered]
      exact .failed exc
  | error exc =>
    obtain ⟨exc', s₁, raised, handled⟩ := exec_try_error.mp ran
    rw [(recovery_raises records (exec_bind_pure_error.mp handled)).committed,
      (transaction_raises attempts (exec_bind_pure_error.mp raised)).committed]
    exact .raised exc

/-- Whatever a run meets, it has committed its whole result, the record of its failure, or
nothing. -/
theorem process_case_committed {outcome : Except String WorkerSession.Outcome} (fresh : Fresh s)
    (ran : exec (WorkerSession.processCase d decision visit caseId) s = (outcome, s')) :
    Committed d decision visit caseId s.committed outcome s'.committed := by
  rw [WorkerSession.processCase, exec_bind] at ran
  rcases read : exec (WorkerSession.loadCase caseId) s with ⟨exc | found, s₁⟩
  · rw [read] at ran
    cases ran
    rw [(uncommitted_exec (uncommitted_scalar _) read).committed]
    exact .raised exc
  · rw [read] at ran
    obtain ⟨fresh, kept, found_eq⟩ := fresh_scalar fresh read
    rw [← kept] at found_eq ⊢
    cases found with
    | none =>
      cases ran
      exact .skipped found_eq.symm
    | some case => exact run_case_committed fresh found_eq.symm ran

/-- A guarded block that raises leaves the record of its failure, if that is not disturbed in
turn. -/
theorem run_case_failed
    (raised : exec (transaction (WorkerSession.attempt d decision visit case)) s = (.error exc, s₁))
    (calm : Calm s₁) :
    ∃ s', exec (WorkerSession.runCase d decision visit caseId case) s = (.ok (.failed exc), s') ∧
      s'.committed = recordFailure visit.now caseId s.committed := by
  have kept := (transaction_raises (attempt_refines d decision visit case) raised).committed
  obtain ⟨s', recovered, -, recorded⟩ := recovery_calm (record_failure_refines visit.now caseId) calm rfl
  refine ⟨s', exec_try_ok.mpr (.inr ⟨exc, s₁, ?_, ?_⟩), by rw [recorded, kept]⟩
  · exact exec_bind_pure_error.mpr raised
  · exact exec_bind_ok.mpr ⟨(), s', recovered, rfl⟩

/-- Undisturbed, a guarded block commits what the run writes, or the record of its failure. -/
theorem run_case_undisturbed (fresh : Fresh s) (calm : Calm s)
    (found : Keyed.find (·.caseId) caseId s.committed.recoveryCases = some case) :
    ∃ outcome s', exec (WorkerSession.runCase d decision visit caseId case) s = (.ok outcome, s') ∧
      s'.committed = processCase d decision visit caseId s.committed := by
  have attempts := attempt_refines d decision visit case
  unfold processCase
  rw [found]
  dsimp only
  cases written : (visitRun d decision visit case s.committed).2 >>= fun result =>
      persistResult d.database visit.now case result s.committed with
  | ok db =>
    obtain ⟨result, returned, persisted⟩ := Raises.bind_ok.mp written
    have allowed : view s >>= attemptTables d decision visit case = .ok (result, db) := by
      rw [view_fresh fresh, Raises.ok_bind, attempt_tables_ok]
      exact ⟨returned, persisted⟩
    obtain ⟨s', ran, -, committed⟩ := transaction_calm attempts calm allowed
    refine ⟨.processed result, s', exec_try_ok.mpr (.inl ?_), committed⟩
    exact exec_bind_ok.mpr ⟨result, s', ran, rfl⟩
  | error refused =>
    rcases tried : exec (transaction (WorkerSession.attempt d decision visit case)) s with ⟨exc | result, s₁⟩
    · obtain ⟨s', ran, committed⟩ := run_case_failed tried (calm_later calm (transaction_raises attempts tried))
      exact ⟨.failed exc, s', ran, committed⟩
    · have returned := transaction_ok attempts tried
      rw [view_fresh fresh, Raises.ok_bind, attempt_tables_ok] at returned
      rw [Raises.bind_ok.mpr ⟨result, returned.1, returned.2⟩] at written
      cases written

/-- Undisturbed, a run commits what the worker's function says. -/
theorem process_case_undisturbed (d : Deployment) (decision : DecisionInputs) (visit : Visit) (caseId : String)
    (fresh : Fresh s) (calm : Calm s) :
    ∃ outcome s', exec (WorkerSession.processCase d decision visit caseId) s = (.ok outcome, s') ∧
      s'.committed = processCase d decision visit caseId s.committed := by
  obtain ⟨s₁, read, calm⟩ : ∃ s₁, exec (WorkerSession.loadCase caseId) s = (.ok _, s₁) ∧ Calm s₁ :=
    scalar_calm _ calm (view_fresh fresh)
  obtain ⟨fresh, kept, -⟩ := fresh_scalar fresh read
  rw [← kept] at read ⊢
  cases found : Keyed.find (·.caseId) caseId s₁.committed.recoveryCases with
  | none =>
    rw [found] at read
    refine ⟨.skipped, s₁, exec_bind_ok.mpr ⟨none, s₁, read, rfl⟩, ?_⟩
    rw [processCase, found]
  | some case =>
    rw [found] at read
    obtain ⟨outcome, s', ran, committed⟩ := run_case_undisturbed fresh calm found
    exact ⟨outcome, s', exec_bind_ok.mpr ⟨some case, s₁, read, ran⟩, committed⟩

/-- A run that raises at any statement of the guarded block, and is then left in peace, has
recorded its failure and has changed nothing else. -/
theorem failed_run_recorded (fresh : Fresh s)
    (read : exec (WorkerSession.loadCase caseId) s = (.ok (some case), s₁))
    (raised : exec (transaction (WorkerSession.attempt d decision visit case)) s₁ = (.error exc, s₂))
    (calm : Calm s₂) :
    ∃ s', exec (WorkerSession.processCase d decision visit caseId) s = (.ok (.failed exc), s') ∧
      FailureRecorded visit.now case s.committed s'.committed := by
  obtain ⟨-, kept, found⟩ := fresh_scalar fresh read
  obtain ⟨s', ran, committed⟩ := run_case_failed raised calm
  refine ⟨s', exec_bind_ok.mpr ⟨some case, s₁, read, ran⟩, ?_⟩
  rw [committed, kept]
  exact failure_recorded found.symm

/-- A session over one new case, with what its statements meet. -/
def oneCase (faults : List (Option String)) : Session Database :=
  { committed := { recoveryCases := [GraphProofs.sampleCase "REC-00000001" 250000] }
    working := { recoveryCases := [GraphProofs.sampleCase "REC-00000001" 250000] }
    faults }

/-- The connection is lost at the lookup of the approval, after the status has been
flushed. -/
theorem failed_run_recorded_lookup :
    ∃ s', exec (WorkerSession.processCase GraphProofs.sampleDeployment (GraphProofs.sampleDecision .closed "stop")
        (GraphProofs.sampleVisit 0 "ACT-1") "REC-00000001")
        (oneCase [none, none, none, some "connection lost"]) = (.ok (.failed "connection lost"), s') ∧
      FailureRecorded 0 (GraphProofs.sampleCase "REC-00000001" 250000) (oneCase []).committed s'.committed :=
  failed_run_recorded (s := oneCase [none, none, none, some "connection lost"]) ⟨rfl, rfl⟩ rfl rfl
    (fun _ listed => absurd listed List.not_mem_nil)

end RevenueGuard.FailureProofs
