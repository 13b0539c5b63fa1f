import RevenueGuard.CaseFiles
import RevenueGuard.OutcomeProofs

/-!
The transactions of the service on the files of the cases.  `step_files` says that a step
changes no file but those it touches, and takes each of these through one `FileStep`;
`files_invariant` carries what every `FileStep` keeps to the tables of every reached state, and
`file_path` does the same for two points of a run.

A file can only come in empty because no row refers to a case that is not stored.  That is
`rows_referred`; neither of the databases has to check it.
-/

namespace RevenueGuard.CaseFileProofs

open Library Library.Runs Library.Raises GraphProofs WorkerProofs SystemProofs TableProofs DeliveryProofs
  AuditProofs OutcomeProofs

variable {d : Deployment} {s s' t : System} {db db' : Database} {e : Event} {es fs : List Event} {v w : ℕ}
  {caseId other : String} {now : ℤ} {kind : DatabaseKind} {loaded : RecoveryCase} {result : RecoveryState}

/-! ## Rows refer to stored cases -/

def Stored (db : Database) (caseId : String) : Prop := ∃ case ∈ db.recoveryCases, case.caseId = caseId

theorem stored_kept (stepped : DbStep d s db) (stored : Stored s.db caseId) : Stored db caseId := by
  obtain ⟨case, member, rfl⟩ := stored
  obtain ⟨kept, member, same⟩ := case_kept stepped member
  exact ⟨kept, member, (intake_part_amount same).1⟩

/-- The case that a worker has found in the table. -/
def foundCase : WorkerPhase → Option String
  | .popped _ => none
  | phase => phase.caseId

theorem found_case_step (stepped : step d s e = some s') (found : foundCase (s'.workers v) = some caseId) :
    foundCase (s.workers v) = some caseId ∨ Stored s.db caseId := by
  cases step_cases stepped with
  | request moved => cases moved <;> exact .inl found
  | @worker w _ _ moved =>
    by_cases same : v = w
    · subst same
      cases moved with
      | popLost => exact .inl found
      | @load _ case phase listed =>
        simp only [tick_workers, set_worker_workers, Function.update_self, foundCase, WorkerPhase.caseId,
          Option.some.injEq] at found
        exact .inr ⟨case, Keyed.find_mem listed, found⟩
      | @raise _ working notPopped notFailed =>
        simp only [tick_workers, release_workers, Function.update_self, foundCase, WorkerPhase.caseId,
          Option.some.injEq] at found
        left
        rw [← found, ← working]
        cases phase : s.workers v with
        | popped _ => exact (notPopped _ phase).elim
        | _ => rfl
      | gate phase | decide phase | decideFails phase | finish phase | finishFails phase
      | persistFails phase =>
        simp only [tick_workers, set_worker_workers, release_workers, Function.update_self] at found
        exact .inl (by rw [phase]; exact found)
      | _ => simp [foundCase, WorkerPhase.caseId] at found
    · left
      cases moved with
      | popLost => exact found
      | _ => simpa [Function.update_of_ne same] using found

/-- What a worker has found stays stored. -/
theorem found_stored (ran : run (step d) {} es = some s) :
    ∀ w caseId, foundCase (s.workers w) = some caseId → Stored s.db caseId := by
  refine run_invariant (P := fun s => ∀ w caseId, foundCase (s.workers w) = some caseId → Stored s.db caseId)
    (fun s e s' known stepped w caseId found => ?_) (fun _ _ found => by cases found) ran
  rcases found_case_step stepped found with earlier | stored
  · exact stored_kept (step_db stepped) (known w caseId earlier)
  · exact stored_kept (step_db stepped) stored

/-- The cases that the rows of the other tables belong to. -/
def owners (db : Database) : List String :=
  db.recoveryActions.map (·.caseId) ++ db.auditLogs.map (·.caseId) ++
    db.gatewayHealthSnapshots.map (·.caseId) ++ db.experimentAssignments.map (·.caseId) ++
    db.recoveryApprovals.map (·.caseId)

/-- Every row of the other tables belongs to a stored case. -/
def RowsReferred (db : Database) : Prop := ∀ caseId ∈ owners db, Stored db caseId

theorem mem_owners : caseId ∈ owners db ↔ (∃ r ∈ db.recoveryActions, r.caseId = caseId) ∨
    (∃ r ∈ db.auditLogs, r.caseId = caseId) ∨ (∃ r ∈ db.gatewayHealthSnapshots, r.caseId = caseId) ∨
    (∃ r ∈ db.experimentAssignments, r.caseId = caseId) ∨ ∃ r ∈ db.recoveryApprovals, r.caseId = caseId := by
  simp only [owners, List.mem_append, List.mem_map, or_assoc]

theorem mem_insert_assignment {arm : Option ExperimentArm} {rows : List ExperimentAssignmentRecord}
    {r : ExperimentAssignmentRecord} (listed : r ∈ insertAssignment caseId arm rows) :
    r ∈ rows ∨ r.caseId = caseId := by
  unfold insertAssignment at listed
  split at listed
  · exact .inl listed
  · split at listed
    · exact .inl listed
    · rcases List.mem_append.mp listed with known | new
      · exact .inl known
      · rw [List.mem_singleton.mp new]
        exact .inr rfl

/-- The health rows after a committed run. -/
theorem persist_snapshots (committed : persistResult kind now loaded result db = .ok db') :
    db'.gatewayHealthSnapshots = db.gatewayHealthSnapshots ++
      (result.gatewayHealth.map fun snapshot => { caseId := loaded.caseId, snapshot }).toList := by
  simp only [persistResult, bind_ok] at committed
  obtain ⟨_, _, committed⟩ := committed
  split at committed
  · obtain ⟨_, raised, _⟩ := bind_ok.mp committed
    cases raised
  · simp only [bind_ok, pure_ok] at committed
    obtain ⟨_, _, rfl⟩ := committed
    rfl

/-- A new row belongs to the case that the committing worker has found. -/
theorem owners_step (stepped : DbStep d s db) (owned : caseId ∈ owners db) :
    caseId ∈ owners s.db ∨ ∃ w, foundCase (s.workers w) = some caseId := by
  cases stepped with
  | unchanged => exact .inl owned
  | webhook _ committed =>
    obtain ⟨_, _, rfl⟩ := commit_webhook_ok committed
    exact .inl owned
  | batch _ committed =>
    obtain ⟨_, rfl⟩ := commit_batch_ok committed
    exact .inl owned
  | @verdict _ verdict loaded now _ =>
    have same : (commitVerdict verdict now loaded s.db).recoveryApprovals.map (·.caseId) =
        s.db.recoveryApprovals.map (·.caseId) := Keyed.map_modify fun _ => rfl
    rw [owners, same] at owned
    exact .inl owned
  | @persist w rows result now _ phase committed =>
    have persisted := persist_result_ok committed
    have mine : foundCase (s.workers w) = some rows.case.caseId := by rw [phase]; rfl
    have ofMine {owner : String} (same : owner = rows.case.caseId) :
        ∃ w, foundCase (s.workers w) = some owner := ⟨w, by rw [same]; exact mine⟩
    rw [mem_owners] at owned ⊢
    rcases owned with ⟨r, listed, rfl⟩ | ⟨r, listed, rfl⟩ | ⟨r, listed, rfl⟩ | ⟨r, listed, rfl⟩ |
      ⟨r, listed, rfl⟩
    · rcases mem_insert_actions persisted.recoveryActions listed with known | ⟨_, _, rfl⟩
      · exact .inl (.inl ⟨r, known, rfl⟩)
      · exact .inr (ofMine rfl)
    · rw [(persist_result_written committed).2] at listed
      rcases List.mem_append.mp listed with known | new
      · exact .inl (.inr (.inl ⟨r, known, rfl⟩))
      · obtain ⟨_, _, rfl⟩ := List.mem_map.mp new
        exact .inr (ofMine rfl)
    · rw [persist_snapshots committed] at listed
      rcases List.mem_append.mp listed with known | new
      · exact .inl (.inr (.inr (.inl ⟨r, known, rfl⟩)))
      · obtain ⟨_, _, rfl⟩ := Option.map_eq_some_iff.mp (Option.mem_toList.mp new)
        exact .inr (ofMine rfl)
    · rw [persisted.experimentAssignments] at listed
      rcases mem_insert_assignment listed with known | new
      · exact .inl (.inr (.inr (.inr (.inl ⟨r, known, rfl⟩))))
      · exact .inr (ofMine new)
    · rcases insert_approval_ok persisted.recoveryApprovals with same | ⟨record, _, _, _, grown⟩
      · rw [same] at listed
        exact .inl (.inr (.inr (.inr (.inr ⟨r, listed, rfl⟩))))
      · rw [grown] at listed
        rcases List.mem_append.mp listed with known | new
        · exact .inl (.inr (.inr (.inr (.inr ⟨r, known, rfl⟩))))
        · rw [List.mem_singleton.mp new]
          exact .inr (ofMine rfl)
  | @recordFailure w failed _ phase =>
    have mine : foundCase (s.workers w) = some failed := by rw [phase]; rfl
    rw [mem_owners] at owned ⊢
    rcases owned with known | ⟨r, listed, rfl⟩ | known
    · exact .inl (.inl known)
    · rcases List.mem_append.mp listed with known | new
      · exact .inl (.inr (.inl ⟨r, known, rfl⟩))
      · rw [List.mem_singleton.mp new]
        exact .inr ⟨w, mine⟩
    · exact .inl (.inr (.inr known))

/-- In every reached state, on SQLite too, no row refers to a case that is not stored. -/
theorem rows_referred (ran : run (step d) {} es = some s) : RowsReferred s.db := by
  refine run_history (P := fun _ s => RowsReferred s.db) (fun _ owned => by simp [owners] at owned) ?_ ran
  intro es s e s' ranBefore referred stepped caseId owned
  apply stored_kept (step_db stepped)
  rcases owners_step (step_db stepped) owned with known | ⟨w, found⟩
  · exact referred caseId known
  · exact found_stored ranBefore w caseId found

/-! ## Rows of cases -/

/-- What a case comes in with and every write keeps, every row of a case has, in the table and
where a worker has read it. -/
theorem rows_invariant {Q : RecoveryCase → Prop} (intake : ∀ case, intakePart case = case → Q case)
    (update : ∀ now loaded result current, Q loaded → Q current → Q (updateCase now loaded result current))
    (failure : ∀ (now : ℤ) case, Q case → Q { case with status := .failed, updatedAt := some now })
    (ran : run (step d) {} es = some s) :
    (∀ case ∈ s.db.recoveryCases, Q case) ∧ ∀ w case, workedCase (s.workers w) = some case → Q case := by
  refine run_history (P := fun _ s => (∀ case ∈ s.db.recoveryCases, Q case) ∧
    ∀ w case, workedCase (s.workers w) = some case → Q case) ?_ ?_ ran
  · exact ⟨fun _ listed => (by cases listed), fun _ _ worked => (by cases worked)⟩
  rintro es s e s' ranBefore ⟨rows, reads⟩ stepped
  constructor
  · intro case listed
    cases step_commit stepped with
    | nothing same => exact rows case (same ▸ listed)
    | @webhook i now record new _ phase committed =>
      obtain ⟨_, _, written⟩ := commit_webhook_ok committed
      have staged := staged_intake ranBefore i
      rw [phase] at staged
      rw [written] at listed
      rcases List.mem_append.mp listed with known | added
      · exact rows case known
      · exact intake case (staged case (Option.mem_toList.mp added))
    | @batch i now cases _ phase committed =>
      obtain ⟨_, written⟩ := commit_batch_ok committed
      have staged := staged_intake ranBefore i
      rw [phase] at staged
      rw [written] at listed
      rcases List.mem_append.mp listed with known | added
      · exact rows case known
      · exact intake case (staged case added)
    | verdict _ written => exact rows case (by rw [written] at listed; exact listed)
    | @persist w now read result _ phase committed =>
      rw [(persist_result_ok committed).recoveryCases] at listed
      rcases Keyed.mem_modify.mp listed with ⟨old, known, _, rfl⟩ | ⟨known, _⟩
      · exact update now read.case result old (reads w read.case (by rw [phase]; rfl)) (rows old known)
      · exact rows case known
    | recordFailure _ written =>
      rw [written] at listed
      rcases Keyed.mem_modify.mp listed with ⟨old, known, _, rfl⟩ | ⟨known, _⟩
      · exact failure _ old (rows old known)
      · exact rows case known
  · intro w case worked
    rcases worked_case_step stepped worked with earlier | read
    · exact reads w case earlier
    · exact rows case read

/-- No retry is counted back. -/
theorem retry_counts (ran : run (step d) {} es = some s) :
    (∀ case ∈ s.db.recoveryCases, 0 ≤ case.retryCount) ∧
      ∀ w case, workedCase (s.workers w) = some case → 0 ≤ case.retryCount := by
  refine rows_invariant (Q := fun case => 0 ≤ case.retryCount) (fun case fresh => ?_)
    (fun now loaded result current read held => ?_) (fun _ _ held => held) ran
  · rw [← fresh]
    exact le_refl 0
  · simp only [updateCase]
    split <;> omega

/-- The row that a worker has read is stored, with what it came in with. -/
theorem worked_intake (ran : run (step d) {} es = some s) : ∀ w case, workedCase (s.workers w) = some case →
    ∃ stored ∈ s.db.recoveryCases, intakePart case = intakePart stored := by
  refine run_invariant (P := fun s => ∀ w case, workedCase (s.workers w) = some case →
    ∃ stored ∈ s.db.recoveryCases, intakePart case = intakePart stored)
    (fun s e s' known stepped w case worked => ?_) (fun _ _ worked => by cases worked) ran
  obtain ⟨stored, member, same⟩ : ∃ stored ∈ s.db.recoveryCases, intakePart case = intakePart stored := by
    rcases worked_case_step stepped worked with earlier | read
    · exact known w case earlier
    · exact ⟨case, read, rfl⟩
  obtain ⟨kept, member, keptSame⟩ := case_kept (step_db stepped) member
  exact ⟨kept, member, same.trans keptSame.symm⟩

/-! ## What the rows of a file agree on -/

/-- The key of a stored action names the case that its row belongs to. -/
def OwnKeys (rows : List RecoveryAction) : Prop := ∀ r ∈ rows, r.idempotencyKey.caseId = r.caseId

theorem own_keys (ran : run (step d) {} es = some s) : OwnKeys s.db.recoveryActions :=
  fun r stored => (rows_of_keys ran r stored).caseId

/-- What an endpoint is about to decide is stored, for the case it was loaded for. -/
def DecidingKnown (s : System) : Prop := ∀ i verdict loaded, s.requests i = .deciding verdict loaded →
  ∃ row ∈ s.db.recoveryApprovals, requestPart row = requestPart loaded

theorem request_part_identity {row loaded : RecoveryApproval} (same : requestPart row = requestPart loaded) :
    row.approvalId = loaded.approvalId ∧ row.caseId = loaded.caseId :=
  ⟨congrArg (·.approvalId) same, congrArg (·.caseId) same⟩

theorem deciding_known (ran : run (step d) {} es = some s) : DecidingKnown s := by
  refine run_invariant (P := DecidingKnown) (fun s e s' known stepped i verdict loaded deciding => ?_)
    (fun _ _ _ deciding => by cases deciding) ran
  rcases deciding_step stepped deciding with earlier | ⟨read, same⟩
  · obtain ⟨row, stored, part⟩ := known i verdict loaded earlier
    obtain ⟨kept, stored, keptPart⟩ := approval_kept (step_db stepped) stored
    exact ⟨kept, stored, keptPart.trans part⟩
  · exact ⟨loaded, same ▸ Keyed.find_mem read, rfl⟩

/-! ## The transactions on one file -/

theorem find_stored (stored : Stored db caseId) :
    ∃ case, Keyed.find (·.caseId) caseId db.recoveryCases = some case := by
  obtain ⟨case, member, ofCase⟩ := stored
  cases found : Keyed.find (·.caseId) caseId db.recoveryCases with
  | none => exact (Keyed.find_none.mp found case member ofCase).elim
  | some case => exact ⟨case, rfl⟩

/-- A case that is not stored has no rows anywhere. -/
theorem file_empty (referred : RowsReferred db) (missing : ¬ Stored db caseId) : fileOf caseId db = {} := by
  have absent : Keyed.find (·.caseId) caseId db.recoveryCases = none :=
    Keyed.find_none.mpr fun case member ofCase => missing ⟨case, member, ofCase⟩
  have unowned := mt mem_owners.mpr fun owned => missing (referred caseId owned)
  push Not at unowned
  obtain ⟨actions, audits, snapshots, assignments, approvals⟩ := unowned
  have nothing {ρ : Type} {owner : ρ → String} {rows : List ρ} (others : ∀ r ∈ rows, owner r ≠ caseId) :
      rows.filter (fun r => owner r = caseId) = [] := by simpa using others
  rw [fileOf, absent, nothing actions, nothing audits, nothing snapshots, nothing assignments,
    nothing approvals]

/-- Every new case opens its file. -/
theorem file_intake {cases : List RecoveryCase} (webhookEvents : List WebhookEvent)
    (unique : ((db.recoveryCases ++ cases).map (·.caseId)).Nodup) (referred : RowsReferred db)
    (fresh : ∀ new ∈ cases, intakePart new = new)
    (written : db' = { db with webhookEvents, recoveryCases := db.recoveryCases ++ cases })
    (listed : caseId ∈ cases.map (·.caseId)) :
    FileStep d caseId (fileOf caseId db) (fileOf caseId db') := by
  obtain ⟨new, member, ofCase⟩ := List.mem_map.mp listed
  rw [List.map_append] at unique
  obtain ⟨_, uniqueNew, apart⟩ := List.nodup_append.mp unique
  have missing : ¬ Stored db caseId := by
    rintro ⟨known, stored, same⟩
    exact apart _ (List.mem_map_of_mem stored) _ listed same
  have found : Keyed.find (·.caseId) caseId db'.recoveryCases = some new := by
    have absent : Keyed.find (·.caseId) caseId db.recoveryCases = none :=
      Keyed.find_none.mpr fun case stored ofCase => missing ⟨case, stored, ofCase⟩
    rw [written, Keyed.find_append, absent, Option.none_or, ← ofCase]
    exact Keyed.find_of_mem uniqueNew member
  have rest : fileOf caseId db' = { fileOf caseId db with case := some new } := by
    rw [← found, written]
    rfl
  rw [rest, file_empty referred missing]
  exact .opened ofCase (fresh new member)

/-- New cases leave the other files. -/
theorem file_intake_other {cases : List RecoveryCase} (webhookEvents : List WebhookEvent)
    (written : db' = { db with webhookEvents, recoveryCases := db.recoveryCases ++ cases })
    (others : caseId ∉ cases.map (·.caseId)) : fileOf caseId db' = fileOf caseId db := by
  have absent : Keyed.find (·.caseId) caseId cases = none :=
    Keyed.find_none.mpr fun case member ofCase => others (List.mem_map.mpr ⟨case, member, ofCase⟩)
  have row : Keyed.find (·.caseId) caseId db'.recoveryCases =
      Keyed.find (·.caseId) caseId db.recoveryCases := by
    rw [written, Keyed.find_append, absent, Option.or_none]
  rw [fileOf, row, written]
  rfl

/-- The inserts of a run are inserts into the rows of its case. -/
theorem insert_actions_filter {rows rows' actions : List RecoveryAction}
    (inserted : insertActions caseId rows actions = .ok rows') (own : OwnKeys rows)
    (mine : ∀ action ∈ actions, action.idempotencyKey.caseId = caseId) :
    insertActions caseId (rows.filter fun r => r.caseId = caseId) actions =
      .ok (rows'.filter fun r => r.caseId = caseId) := by
  induction actions generalizing rows with
  | nil =>
    cases inserted
    rfl
  | cons action rest ih =>
    have mineRest := fun later member => mine later (List.mem_cons_of_mem _ member)
    have sameKey : ((rows.filter fun r => r.caseId = caseId).any
        fun r => r.idempotencyKey = action.idempotencyKey) =
          rows.any fun r => r.idempotencyKey = action.idempotencyKey := by
      rw [List.any_filter, Bool.eq_iff_iff]
      simp only [List.any_eq_true, Bool.and_eq_true, decide_eq_true_eq]
      refine exists_congr fun r => and_congr_right fun listed => and_iff_right_of_imp fun same => ?_
      rw [← own r listed, same]
      exact mine action List.mem_cons_self
    simp only [insertActions] at inserted ⊢
    rw [sameKey]
    split at inserted
    · rename_i stored
      rw [if_pos stored]
      exact ih inserted own mineRest
    · rename_i missing
      rw [if_neg missing]
      split at inserted
      · cases inserted
      · rename_i free
        have freeHere : ¬ ((rows.filter fun r => r.caseId = caseId).any
            fun r => r.actionId = action.actionId) = true := by
          rw [List.any_filter]
          simp only [List.any_eq_true, Bool.and_eq_true, decide_eq_true_eq, not_exists, not_and] at free ⊢
          exact fun r listed _ => free r listed
        rw [if_neg freeHere]
        have grown : OwnKeys (rows ++ [{ action with caseId }]) := by
          intro r listed
          rcases List.mem_append.mp listed with known | new
          · exact own r known
          · rw [List.mem_singleton.mp new]
            exact mine action List.mem_cons_self
        have later := ih inserted grown mineRest
        rwa [List.filter_append, List.filter_singleton, decide_eq_true rfl] at later

theorem insert_actions_other {rows rows' actions : List RecoveryAction} (apart : other ≠ caseId)
    (inserted : insertActions caseId rows actions = .ok rows') :
    (rows'.filter fun r => r.caseId = other) = rows.filter fun r => r.caseId = other := by
  induction actions generalizing rows with
  | nil =>
    cases inserted
    rfl
  | cons action rest ih =>
    simp only [insertActions] at inserted
    split at inserted
    · exact ih inserted
    · split at inserted
      · cases inserted
      · rw [ih inserted, List.filter_append, List.filter_singleton, decide_eq_false (Ne.symm apart)]
        simp

/-- Rows for one case are appended to its own rows. -/
theorem filter_append_self {ρ : Type} {owner : ρ → String} {rows new : List ρ}
    (mine : ∀ r ∈ new, owner r = caseId) :
    ((rows ++ new).filter fun r => owner r = caseId) = (rows.filter fun r => owner r = caseId) ++ new := by
  rw [List.filter_append]
  congr 1
  exact List.filter_eq_self.mpr fun r listed => decide_eq_true (mine r listed)

theorem filter_append_other {ρ : Type} {owner : ρ → String} {rows new : List ρ} (apart : other ≠ caseId)
    (mine : ∀ r ∈ new, owner r = caseId) :
    ((rows ++ new).filter fun r => owner r = other) = rows.filter fun r => owner r = other := by
  have nothing : (new.filter fun r => owner r = other) = [] :=
    List.filter_eq_nil_iff.mpr fun r listed same =>
      apart ((of_decide_eq_true same).symm.trans (mine r listed))
  rw [List.filter_append, nothing, List.append_nil]

/-- The commit of a run in the file of its case. -/
theorem file_persist {x : GraphRun} {case : RecoveryCase}
    (found : Keyed.find (·.caseId) x.rows.case.caseId db.recoveryCases = some case)
    (intake : intakePart x.rows.case = intakePart case) (counted : 0 ≤ x.rows.case.retryCount)
    (own : OwnKeys db.recoveryActions)
    (approved : ∀ row, x.rows.approval = some row → row.status = .approved) (ran : (x.outcome d).2 = .ok result)
    (committed : persistResult kind now x.rows.case result db = .ok db') :
    FileStep d x.rows.case.caseId (fileOf x.rows.case.caseId db) (fileOf x.rows.case.caseId db') := by
  have persisted := persist_result_ok committed
  have inserted := insert_actions_filter persisted.recoveryActions own fun action executed =>
    executed_own_key ran executed
  have approvals : (fileOf x.rows.case.caseId db').approvals = (fileOf x.rows.case.caseId db).approvals ∨
      ∃ record, result.approvalRecord = some (.requested record) ∧
        (fileOf x.rows.case.caseId db').approvals =
          (fileOf x.rows.case.caseId db).approvals ++ [pendingApproval x.rows.case.caseId record] := by
    rcases insert_approval_ok persisted.recoveryApprovals with same | ⟨record, _, requested, _, grown⟩
    · exact .inl (by simp only [fileOf, same])
    · refine .inr ⟨record, requested, ?_⟩
      simp only [fileOf, grown]
      exact filter_append_self (by simp [pendingApproval])
  have moved : fileOf x.rows.case.caseId db' = (fileOf x.rows.case.caseId db).worked now x.rows.case result
      (fileOf x.rows.case.caseId db').actions (fileOf x.rows.case.caseId db').approvals := by
    simp only [fileOf, CaseFile.worked, CaseFile.mk.injEq, true_and, and_true]
    refine ⟨?_, ?_, ?_, ?_⟩
    · rw [persisted.recoveryCases, find_update]
    · rw [(persist_result_written committed).2]
      exact filter_append_self (by simp)
    · rw [persist_snapshots committed]
      refine filter_append_self fun r listed => ?_
      obtain ⟨_, _, rfl⟩ := Option.map_eq_some_iff.mp (Option.mem_toList.mp listed)
      rfl
    · rw [persisted.experimentAssignments]
      exact assignments_insert_self ..
  rw [moved]
  exact .worked found rfl intake counted approved ran inserted approvals

/-- It leaves every other file. -/
theorem file_persist_other (apart : caseId ≠ loaded.caseId)
    (committed : persistResult kind now loaded result db = .ok db') : fileOf caseId db' = fileOf caseId db := by
  have persisted := persist_result_ok committed
  simp only [fileOf, CaseFile.mk.injEq]
  refine ⟨?_, insert_actions_other apart persisted.recoveryActions, ?_, ?_, ?_, ?_⟩
  · rw [persisted.recoveryCases]
    exact Keyed.find_modify_other (fun _ => rfl) apart
  · rw [(persist_result_written committed).2]
    exact filter_append_other apart (by simp)
  · rw [persist_snapshots committed]
    refine filter_append_other apart fun r listed => ?_
    obtain ⟨_, _, rfl⟩ := Option.map_eq_some_iff.mp (Option.mem_toList.mp listed)
    rfl
  · rw [persisted.experimentAssignments]
    exact assignments_insert_other apart ..
  · rcases insert_approval_ok persisted.recoveryApprovals with same | ⟨record, _, _, _, grown⟩
    · rw [same]
    · rw [grown]
      exact filter_append_other apart (by simp [pendingApproval])

theorem file_failure (stored : Stored db caseId) :
    FileStep d caseId (fileOf caseId db) (fileOf caseId (recordFailure now caseId db)) := by
  obtain ⟨case, found⟩ := find_stored stored
  have moved : fileOf caseId (recordFailure now caseId db) = (fileOf caseId db).failed now caseId := by
    simp only [fileOf, recordFailure, CaseFile.failed, CaseFile.mk.injEq, true_and, and_true]
    exact ⟨Keyed.find_modify_self fun _ => rfl, filter_append_self (by simp)⟩
  rw [moved]
  exact .failed found

theorem file_failure_other (apart : caseId ≠ other) :
    fileOf caseId (recordFailure now other db) = fileOf caseId db := by
  simp only [fileOf, recordFailure, CaseFile.mk.injEq, true_and, and_true]
  exact ⟨Keyed.find_modify_other (fun _ => rfl) apart, filter_append_other apart (by simp)⟩

theorem filter_verdict {verdict : Verdict} {loaded : RecoveryApproval} (rows : List RecoveryApproval) :
    ((Keyed.modify (·.approvalId) loaded.approvalId (decideApproval verdict now loaded) rows).filter
      fun r => r.caseId = caseId) =
        Keyed.modify (·.approvalId) loaded.approvalId (decideApproval verdict now loaded)
          (rows.filter fun r => r.caseId = caseId) := by
  rw [Keyed.modify, Keyed.modify, List.filter_map]
  congr 1
  apply List.filter_congr
  intro r _
  simp only [Function.comp_apply]
  split <;> rfl

theorem file_verdict {verdict : Verdict} {known loaded : RecoveryApproval}
    (stored : known ∈ db.recoveryApprovals) (same : requestPart known = requestPart loaded) :
    FileStep d loaded.caseId (fileOf loaded.caseId db)
      (fileOf loaded.caseId (commitVerdict verdict now loaded db)) := by
  obtain ⟨ofId, ofCase⟩ := request_part_identity same
  have listed : known ∈ (fileOf loaded.caseId db).approvals := by simp [fileOf, stored, ofCase]
  have moved : fileOf loaded.caseId (commitVerdict verdict now loaded db) =
      (fileOf loaded.caseId db).decided verdict now loaded := by
    simp only [fileOf, commitVerdict, CaseFile.decided, CaseFile.mk.injEq, true_and]
    exact filter_verdict _
  rw [moved]
  exact .decided listed ofId

theorem file_verdict_other {verdict : Verdict} {known loaded : RecoveryApproval}
    (unique : (db.recoveryApprovals.map (·.approvalId)).Nodup) (stored : known ∈ db.recoveryApprovals)
    (same : requestPart known = requestPart loaded) (apart : caseId ≠ loaded.caseId) :
    fileOf caseId (commitVerdict verdict now loaded db) = fileOf caseId db := by
  obtain ⟨ofId, ofCase⟩ := request_part_identity same
  simp only [fileOf, commitVerdict, CaseFile.mk.injEq, true_and]
  refine (filter_verdict _).trans (Keyed.modify_none (Keyed.find_none.mpr ?_))
  intro r listed sameId
  obtain ⟨member, mine⟩ := List.mem_filter.mp listed
  have row : r = known := List.inj_on_of_nodup_map unique member stored (sameId.trans ofId.symm)
  rw [row, decide_eq_true_eq, ofCase] at mine
  exact apart mine.symm

/-! ## Steps and runs -/

/-- A step leaves all files, or takes each file it touches through one transaction and leaves
the others. -/
theorem step_files (ran : run (step d) {} es = some s) (stepped : step d s e = some s') :
    (∀ caseId, fileOf caseId s'.db = fileOf caseId s.db) ∨
      ((∀ caseId ∈ touched s e, FileStep d caseId (fileOf caseId s.db) (fileOf caseId s'.db)) ∧
        ∀ caseId, caseId ∉ touched s e → fileOf caseId s'.db = fileOf caseId s.db) := by
  have referred := rows_referred ran
  cases step_commit stepped with
  | nothing same => exact .inl fun _ => by rw [same]
  | @webhook i now record case _ phase committed =>
    have unique := case_ids_step (case_ids_unique ran) (step_db stepped)
    obtain ⟨_, _, written⟩ := commit_webhook_ok committed
    rw [written] at unique
    have staged := staged_intake ran i
    rw [phase] at staged
    have touches : touched s (.request i (.commit now)) = case.toList.map (·.caseId) := by
      simp only [touched, phase, Option.toList_map]
    rw [touches]
    exact .inr ⟨fun _ => file_intake _ unique referred (fun new listed => staged new (by simpa using listed))
      written, fun _ => file_intake_other _ written⟩
  | @batch i now cases _ phase committed =>
    obtain ⟨unique, written⟩ := commit_batch_ok committed
    have staged := staged_intake ran i
    rw [phase] at staged
    have touches : touched s (.request i (.commit now)) = cases.map (·.caseId) := by
      simp only [touched, phase]
    rw [touches]
    exact .inr ⟨fun _ => file_intake _ unique referred staged written, fun _ => file_intake_other _ written⟩
  | @verdict i now verdict loaded _ phase written =>
    obtain ⟨known, stored, part⟩ := deciding_known ran i verdict loaded phase
    have touches : touched s (.request i (.commit now)) = [loaded.caseId] := by simp only [touched, phase]
    simp only [touches, List.mem_singleton, forall_eq, written]
    exact .inr ⟨file_verdict stored part, fun _ => file_verdict_other (approval_ids_unique ran) stored part⟩
  | @persist w now rows result _ phase committed =>
    have recorded := runs_recorded ran w
    rw [phase] at recorded
    obtain ⟨x, _, rfl, finished⟩ := recorded
    obtain ⟨case, stored, intake⟩ := worked_intake ran w x.rows.case (by rw [phase]; rfl)
    have found : Keyed.find (·.caseId) x.rows.case.caseId s.db.recoveryCases = some case := by
      rw [(intake_part_amount intake).1]
      exact Keyed.find_of_mem (case_ids_unique ran) stored
    have touches : touched s (.worker w (.persist now)) = [x.rows.case.caseId] := by
      simp only [touched, phase, WorkerPhase.caseId, Option.toList_some]
    simp only [touches, List.mem_singleton, forall_eq]
    have counted := (retry_counts ran).2 w x.rows.case (by rw [phase]; rfl)
    have approved := loaded_approved ran (.inl ⟨w, by rw [phase]; rfl⟩ : RowsIn s x.rows)
    exact .inr ⟨file_persist found intake counted (own_keys ran) approved finished committed,
      fun _ apart => file_persist_other apart committed⟩
  | @recordFailure w now failed _ phase written =>
    have stored := found_stored ran w failed (by rw [phase]; rfl)
    have touches : touched s (.worker w (.recordFailure now)) = [failed] := by
      simp only [touched, phase, WorkerPhase.caseId, Option.toList_some]
    simp only [touches, List.mem_singleton, forall_eq, written]
    exact .inr ⟨file_failure stored, fun _ => file_failure_other⟩

theorem step_file (ran : run (step d) {} es = some s) (stepped : step d s e = some s') (caseId : String) :
    fileOf caseId s'.db = fileOf caseId s.db ∨
      FileStep d caseId (fileOf caseId s.db) (fileOf caseId s'.db) := by
  rcases step_files ran stepped with same | ⟨moved, others⟩
  · exact .inl (same caseId)
  · by_cases mine : caseId ∈ touched s e
    · exact .inr (moved caseId mine)
    · exact .inl (others caseId mine)

/-- What every transaction keeps holds of every file in every reached state. -/
theorem files_invariant {P : String → CaseFile → Prop} (start : ∀ caseId, P caseId {})
    (kept : ∀ caseId file file', P caseId file → FileStep d caseId file file' → P caseId file')
    (ran : run (step d) {} es = some s) (caseId : String) : P caseId (fileOf caseId s.db) := by
  have empty : P caseId (fileOf caseId ({} : System).db) := start caseId
  refine run_history (P := fun _ s => P caseId (fileOf caseId s.db)) empty ?_ ran
  intro es s e s' ranBefore held stepped
  rcases step_file ranBefore stepped caseId with same | moved
  · rw [same]
    exact held
  · exact kept _ _ _ held moved

/-- Between two points of a run a file goes through transactions and nothing else. -/
theorem file_path (ran : run (step d) {} es = some s) (later : run (step d) {} (es ++ fs) = some s')
    (caseId : String) : FilePath d caseId (fileOf caseId s.db) (fileOf caseId s'.db) := by
  refine run_related (R := fun s s' : System => FilePath d caseId (fileOf caseId s.db) (fileOf caseId s'.db))
    (fun _ => .refl) (fun _ _ _ => Relation.ReflTransGen.trans) ?_ ran later
  intro es s e s' ranBefore stepped
  rcases step_file ranBefore stepped caseId with same | moved
  · rw [same]
    exact .refl
  · exact .single moved

/-- The service refines the store of the files: between two points of a run the files go through
transactions of the store. -/
theorem service_refines (ran : run (step d) {} es = some s) (later : run (step d) {} (es ++ fs) = some s') :
    Relation.ReflTransGen (StoreStep d) (fun caseId => fileOf caseId s.db) fun caseId => fileOf caseId s'.db := by
  refine run_related (R := fun s s' : System => Relation.ReflTransGen (StoreStep d)
    (fun caseId => fileOf caseId s.db) fun caseId => fileOf caseId s'.db)
    (fun _ => .refl) (fun _ _ _ => Relation.ReflTransGen.trans) ?_ ran later
  intro es s e s' ranBefore stepped
  apply Relation.ReflTransGen.single
  rcases step_files ranBefore stepped with same | ⟨moved, others⟩
  · exact ⟨[], fun _ listed => (by cases listed), fun caseId _ => same caseId⟩
  · exact ⟨touched s e, moved, others⟩

/-- A case that comes in and is processed. -/
def processedRun : List Event :=
  sampleIntake 0 "00000001" 250000 ++ [.request 0 (.push .delivered)] ++
    sampleProcess 0 "payment_link" 1788501600000000 "action-1"

theorem service_refines_processed : ∃ s s',
    run (step sampleDeployment) {} (processedRun.take 5) = some s ∧
      run (step sampleDeployment) {} (processedRun.take 5 ++ processedRun.drop 5) = some s' ∧
      (fileOf "REC-00000001" s.db).actions.length = 0 ∧ (fileOf "REC-00000001" s'.db).actions.length = 1 ∧
      Relation.ReflTransGen (StoreStep sampleDeployment) (fun caseId => fileOf caseId s.db)
        fun caseId => fileOf caseId s'.db := by
  obtain ⟨s, ran, before⟩ : ∃ s, run (step sampleDeployment) {} (processedRun.take 5) = some s ∧
      (fileOf "REC-00000001" s.db).actions.length = 0 := ⟨_, rfl, rfl⟩
  obtain ⟨s', later, after⟩ : ∃ s',
      run (step sampleDeployment) {} (processedRun.take 5 ++ processedRun.drop 5) = some s' ∧
        (fileOf "REC-00000001" s'.db).actions.length = 1 := ⟨_, rfl, rfl⟩
  exact ⟨s, s', ran, later, before, after, service_refines ran later⟩

end RevenueGuard.CaseFileProofs
