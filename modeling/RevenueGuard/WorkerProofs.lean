import RevenueGuard.Library.Raises
import RevenueGuard.Approvals

/-!
One lemma for each operation that a worker or an approval endpoint performs on
the committed tables.
-/

namespace RevenueGuard.WorkerProofs

open Library Library.Raises

variable {caseId : String} {db db' : Database} {result : RecoveryState} {kind : DatabaseKind} {now : ℤ}
  {loaded case : RecoveryCase} {approval : RecoveryApproval}

/-! ## Reads -/

theorem mem_active_approvals : approval ∈ activeApprovals db caseId ↔
    (approval ∈ db.recoveryApprovals ∧ approval.caseId = caseId ∧ approval.status = .approved) ∧
      ∀ other ∈ db.recoveryApprovals, other.caseId = caseId → other.status = .approved →
        other.approvedAt.getD 0 ≤ approval.approvedAt.getD 0 := by
  simp only [activeApprovals, List.mem_filter, Bool.and_eq_true, decide_eq_true_eq, List.all_eq_true, and_imp]

/-- Whatever row comes first, it is one of those in question. -/
theorem active_approval_mem (pick : ℕ) (listed : approval ∈ activeApprovals db caseId) :
    ∃ active ∈ activeApprovals db caseId, activeApproval pick db caseId = some active := by
  have within : pick % (activeApprovals db caseId).length < (activeApprovals db caseId).length :=
    Nat.mod_lt _ (List.length_pos_of_mem listed)
  exact ⟨_, List.getElem_mem within, List.getElem?_eq_getElem within⟩

/-- `_active_approval` returns an approved row of its case, and no approved row
of the case was approved later. -/
theorem active_approval_some {pick : ℕ} (found : activeApproval pick db caseId = some approval) :
    approval ∈ db.recoveryApprovals ∧ approval.caseId = caseId ∧ approval.status = .approved ∧
      ∀ other ∈ db.recoveryApprovals, other.caseId = caseId → other.status = .approved →
        other.approvedAt.getD 0 ≤ approval.approvedAt.getD 0 := by
  obtain ⟨⟨stored, sameCase, approved⟩, latest⟩ := mem_active_approvals.mp (List.mem_of_getElem? found)
  exact ⟨stored, sameCase, approved, latest⟩

/-- Where a row is approved later than every other approved row of its case,
`_active_approval` returns it. -/
theorem active_approval_latest (pick : ℕ) (stored : approval ∈ db.recoveryApprovals)
    (sameCase : approval.caseId = caseId) (approved : approval.status = .approved)
    (latest : ∀ other ∈ db.recoveryApprovals, other.caseId = caseId → other.status = .approved →
      other ≠ approval → other.approvedAt.getD 0 < approval.approvedAt.getD 0) :
    activeApproval pick db caseId = some approval := by
  have listed : approval ∈ activeApprovals db caseId := by
    refine mem_active_approvals.mpr ⟨⟨stored, sameCase, approved⟩, ?_⟩
    intro other member otherCase otherApproved
    by_cases same : other = approval
    · rw [same]
    · exact (latest other member otherCase otherApproved same).le
  obtain ⟨active, activeListed, found⟩ := active_approval_mem pick listed
  obtain ⟨⟨activeStored, activeCase, activeApproved⟩, above⟩ := mem_active_approvals.mp activeListed
  by_cases same : active = approval
  · rw [found, same]
  · have below := latest active activeStored activeCase activeApproved same
    exact absurd (above approval stored sameCase approved) (not_le.mpr below)

theorem accept_verdict_found {verdict : Verdict} {approvalId : String}
    (accepted : acceptVerdict verdict now approvalId db = .ok approval) :
    getApproval approvalId db = some approval := by
  unfold acceptVerdict at accepted
  split at accepted
  · cases accepted
  · rename_i found
    split at accepted
    · cases accepted
    · cases accepted
      exact found
  · rename_i found
    cases accepted
    exact found

/-- An approval endpoint goes on with the row that has the identifier of the row
it goes on with. -/
theorem accept_verdict_read {verdict : Verdict} {approvalId : String}
    (accepted : acceptVerdict verdict now approvalId db = .ok approval) :
    getApproval approval.approvalId db = some approval := by
  have read := accept_verdict_found accepted
  rw [getApproval] at read ⊢
  rw [Keyed.find_key read]
  exact read

/-! ## Inserts -/

/-- A run inserts at most one approval row, for a request of its own. -/
theorem insert_approval_ok {rows rows' : List RecoveryApproval}
    (inserted : insertApproval caseId result rows = .ok rows') :
    rows' = rows ∨ ∃ record, result.approvalStatus = some .pending ∧
      result.approvalRecord = some (.requested record) ∧
      (∀ row ∈ rows, row.approvalId ≠ record.approvalId) ∧
      rows' = rows ++ [pendingApproval caseId record] := by
  unfold insertApproval at inserted
  split at inserted
  · rename_i pending
    split at inserted
    · cases inserted
      exact .inl rfl
    · split at inserted
      · cases inserted
        exact .inl rfl
      · cases inserted
    · rename_i record requested
      split at inserted
      · cases inserted
        exact .inl rfl
      · rename_i fresh
        cases inserted
        exact .inr ⟨record, pending, requested, by simpa using fresh, rfl⟩
  · cases inserted
    exact .inl rfl

/-- The tables after a committed run. -/
structure Persisted (kind : DatabaseKind) (now : ℤ) (loaded : RecoveryCase) (result : RecoveryState)
    (db db' : Database) : Prop where
  webhookEvents : db'.webhookEvents = db.webhookEvents
  recoveryCases : db'.recoveryCases =
    Keyed.modify (·.caseId) loaded.caseId (updateCase now loaded result) db.recoveryCases
  experimentAssignments : db'.experimentAssignments =
    insertAssignment loaded.caseId result.experimentArm db.experimentAssignments
  recoveryActions :
    insertActions loaded.caseId db.recoveryActions result.actions = .ok db'.recoveryActions
  referred : kind.enforcesForeignKeys = true → auditsRefer db'.recoveryActions result.auditTrail = true
  recoveryApprovals : insertApproval loaded.caseId result db.recoveryApprovals = .ok db'.recoveryApprovals

theorem persist_result_written (committed : persistResult kind now loaded result db = .ok db') :
    Persisted kind now loaded result db db' ∧ db'.auditLogs =
      db.auditLogs ++ result.auditTrail.map fun audit => { audit with caseId := loaded.caseId } := by
  simp only [persistResult, bind_ok] at committed
  obtain ⟨recoveryActions, insertedActions, committed⟩ := committed
  split at committed
  · obtain ⟨_, raised, _⟩ := bind_ok.mp committed
    cases raised
  · rename_i referred
    simp only [bind_ok, pure_ok] at committed
    obtain ⟨recoveryApprovals, insertedApproval, rfl⟩ := committed
    exact ⟨⟨rfl, rfl, rfl, insertedActions, fun enforced => by simpa [enforced] using referred,
      insertedApproval⟩, rfl⟩

theorem persist_result_ok (committed : persistResult kind now loaded result db = .ok db') :
    Persisted kind now loaded result db db' := (persist_result_written committed).1

theorem case_ids_update (rows : List RecoveryCase) :
    (Keyed.modify (·.caseId) caseId (updateCase now loaded result) rows).map (·.caseId) =
      rows.map (·.caseId) := Keyed.map_modify fun _ => rfl

theorem find_update (rows : List RecoveryCase) :
    Keyed.find (·.caseId) caseId (Keyed.modify (·.caseId) caseId (updateCase now loaded result) rows) =
      (Keyed.find (·.caseId) caseId rows).map (updateCase now loaded result) :=
  Keyed.find_modify_self fun _ => rfl

theorem case_ids_failure (rows : List RecoveryCase) :
    (Keyed.modify (·.caseId) caseId (fun case => { case with status := .failed, updatedAt := some now })
      rows).map (·.caseId) = rows.map (·.caseId) := Keyed.map_modify fun _ => rfl

theorem approval_ids_verdict {verdict : Verdict} (approval : RecoveryApproval)
    (rows : List RecoveryApproval) :
    (Keyed.modify (·.approvalId) approval.approvalId (decideApproval verdict now approval) rows).map
      (·.approvalId) = rows.map (·.approvalId) := Keyed.map_modify fun _ => rfl

end RevenueGuard.WorkerProofs
