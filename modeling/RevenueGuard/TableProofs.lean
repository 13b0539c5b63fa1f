import RevenueGuard.SystemProofs

/-!
What any step does to the committed tables: keys stay unique, rows are never
deleted, and of a case or an approval request only the columns change that
`process_case` and the approval endpoints write.
-/

namespace RevenueGuard.TableProofs

open Library Library.Runs Library.Raises WorkerProofs SystemProofs

variable {d : Deployment} {s s' : System} {db db' : Database} {es : List Event} {e : Event}
  {i : ℕ} {t : System}

/-! ## Commits of the intake -/

theorem commit_webhook_ok {record : WebhookEvent} {case : Option RecoveryCase}
    (committed : commitWebhook record case db = .ok db') :
    (∀ r ∈ db.webhookEvents, r.razorpayEventId ≠ record.razorpayEventId) ∧
      (∀ new ∈ case, ∀ c ∈ db.recoveryCases, c.caseId ≠ new.caseId) ∧
      db' = { db with
        webhookEvents := db.webhookEvents ++ [record]
        recoveryCases := db.recoveryCases ++ case.toList } := by
  unfold commitWebhook at committed
  split at committed
  · cases committed
  · rename_i freshEvent
    have freshEvent : ∀ r ∈ db.webhookEvents, r.razorpayEventId ≠ record.razorpayEventId := by
      simpa using freshEvent
    split at committed
    · cases committed
      exact ⟨freshEvent, by simp, by simp⟩
    · split at committed
      · cases committed
      · rename_i new freshCase
        cases committed
        exact ⟨freshEvent, by simpa using freshCase, rfl⟩

theorem commit_batch_ok {cases : List RecoveryCase} (committed : commitBatch cases db = .ok db') :
    ((db.recoveryCases ++ cases).map (·.caseId)).Nodup ∧
      db' = { db with recoveryCases := db.recoveryCases ++ cases } := by
  unfold commitBatch at committed
  split at committed
  · rename_i unique
    cases committed
    exact ⟨unique, rfl⟩
  · cases committed

/-! ## Cases -/

/-- The columns of a case that no run writes. -/
def intakePart (case : RecoveryCase) : RecoveryCase :=
  { case with
    status := .detected
    recoveryProbability := none
    shapReasonCodes := []
    experimentArm := none
    gatewayHealthState := none
    retryCount := 0
    lastRetryAt := none
    updatedAt := none }

theorem intake_part_update (now : ℤ) (loaded : RecoveryCase) (result : RecoveryState)
    (current : RecoveryCase) : intakePart (updateCase now loaded result current) = intakePart current :=
  rfl

theorem intake_part_amount {case other : RecoveryCase} (same : intakePart case = intakePart other) :
    case.caseId = other.caseId ∧ case.amountPaise = other.amountPaise :=
  ⟨congrArg (·.caseId) same, congrArg (·.amountPaise) same⟩

/-- No step deletes a case or writes its intake columns. -/
theorem case_kept {case : RecoveryCase} (stepped : DbStep d s db) (stored : case ∈ s.db.recoveryCases) :
    ∃ kept ∈ db.recoveryCases, intakePart kept = intakePart case := by
  cases stepped with
  | unchanged => exact ⟨case, stored, rfl⟩
  | webhook _ committed =>
    obtain ⟨_, _, rfl⟩ := commit_webhook_ok committed
    exact ⟨case, List.mem_append_left _ stored, rfl⟩
  | batch _ committed =>
    obtain ⟨_, rfl⟩ := commit_batch_ok committed
    exact ⟨case, List.mem_append_left _ stored, rfl⟩
  | verdict => exact ⟨case, stored, rfl⟩
  | persist _ committed =>
    rw [(persist_result_ok committed).recoveryCases]
    exact Keyed.modify_kept stored rfl (intake_part_update ..)
  | recordFailure => exact Keyed.modify_kept stored rfl rfl

theorem case_ids_step (unique : (s.db.recoveryCases.map (·.caseId)).Nodup) (stepped : DbStep d s db) :
    (db.recoveryCases.map (·.caseId)).Nodup := by
  cases stepped with
  | unchanged => exact unique
  | @webhook _ _ case _ _ committed =>
    obtain ⟨_, fresh, rfl⟩ := commit_webhook_ok committed
    cases case with
    | none => simpa using unique
    | some new => exact Keyed.nodup_insert unique (fresh new rfl)
  | batch _ committed =>
    obtain ⟨unique, rfl⟩ := commit_batch_ok committed
    exact unique
  | verdict => exact unique
  | persist _ committed =>
    rw [(persist_result_ok committed).recoveryCases, case_ids_update]
    exact unique
  | recordFailure =>
    rw [recordFailure, case_ids_failure]
    exact unique

/-- The unique constraint of `recovery_cases.case_id`, in every reached state. -/
theorem case_ids_unique (ran : run (step d) {} es = some s) :
    (s.db.recoveryCases.map (·.caseId)).Nodup :=
  run_invariant (P := fun s => (s.db.recoveryCases.map (·.caseId)).Nodup)
    (fun _ _ _ unique stepped => case_ids_step unique (step_db stepped)) List.nodup_nil ran

/-! ## Cases on their way into the table -/

/-- The cases that a request is about to insert are as the intake makes them. -/
def StagedIntake : RequestPhase → Prop
  | .webhookAdded _ case => ∀ new ∈ case, intakePart new = new
  | .batchAdded cases => ∀ new ∈ cases, intakePart new = new
  | _ => True

theorem staged_enqueueing (caseIds : List String) : StagedIntake (enqueueing caseIds) := by
  cases caseIds <;> trivial

theorem webhook_rows_intake {kind : DatabaseKind} {caseHex customerHex eventId : String} {now : ℤ}
    {event : Dict} {record : WebhookEvent} {added : Option RecoveryCase}
    (made : webhookRows kind i caseHex customerHex now eventId event = .ok (record, added)) :
    ∀ new ∈ added, intakePart new = new := by
  obtain ⟨_, _, made⟩ := bind_ok.mp made
  split at made
  · obtain ⟨normalized, _, shape⟩ := bind_ok.mp made
    cases pure_ok.mp shape
    intro new listed
    cases listed
    rfl
  · cases pure_ok.mp made
    intro new listed
    cases listed

theorem batch_rows_intake {now : ℤ} {events : List (String × SimulatedEvent)} {cases : List RecoveryCase}
    (made : batchRows i now events = .ok cases) : ∀ new ∈ cases, intakePart new = new := by
  refine map_m_ok (P := fun new => intakePart new = new) ?_ made
  rintro ⟨hex, event⟩ case simulated
  obtain ⟨category, _, shape⟩ := bind_ok.mp simulated
  cases pure_ok.mp shape
  rfl

theorem staged_request_step {moved : RequestEvent} (stepped : RequestStep d s i moved t) :
    StagedIntake (t.requests i) := by
  cases stepped with
  | receive =>
    simp only [set_request_requests, Function.update_self, afterLookup]
    split <;> trivial
  | simulate =>
    simp only [set_request_requests, Function.update_self, afterBatch]
    split
    · trivial
    · rename_i made
      exact batch_rows_intake made
  | decide =>
    simp only [set_request_requests, Function.update_self, afterAccept]
    split <;> trivial
  | addRows =>
    simp only [set_request_requests, Function.update_self, afterRows]
    split
    · trivial
    · rename_i made
      exact webhook_rows_intake made
  | committed =>
    simp only [set_request_requests, Function.update_self]
    exact staged_enqueueing _
  | push =>
    simp only [set_request_requests, Function.update_self, afterPush]
    split
    · exact staged_enqueueing _
    · trivial
  | refused | noClient | abort =>
    simp only [set_request_requests, Function.update_self]
    trivial

theorem staged_step (staged : ∀ i, StagedIntake (s.requests i)) (stepped : step d s e = some s') (j : ℕ) :
    StagedIntake (s'.requests j) := by
  by_cases mine : ∃ moved, e = .request j moved
  · obtain ⟨moved, rfl⟩ := mine
    cases step_cases stepped with
    | request moved =>
      have staged := staged_request_step moved
      exact staged
  · rw [requests_other stepped fun moved same => mine ⟨moved, same⟩]
    exact staged j

theorem staged_intake (ran : run (step d) {} es = some s) : ∀ i, StagedIntake (s.requests i) :=
  run_invariant (P := fun s => ∀ i, StagedIntake (s.requests i))
    (fun _ _ _ staged stepped => staged_step staged stepped) (fun _ => by trivial) ran

/-- The rows of cases that a worker works on are stored. -/
def WorkedStored (s : System) : Prop :=
  ∀ w case, workedCase (s.workers w) = some case → ∃ stored ∈ s.db.recoveryCases, stored.caseId = case.caseId

theorem worked_stored_step (known : WorkedStored s) (stepped : step d s e = some s') : WorkedStored s' := by
  intro w case worked
  obtain ⟨stored, member, ofCase⟩ : ∃ stored ∈ s.db.recoveryCases, stored.caseId = case.caseId := by
    rcases worked_case_step stepped worked with earlier | read
    · exact known w case earlier
    · exact ⟨case, read, rfl⟩
  obtain ⟨kept, member, same⟩ := case_kept (step_db stepped) member
  exact ⟨kept, member, (intake_part_amount same).1.trans ofCase⟩

theorem worked_stored (ran : run (step d) {} es = some s) : WorkedStored s :=
  run_invariant (P := WorkedStored) (fun _ _ _ known stepped => worked_stored_step known stepped)
    (fun _ _ worked => by cases worked) ran

/-! ## Approval requests -/

/-- The columns of an approval request that no verdict writes. -/
def requestPart (approval : RecoveryApproval) : RecoveryApproval :=
  { approval with status := .pending, approvedBy := none, approvedAt := none, decisionChannel := none }

theorem request_part_decide (verdict : Verdict) (now : ℤ) (loaded current : RecoveryApproval) :
    requestPart (decideApproval verdict now loaded current) = requestPart current := rfl

/-- No step deletes an approval request or writes what it asks for. -/
theorem approval_kept {row : RecoveryApproval} (stepped : DbStep d s db)
    (stored : row ∈ s.db.recoveryApprovals) :
    ∃ kept ∈ db.recoveryApprovals, requestPart kept = requestPart row := by
  cases stepped with
  | webhook _ committed =>
    obtain ⟨_, _, rfl⟩ := commit_webhook_ok committed
    exact ⟨row, stored, rfl⟩
  | batch _ committed =>
    obtain ⟨_, rfl⟩ := commit_batch_ok committed
    exact ⟨row, stored, rfl⟩
  | verdict => exact Keyed.modify_kept stored rfl (request_part_decide ..)
  | persist _ committed =>
    rcases insert_approval_ok (persist_result_ok committed).recoveryApprovals with
      same | ⟨_, _, _, _, grown⟩
    · rw [same]
      exact ⟨row, stored, rfl⟩
    · rw [grown]
      exact ⟨row, List.mem_append_left _ stored, rfl⟩
  | _ => exact ⟨row, stored, rfl⟩

/-- An approval request comes into the table with the run that asks for it. -/
theorem approval_from {row : RecoveryApproval} (stepped : DbStep d s db)
    (stored : row ∈ db.recoveryApprovals) :
    (∃ known ∈ s.db.recoveryApprovals, requestPart row = requestPart known) ∨
      ∃ w rows result record, s.workers w = .finished rows result ∧
        result.approvalStatus = some .pending ∧ result.approvalRecord = some (.requested record) ∧
        row = pendingApproval rows.case.caseId record := by
  cases stepped with
  | webhook _ committed =>
    obtain ⟨_, _, rfl⟩ := commit_webhook_ok committed
    exact .inl ⟨row, stored, rfl⟩
  | batch _ committed =>
    obtain ⟨_, rfl⟩ := commit_batch_ok committed
    exact .inl ⟨row, stored, rfl⟩
  | verdict =>
    rcases Keyed.mem_modify.mp stored with ⟨known, member, _, rfl⟩ | ⟨member, _⟩
    · exact .inl ⟨known, member, request_part_decide ..⟩
    · exact .inl ⟨row, member, rfl⟩
  | persist phase committed =>
    rcases insert_approval_ok (persist_result_ok committed).recoveryApprovals with
      same | ⟨record, pending, requested, _, grown⟩
    · exact .inl ⟨row, same ▸ stored, rfl⟩
    · rw [grown] at stored
      rcases List.mem_append.mp stored with known | new
      · exact .inl ⟨row, known, rfl⟩
      · exact .inr ⟨_, _, _, record, phase, pending, requested, List.mem_singleton.mp new⟩
  | _ => exact .inl ⟨row, stored, rfl⟩

theorem approval_ids_step (unique : (s.db.recoveryApprovals.map (·.approvalId)).Nodup)
    (stepped : DbStep d s db) : (db.recoveryApprovals.map (·.approvalId)).Nodup := by
  cases stepped with
  | webhook _ committed =>
    obtain ⟨_, _, rfl⟩ := commit_webhook_ok committed
    exact unique
  | batch _ committed =>
    obtain ⟨_, rfl⟩ := commit_batch_ok committed
    exact unique
  | verdict =>
    rw [commitVerdict, approval_ids_verdict]
    exact unique
  | persist _ committed =>
    rcases insert_approval_ok (persist_result_ok committed).recoveryApprovals with
      same | ⟨record, _, _, fresh, grown⟩
    · rw [same]
      exact unique
    · rw [grown]
      exact Keyed.nodup_insert unique fresh
  | _ => exact unique

/-- The unique constraint of `recovery_approvals.approval_id`, in every reached
state. -/
theorem approval_ids_unique (ran : run (step d) {} es = some s) :
    (s.db.recoveryApprovals.map (·.approvalId)).Nodup :=
  run_invariant (P := fun s => (s.db.recoveryApprovals.map (·.approvalId)).Nodup)
    (fun _ _ _ unique stepped => approval_ids_step unique (step_db stepped)) List.nodup_nil ran

/-- Only a verdict and the commit of a run write the table of approval requests. -/
theorem recovery_approvals_step (stepped : step d s e = some s') :
    s'.db.recoveryApprovals = s.db.recoveryApprovals ∨
      (∃ i verdict loaded now, e = .request i (.commit now) ∧ s.requests i = .deciding verdict loaded ∧
        s'.workers = s.workers ∧ s'.db = commitVerdict verdict now loaded s.db) ∨
      ∃ w rows result now, e = .worker w (.persist now) ∧ s.workers w = .finished rows result ∧
        s'.workers = Function.update s.workers w .idle ∧
        persistResult d.database now rows.case result s.db = .ok s'.db := by
  cases step_commit stepped with
  | nothing same => exact .inl (congrArg _ same)
  | webhook _ committed =>
    obtain ⟨_, _, written⟩ := commit_webhook_ok committed
    exact .inl ((congrArg Database.recoveryApprovals written).trans rfl)
  | batch _ committed =>
    obtain ⟨_, written⟩ := commit_batch_ok committed
    exact .inl ((congrArg Database.recoveryApprovals written).trans rfl)
  | verdict phase written others => exact .inr (.inl ⟨_, _, _, _, rfl, phase, others, written⟩)
  | persist phase committed idle => exact .inr (.inr ⟨_, _, _, _, rfl, phase, idle, committed⟩)
  | recordFailure _ written => exact .inl ((congrArg Database.recoveryApprovals written).trans rfl)

/-! ## Actions -/

/-- Only the commit of a run writes the table of actions. -/
theorem recovery_actions_step (stepped : step d s e = some s') :
    s'.db.recoveryActions = s.db.recoveryActions ∨
      ∃ w rows result now, e = .worker w (.persist now) ∧ s.workers w = .finished rows result ∧
        persistResult d.database now rows.case result s.db = .ok s'.db := by
  cases step_commit stepped with
  | nothing same => exact .inl (congrArg _ same)
  | webhook _ committed =>
    obtain ⟨_, _, written⟩ := commit_webhook_ok committed
    exact .inl ((congrArg Database.recoveryActions written).trans rfl)
  | batch _ committed =>
    obtain ⟨_, written⟩ := commit_batch_ok committed
    exact .inl ((congrArg Database.recoveryActions written).trans rfl)
  | verdict _ written => exact .inl ((congrArg Database.recoveryActions written).trans rfl)
  | persist phase committed => exact .inr ⟨_, _, _, _, rfl, phase, committed⟩
  | recordFailure _ written => exact .inl ((congrArg Database.recoveryActions written).trans rfl)

end RevenueGuard.TableProofs
