import RevenueGuard.Library.Register
import RevenueGuard.TableProofs
import RevenueGuard.PolicyProofs

/-!
Human approval over whole runs of the service.

1. `high_value_gate`: a high-value execution rests on a row of its case that
   was approved when it was loaded and had not expired when it was used.
2. `approval_covers`: such a row is about the amount that is executed, and in
   the control arm about the action too.
3. `verdicts_final`: where no endpoint overrules a decided row, a decision never
   changes, and nothing is executed on the strength of a row after its rejection.
-/

namespace RevenueGuard.ApprovalProofs

open Library Library.Runs GraphProofs PolicyProofs WorkerProofs SystemProofs TableProofs

variable {d : Deployment} {s s' : System} {db : Database} {e : Event} {es : List Event} {w : ℕ}
  {x : GraphRun} {result : RecoveryState} {action : RecoveryAction}

/-! ## The high-value gate -/

/-- A recorded run above the threshold executes only on the strength of the row
it loaded. -/
theorem executed_approved (finished : (x.outcome d).2 = .ok result) (executed : action ∈ result.actions)
    (high : d.settings.highValueThreshold < x.rows.case.amountPaise) :
    action.caseId = x.rows.case.caseId ∧
      ApprovedAt x.finish.execution.clock.approval x.rows.approval := by
  obtain ⟨s, proposed, built, ranPropose, passed, made⟩ := executed_from finished executed
  have rebuilt := rebuilt_from built ranPropose
  have moving := moves_of_examined passed.examined passed.notStop
  rcases (needs_approval_rebuilt rebuilt moving _).mp passed.approvedAtExecution with low | approved
  · exact absurd high (not_lt.mpr low)
  · exact ⟨made.caseId.trans rebuilt.caseId, approved⟩

/-- Whatever the order of deliveries, verdicts and steps, an execution above the
threshold rests on a row of the same case that `_active_approval` loaded
approved, and that expires after the clock reading of `execute_action`. -/
theorem high_value_gate (ran : run (step d) {} es = some s) (recorded : x ∈ s.runs)
    (finished : (x.outcome d).2 = .ok result) (executed : action ∈ result.actions)
    (high : d.settings.highValueThreshold < x.rows.case.amountPaise) :
    ∃ before pick row, run (step d) {} (es.take x.rows.loadedAt) = some before ∧
      activeApproval pick before.db action.caseId = some row ∧
      x.rows.approval = some row ∧ row ∈ before.db.recoveryApprovals ∧ row.caseId = action.caseId ∧
      row.status = .approved ∧ x.finish.execution.clock.approval < row.expiresAt := by
  obtain ⟨sameCase, row, held, approved, unexpired⟩ := executed_approved finished executed high
  obtain ⟨_, before, pick, ranRead, read⟩ := rows_read_at ran (.inr ⟨x, recorded, rfl⟩)
  have found := read.symm.trans held
  obtain ⟨stored, ofCase, _⟩ := active_approval_some found
  exact ⟨before, pick, row, ranRead, sameCase ▸ found, held, stored, ofCase.trans sameCase.symm,
    approved, unexpired⟩

/-- A high-value payment link is approved; the resumed run chooses a nudge. -/
def resumedRun : List Event :=
  sampleIntake 0 "00000007" 7500000 ++ [.request 0 (.push .delivered)] ++
    sampleProcess 0 "payment_link" 1788501600000000 "action-1" ++
    sampleVerdict 1 (.approve "operator") 1788502000000000 ++ [.request 1 (.push .delivered)] ++
    sampleProcess 0 "nudge_sms" 1788503000000000 "action-2"

theorem high_value_gate_resumed : ∃ row : RecoveryApproval, row.status = .approved ∧
    1788503000000000 < row.expiresAt := by
  obtain ⟨s, ran, x, recorded, result, finished, action, executed, high, reading⟩ :
      ∃ s, run (step sampleDeployment) {} resumedRun = some s ∧ ∃ x ∈ s.runs, ∃ result,
        (x.outcome sampleDeployment).2 = .ok result ∧ ∃ action ∈ result.actions,
          sampleDeployment.settings.highValueThreshold < x.rows.case.amountPaise ∧
          x.finish.execution.clock.approval = 1788503000000000 :=
    ⟨_, rfl, _, List.mem_cons_of_mem _ (List.mem_singleton_self _), _, rfl, _,
      List.mem_singleton_self _, by decide, rfl⟩
  obtain ⟨_, _, row, _, _, _, _, _, approved, unexpired⟩ :=
    high_value_gate ran recorded finished executed high
  exact ⟨row, approved, reading ▸ unexpired⟩

/-! ## What an approval is about -/

/-- The amount of a stored case. -/
def AmountOf (db : Database) (caseId : String) (amountPaise : ℤ) : Prop :=
  ∃ case ∈ db.recoveryCases, case.caseId = caseId ∧ case.amountPaise = amountPaise

theorem amount_of_step {caseId : String} {amountPaise : ℤ} (known : AmountOf s.db caseId amountPaise)
    (stepped : DbStep d s db) : AmountOf db caseId amountPaise := by
  obtain ⟨case, stored, rfl, rfl⟩ := known
  obtain ⟨kept, member, same⟩ := case_kept stepped stored
  obtain ⟨sameId, sameAmount⟩ := intake_part_amount same
  exact ⟨kept, member, sameId, sameAmount⟩

theorem amount_of_unique {caseId : String} {amountPaise other : ℤ}
    (unique : (db.recoveryCases.map (·.caseId)).Nodup) (known : AmountOf db caseId amountPaise)
    (again : AmountOf db caseId other) : amountPaise = other := by
  obtain ⟨case, stored, rfl, rfl⟩ := known
  obtain ⟨case', stored', same, rfl⟩ := again
  rw [List.inj_on_of_nodup_map unique stored stored' same.symm]

/-- What a case's arm lets an approval request ask for. -/
def ArmAsks (d : Deployment) (row : RecoveryApproval) : Prop :=
  assignExperimentArm d.md5 row.caseId d.settings.experimentVariantPct = .ok .control →
    row.requestedAction = .smartRetry

/-- A loaded row is about the case it was loaded for. -/
structure Covers (d : Deployment) (case : RecoveryCase) (row : RecoveryApproval) : Prop where
  approved : row.status = .approved
  caseId : row.caseId = case.caseId
  amountPaise : row.amountPaise = case.amountPaise
  armAsks : ArmAsks d row

/-- The rows of the tables and the rows that the workers hold agree on amounts,
and the requests of the control arm are for retries. -/
structure Consistent (d : Deployment) (s : System) : Prop where
  unique : (s.db.recoveryCases.map (·.caseId)).Nodup
  recorded : RunsRecorded d s
  worked : ∀ w case, workedCase (s.workers w) = some case →
    AmountOf s.db case.caseId case.amountPaise
  requests : ∀ row ∈ s.db.recoveryApprovals,
    AmountOf s.db row.caseId row.amountPaise ∧ ArmAsks d row
  read : ∀ rows, RowsIn s rows → ∀ row, rows.approval = some row → Covers d rows.case row

/-- A request is for the amount of its case, and in the control arm for a retry. -/
theorem requested_covers {decision : DecisionInputs} {clock : PolicyClock} {finish : FinishInputs}
    {case : RecoveryCase} {approval : Option RecoveryApproval} {record : ApprovalRecord}
    (ran : (graphRun d decision clock finish case approval).2 = .ok result)
    (loaded : ∀ row, approval = some row → row.status = .approved)
    (pending : result.approvalStatus = some .pending)
    (requested : result.approvalRecord = some (.requested record)) :
    record.amountPaise = case.amountPaise ∧ ArmAsks d (pendingApproval case.caseId record) := by
  obtain ⟨s, proposed, asked, built, ranPropose, request⟩ := pending_from ran loaded pending
  obtain rfl : record = asked := by
    have same := requested.symm.trans request.approvalRecord
    simpa using same
  refine ⟨request.amountPaise, fun control => ?_⟩
  have rebuilt := rebuilt_from built ranPropose
  have strategy := propose_control ((build_state_ok built).caseId.symm ▸ control) ranPropose
  exact (baseline_moves strategy request.requestedAction (requested_not_stop request)).1

theorem consistent_step (known : Consistent d s) (stepped : step d s e = some s') : Consistent d s' := by
  have committed := step_db stepped
  refine
    { unique := case_ids_step known.unique committed
      recorded := runs_recorded_step known.recorded stepped
      worked := fun w case worked => ?_
      requests := fun row stored => ?_
      read := fun rows held row loaded => ?_ }
  · refine amount_of_step ?_ committed
    rcases worked_case_step stepped worked with earlier | found
    · exact known.worked w case earlier
    · exact ⟨case, found, rfl, rfl⟩
  · rcases approval_from committed stored with ⟨old, member, same⟩ |
      ⟨w, rows, result, record, phase, pending, requested, rfl⟩
    · obtain ⟨amount, asks⟩ := known.requests old member
      have caseId : row.caseId = old.caseId := congrArg (·.caseId) same
      have amountPaise : row.amountPaise = old.amountPaise := congrArg (·.amountPaise) same
      have action : row.requestedAction = old.requestedAction := congrArg (·.requestedAction) same
      refine ⟨amount_of_step (by rw [caseId, amountPaise]; exact amount) committed, ?_⟩
      intro control
      rw [action]
      exact asks (caseId ▸ control)
    · have recorded := known.recorded w
      rw [phase] at recorded
      obtain ⟨x, member, rfl, ran⟩ := recorded
      have loaded : ∀ row, x.rows.approval = some row → row.status = .approved := fun row held =>
        (known.read x.rows (.inr ⟨x, member, rfl⟩) row held).approved
      obtain ⟨amount, asks⟩ := requested_covers ran loaded pending requested
      have worked := known.worked w x.rows.case (by rw [phase]; rfl)
      exact ⟨amount_of_step (by rw [pendingApproval, amount]; exact worked) committed, asks⟩
  · rcases rows_in_step stepped held with earlier | ⟨w, case, pick, phase, rfl⟩
    · exact known.read rows earlier row loaded
    · obtain ⟨stored, sameCase, approved, _⟩ := active_approval_some loaded
      obtain ⟨amount, asks⟩ := known.requests row stored
      have worked := known.worked w case (by rw [phase]; rfl)
      rw [sameCase] at amount
      exact ⟨approved, sameCase, amount_of_unique known.unique amount worked, asks⟩

theorem consistent (ran : run (step d) {} es = some s) : Consistent d s := by
  have start : Consistent d {} :=
    { unique := List.nodup_nil
      recorded := fun _ => trivial
      worked := fun _ _ worked => by simp [workedCase] at worked
      requests := fun _ stored => by simp at stored
      read := fun _ held => by simp [RowsIn, rowsOf] at held }
  exact run_invariant (fun _ _ _ known stepped => consistent_step known stepped) start ran

/-- In the control arm only retries are executed. -/
theorem control_executes_retry
    (control : assignExperimentArm d.md5 x.rows.case.caseId d.settings.experimentVariantPct = .ok .control)
    (finished : (x.outcome d).2 = .ok result) (executed : action ∈ result.actions) :
    action.actionType = .smartRetry := by
  obtain ⟨s, proposed, built, ranPropose, passed, _⟩ := executed_from finished executed
  have strategy := propose_control ((build_state_ok built).caseId.symm ▸ control) ranPropose
  exact (baseline_moves strategy passed.examined passed.notStop).1

/-- What a high-value execution rests on: a row of the case, for its amount.  In
the control arm the row asked for the action that is executed; in the treatment
arm the resumed run decides afresh, and what it executes is what the policies
examined and permit. -/
theorem approval_covers (ran : run (step d) {} es = some s) (recorded : x ∈ s.runs)
    (finished : (x.outcome d).2 = .ok result) (executed : action ∈ result.actions)
    (high : d.settings.highValueThreshold < x.rows.case.amountPaise) :
    ∃ row, x.rows.approval = some row ∧ row.status = .approved ∧ row.caseId = action.caseId ∧
      row.amountPaise = x.rows.case.amountPaise ∧
      x.finish.execution.clock.approval < row.expiresAt ∧
      (assignExperimentArm d.md5 action.caseId d.settings.experimentVariantPct = .ok .control →
        action.actionType = row.requestedAction) ∧
      Permitted d.settings x.clock x.rows.case action.actionType action.channel := by
  obtain ⟨sameCase, row, held, approved, unexpired⟩ := executed_approved finished executed high
  have covers := (consistent ran).read x.rows (.inr ⟨x, recorded, rfl⟩) row held
  refine ⟨row, held, approved, covers.caseId.trans sameCase.symm, covers.amountPaise, unexpired,
    fun control => ?_, ?_⟩
  · rw [sameCase] at control
    rw [control_executes_retry control finished executed, covers.armAsks (covers.caseId.symm ▸ control)]
  · obtain ⟨_, proposed, built, ranPropose, passed, made⟩ := executed_from finished executed
    exact permitted_of_passed (rebuilt_from built ranPropose) (propose_ok ranPropose).2.2 passed made

theorem approval_covers_resumed : ∃ row : RecoveryApproval, row.status = .approved ∧
    row.amountPaise = 7500000 := by
  obtain ⟨s, ran, x, recorded, result, finished, action, executed, high, amount⟩ :
      ∃ s, run (step sampleDeployment) {} resumedRun = some s ∧ ∃ x ∈ s.runs, ∃ result,
        (x.outcome sampleDeployment).2 = .ok result ∧ ∃ action ∈ result.actions,
          sampleDeployment.settings.highValueThreshold < x.rows.case.amountPaise ∧
          x.rows.case.amountPaise = 7500000 :=
    ⟨_, rfl, _, List.mem_cons_of_mem _ (List.mem_singleton_self _), _, rfl, _,
      List.mem_singleton_self _, by decide, rfl⟩
  obtain ⟨row, _, approved, _, sameAmount, _⟩ := approval_covers ran recorded finished executed high
  exact ⟨row, approved, sameAmount.trans amount⟩

/-- An approval authorises the action it was asked for and no other. -/
def ExecutesWhatWasApproved (d : Deployment) : Prop :=
  ∀ es s x result action row, run (step d) {} es = some s → x ∈ s.runs →
    (x.outcome d).2 = .ok result → action ∈ result.actions →
    d.settings.highValueThreshold < x.rows.case.amountPaise → x.rows.approval = some row →
    action.actionType = row.requestedAction ∧ x.rows.case.amountPaise = row.amountPaise

/-- The approver saw a payment link; the resumed run sends a message instead. -/
theorem approval_of_another_action : ¬ ExecutesWhatWasApproved sampleDeployment := by
  intro only
  have same := (only resumedRun _ _ _ _ _ rfl (List.mem_cons_of_mem _ (List.mem_singleton_self _)) rfl
    (List.mem_singleton_self _) (by decide) rfl).1
  exact absurd same (by decide)

/-! ## Verdicts -/

/-- What a row's status says about the human decision. -/
def decided : ApprovalStatus → Option ApprovalStatus
  | .pending => none
  | status => some status

theorem decided_some {status verdict : ApprovalStatus} :
    decided status = some verdict ↔ status = verdict ∧ verdict ≠ .pending := by
  cases status <;> cases verdict <;> decide

/-- The decisions on record, as a write-once register would hold them. -/
def verdictOf (db : Database) (approvalId : String) : Option ApprovalStatus :=
  (getApproval approvalId db).bind fun row => decided row.status

/-- The commit of an approval endpoint overrules a decision: it writes its own
verdict over the other one.  It writes no status where it loaded the row with
its own verdict. -/
def overrules (s : System) : Event → Bool
  | .request i (.commit _) =>
    match s.requests i with
    | .deciding verdict loaded => s.db.recoveryApprovals.any fun current =>
        current.approvalId = loaded.approvalId && current.status ≠ .pending &&
          current.status ≠ verdict.status && loaded.status ≠ verdict.status
    | _ => false
  | _ => false

/-- A step that overrules nobody. -/
def KeepsVerdict (s : System) (e : Event) : Prop := overrules s e = false

instance (s : System) (e : Event) : Decidable (KeepsVerdict s e) :=
  inferInstanceAs (Decidable (overrules s e = false))

theorem keeps_verdict_commit {i : ℕ} {now : ℤ} {verdict : Verdict} {loaded : RecoveryApproval}
    (keeps : KeepsVerdict s (.request i (.commit now))) (deciding : s.requests i = .deciding verdict loaded) :
    ∀ current ∈ s.db.recoveryApprovals, current.approvalId = loaded.approvalId →
      current.status = .pending ∨ current.status = verdict.status ∨ loaded.status = verdict.status := by
  intro current stored same
  simp only [KeepsVerdict, overrules, deciding, List.any_eq_false, Bool.and_eq_true,
    decide_eq_true_eq, not_and, ne_eq, not_not] at keeps
  by_cases pending : current.status = .pending
  · exact .inl pending
  · by_cases own : current.status = verdict.status
    · exact .inr (.inl own)
    · exact .inr (.inr (keeps current stored ⟨⟨same, pending⟩, own⟩))

theorem verdict_of_mem {row : RecoveryApproval}
    (unique : (db.recoveryApprovals.map (·.approvalId)).Nodup) (stored : row ∈ db.recoveryApprovals) :
    verdictOf db row.approvalId = decided row.status := by
  rw [verdictOf, getApproval, Keyed.find_of_mem unique stored]
  rfl

/-- The decision a verdict leaves on record. -/
theorem verdict_of_commit {verdict : Verdict} {now : ℤ} {loaded row : RecoveryApproval}
    (found : getApproval loaded.approvalId db = some row) :
    verdictOf (commitVerdict verdict now loaded db) =
      Function.update (verdictOf db) loaded.approvalId
        (decided (written loaded.status verdict.status row.status)) := by
  funext approvalId
  have keeps : ∀ r, (decideApproval verdict now loaded r).approvalId = r.approvalId := fun _ => rfl
  unfold verdictOf getApproval commitVerdict
  by_cases same : approvalId = loaded.approvalId
  · subst same
    unfold getApproval at found
    rw [Keyed.find_modify_self keeps, found, Function.update_self]
    rfl
  · rw [Keyed.find_modify_other keeps same, Function.update_of_ne same]

theorem get_approval_step {approvalId : String} {row : RecoveryApproval}
    (found : getApproval approvalId s.db = some row) (stepped : DbStep d s db) :
    ∃ kept, getApproval approvalId db = some kept := by
  obtain ⟨kept, stored, same⟩ := approval_kept stepped (Keyed.find_mem found)
  have read : row.approvalId = approvalId := Keyed.find_key found
  have sameId : kept.approvalId = approvalId := (congrArg (·.approvalId) same).trans read
  rw [← Option.isSome_iff_exists, ← Option.ne_none_iff_isSome]
  exact fun absent => Keyed.find_none.mp absent kept stored sameId

/-- A commit that overrules nobody keeps every decision on record. -/
theorem commit_verdict_extends {verdict : Verdict} {now : ℤ} {loaded : RecoveryApproval}
    (keeps : ∀ current ∈ db.recoveryApprovals, current.approvalId = loaded.approvalId →
      current.status = .pending ∨ current.status = verdict.status ∨ loaded.status = verdict.status) :
    Register.Extends (verdictOf db) (verdictOf (commitVerdict verdict now loaded db)) := by
  cases found : getApproval loaded.approvalId db with
  | none =>
    have untouched : commitVerdict verdict now loaded db = db := by
      have missing := Keyed.find_none.mp found
      unfold commitVerdict Keyed.modify
      rw [List.map_congr_left fun row stored => if_neg (missing row stored), List.map_id']
    rw [untouched]
    exact Register.extends_refl _
  | some row =>
    have recorded : verdictOf db loaded.approvalId = decided row.status := by
      rw [verdictOf, found]
      rfl
    rw [verdict_of_commit found]
    have effect : written loaded.status verdict.status row.status = row.status ∨
        row.status = .pending ∧ written loaded.status verdict.status row.status = verdict.status := by
      unfold written
      split
      · exact .inl rfl
      · rename_i writes
        rcases keeps row (Keyed.find_mem found) (Keyed.find_key found) with pending | same | loadedSame
        · exact .inr ⟨pending, rfl⟩
        · exact .inl same.symm
        · exact absurd loadedSame.symm writes
    rcases effect with unchanged | ⟨pending, writes⟩
    · rw [unchanged, ← recorded, Function.update_eq_self]
      exact Register.extends_refl _
    · have known : decided verdict.status = some verdict.status :=
        decided_some.mpr ⟨rfl, by cases verdict <;> simp [Verdict.status]⟩
      rw [writes, known]
      apply Register.extends_write
      intro old held
      rw [recorded, pending] at held
      cases held

/-- A step that overrules nobody keeps every decision on record. -/
theorem verdicts_extend (keeps : KeepsVerdict s e) (stepped : step d s e = some s') :
    Register.Extends (verdictOf s.db) (verdictOf s'.db) := by
  cases step_commit stepped with
  | nothing same =>
    rw [same]
    exact Register.extends_refl _
  | webhook _ committed =>
    obtain ⟨_, _, written⟩ := commit_webhook_ok committed
    rw [written]
    exact Register.extends_refl _
  | batch _ committed =>
    obtain ⟨_, written⟩ := commit_batch_ok committed
    rw [written]
    exact Register.extends_refl _
  | verdict phase written =>
    rw [written]
    exact commit_verdict_extends (keeps_verdict_commit keeps phase)
  | persist _ committed =>
    rcases insert_approval_ok (persist_result_ok committed).recoveryApprovals with
      same | ⟨_, _, _, _, grown⟩
    · unfold verdictOf getApproval
      rw [same]
      exact Register.extends_refl _
    · intro approvalId status held
      unfold verdictOf getApproval at held ⊢
      rw [grown, Keyed.find_append]
      cases found : Keyed.find (·.approvalId) approvalId s.db.recoveryApprovals with
      | none => simp [found] at held
      | some row => simpa [found] using held
  | recordFailure _ written =>
    rw [written]
    exact Register.extends_refl _

/-- Where no endpoint overrules anybody, every decision stays on record. -/
theorem run_verdicts_extend {fs : List Event} (met : Meets (step d) KeepsVerdict {} (es ++ fs))
    (ran : run (step d) {} es = some s) (later : run (step d) {} (es ++ fs) = some s') :
    Register.Extends (verdictOf s.db) (verdictOf s'.db) :=
  meets_related (R := fun s s' => Register.Extends (verdictOf s.db) (verdictOf s'.db))
    (fun _ => Register.extends_refl _) (fun _ _ _ => Register.extends_trans)
    (fun _ _ _ _ _ _ keeps stepped => verdicts_extend keeps stepped) met ran later

/-- What an approval endpoint is about to decide is still stored, under the
decision it was loaded with, if it had one. -/
def LoadedKnown (s : System) : Prop :=
  ∀ i verdict loaded, s.requests i = .deciding verdict loaded →
    ∃ row, getApproval loaded.approvalId s.db = some row ∧
      (loaded.status ≠ .pending → row.status = loaded.status)

theorem verdict_of_read {approvalId : String} {row : RecoveryApproval}
    (found : getApproval approvalId db = some row) : verdictOf db approvalId = decided row.status := by
  rw [verdictOf, found]
  rfl

theorem loaded_known (met : Meets (step d) KeepsVerdict {} es) (ran : run (step d) {} es = some s) :
    LoadedKnown s := by
  have start : LoadedKnown {} := fun _ _ _ deciding => by simp at deciding
  refine meets_invariant start (fun s e s' known keeps stepped i verdict loaded deciding => ?_) met ran
  rcases deciding_step stepped deciding with earlier | ⟨read, same⟩
  · obtain ⟨row, found, settled⟩ := known i verdict loaded earlier
    obtain ⟨kept, foundKept⟩ := get_approval_step found (step_db stepped)
    refine ⟨kept, foundKept, fun overruled => ?_⟩
    have recorded : verdictOf s.db loaded.approvalId = some loaded.status := by
      rw [verdict_of_read found, decided_some]
      exact ⟨settled overruled, overruled⟩
    have later := verdicts_extend keeps stepped _ _ recorded
    rw [verdict_of_read foundKept, decided_some] at later
    exact later.1
  · exact ⟨loaded, same ▸ read, fun _ => rfl⟩

/-- After the commit of a rejection the rejection is on record. -/
theorem rejection_recorded {now : ℤ} {loaded : RecoveryApproval} {i : ℕ} (known : LoadedKnown s)
    (deciding : s.requests i = .deciding .reject loaded)
    (stepped : step d s (.request i (.commit now)) = some s') :
    verdictOf s'.db loaded.approvalId = some .rejected := by
  obtain ⟨row, found, settled⟩ := known i .reject loaded deciding
  have committed : s'.db = commitVerdict .reject now loaded s.db := by
    simp only [step, stepRequest, deciding, System.commitRequest, Option.map_some,
      Option.some.injEq] at stepped
    rw [← stepped]
    rfl
  rw [committed, verdict_of_commit found, Function.update_self, decided_some]
  refine ⟨?_, by decide⟩
  unfold written
  split
  · rename_i same
    have rejected : loaded.status = .rejected := same.symm
    rw [settled (by rw [rejected]; decide), rejected]
  · rfl

/-- Human decisions are final from a point of a run on, where `fs` are the
events after it: no decided row changes its status, and where the first of the
events commits a rejection, no graph run that starts later loads that row. -/
structure DecisionsFinal (es fs : List Event) (s s' : System) : Prop where
  kept : ∀ row ∈ s.db.recoveryApprovals, row.status ≠ .pending →
    ∃ later ∈ s'.db.recoveryApprovals, later.approvalId = row.approvalId ∧ later.status = row.status
  unused : ∀ i now loaded gs, fs = .request i (.commit now) :: gs →
    s.requests i = .deciding .reject loaded → ∀ x ∈ s'.runs, es.length < x.rows.loadedAt →
      ∀ row, x.rows.approval = some row → row.approvalId ≠ loaded.approvalId

/-- In every run in which no endpoint overrules a decision, decisions are final. -/
theorem verdicts_final {fs : List Event} (met : Meets (step d) KeepsVerdict {} (es ++ fs))
    (ran : run (step d) {} es = some s) (later : run (step d) {} (es ++ fs) = some s') :
    DecisionsFinal es fs s s' where
  kept row stored overruled := by
    have recorded : verdictOf s.db row.approvalId = some row.status := by
      rw [verdict_of_mem (approval_ids_unique ran) stored, decided_some]
      exact ⟨rfl, overruled⟩
    have after := run_verdicts_extend met ran later _ _ recorded
    unfold verdictOf at after
    obtain ⟨kept, found, same⟩ := Option.bind_eq_some_iff.mp after
    exact ⟨kept, Keyed.find_mem found, Keyed.find_key found, (decided_some.mp same).1⟩
  unused i now loaded gs shape deciding x recorded after row held same := by
    subst shape
    obtain ⟨_, before, pick, ranRead, read⟩ := rows_read_at later (.inr ⟨x, recorded, rfl⟩)
    obtain ⟨stored, _, approved, _⟩ := active_approval_some (read.symm.trans held)
    -- The approval was read after the rejection: in the prefix `es ++ [commit] ++ …`.
    obtain ⟨gs', shape⟩ : ∃ gs', (es ++ .request i (.commit now) :: gs).take x.rows.loadedAt =
        (es ++ [.request i (.commit now)]) ++ gs' := by
      refine ⟨gs.take (x.rows.loadedAt - (es.length + 1)), ?_⟩
      rw [List.append_cons, List.take_append, List.take_of_length_le (by simp; omega)]
      simp
    rw [shape] at ranRead
    have metRead : Meets (step d) KeepsVerdict {} ((es ++ [.request i (.commit now)]) ++ gs') := by
      rw [← shape]
      exact meets_take met _
    have metBefore : Meets (step d) KeepsVerdict {} es := meets_earlier met
    obtain ⟨rejected, ranRejected⟩ := run_take ranRead (es.length + 1)
    rw [List.take_append_of_le_length (by simp), List.take_of_length_le (by simp)] at ranRejected
    obtain ⟨s₀, ran₀, stepped⟩ := run_snoc_iff.mp ranRejected
    cases ran.symm.trans ran₀
    have recorded := run_verdicts_extend metRead ranRejected ranRead _ _
      (rejection_recorded (loaded_known metBefore ran) deciding stepped)
    rw [← same, verdict_of_mem (approval_ids_unique ranRead) stored, approved, decided_some] at recorded
    exact absurd recorded.1 (by decide)

/-- An approver rejects. -/
def rejectedRun : List Event :=
  sampleIntake 0 "00000007" 7500000 ++ [.request 0 (.push .delivered)] ++
    sampleProcess 0 "payment_link" 1788501600000000 "action-1" ++
    sampleVerdict 1 .reject 1788501700000000

theorem verdicts_final_rejected : ∃ s s', run (step sampleDeployment) {} rejectedRun = some s ∧
    run (step sampleDeployment) {} (rejectedRun ++ sampleVerdict 2 .reject 1788501800000000) = some s' ∧
    DecisionsFinal rejectedRun (sampleVerdict 2 .reject 1788501800000000) s s' := by
  obtain ⟨s, ran⟩ : ∃ s, run (step sampleDeployment) {} rejectedRun = some s := ⟨_, rfl⟩
  obtain ⟨s', later⟩ : ∃ s', run (step sampleDeployment) {}
      (rejectedRun ++ sampleVerdict 2 .reject 1788501800000000) = some s' := ⟨_, rfl⟩
  exact ⟨s, s', ran, later, verdicts_final (meets_of_checks (by decide)) ran later⟩

/-- Another approver approves afterwards, and the case goes on. -/
def overrulingEvents : List Event :=
  sampleVerdict 2 (.approve "operator") 1788502000000000 ++ [.request 2 (.push .delivered)] ++
    sampleProcess 0 "payment_link" 1788503000000000 "action-2"

/-- A rejected row is approved, and the payment link it asked for is created. -/
theorem rejection_overruled : ∃ s s', run (step sampleDeployment) {} rejectedRun = some s ∧
    run (step sampleDeployment) {} (rejectedRun ++ overrulingEvents) = some s' ∧
    ¬ DecisionsFinal rejectedRun overrulingEvents s s' := by
  refine ⟨_, _, rfl, rfl, fun final => ?_⟩
  obtain ⟨later, stored, _, same⟩ := final.kept _ (List.mem_singleton_self _) (by decide)
  cases List.mem_singleton.mp stored
  exact absurd same (by decide)

end RevenueGuard.ApprovalProofs
