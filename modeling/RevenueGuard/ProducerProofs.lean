import RevenueGuard.TableProofs

/-!
The producers commit before they push.  Every case on its way to a worker has a row:
`known_step` keeps this of the queue, of the requests that are about to push, of the
workers and of the approval requests.  `approve` pushes what it has approved:
`approving_step` follows one request through its run.
-/

namespace RevenueGuard.ProducerProofs

open Library Library.Runs Library.Raises GraphProofs WorkerProofs SystemProofs TableProofs

variable {d : Deployment} {s s' t : System} {es : List Event} {e : Event} {i w : ℕ} {caseId : String}

/-! ## Cases on their way to a worker -/

/-- The case has a committed row. -/
def Stored (s : System) (caseId : String) : Prop := ∃ case ∈ s.db.recoveryCases, case.caseId = caseId

theorem stored_step (stored : Stored s caseId) (stepped : step d s e = some s') : Stored s' caseId := by
  obtain ⟨case, member, ofCase⟩ := stored
  obtain ⟨kept, member, same⟩ := case_kept (step_db stepped) member
  exact ⟨kept, member, (intake_part_amount same).1.trans ofCase⟩

/-- The cases that a request is about to push, or will be once its verdict is committed. -/
def pushes : RequestPhase → List String
  | .deciding _ loaded => [loaded.caseId]
  | .enqueueing caseIds _ => caseIds
  | _ => []

theorem pushes_enqueueing (caseIds : List String) : pushes (enqueueing caseIds) = caseIds := by
  cases caseIds <;> rfl

/-- Every case on its way to a worker has a row, and so has every case that an approval
request is about. -/
structure Known (s : System) : Prop where
  queued : ∀ caseId ∈ s.queue, Stored s caseId
  pushed : ∀ i, ∀ caseId ∈ pushes (s.requests i), Stored s caseId
  held : ∀ w caseId, (s.workers w).caseId = some caseId → Stored s caseId
  asked : ∀ row ∈ s.db.recoveryApprovals, Stored s row.caseId

theorem queue_step (stepped : step d s e = some s') (listed : caseId ∈ s'.queue) :
    caseId ∈ s.queue ∨ ∃ i, caseId ∈ pushes (s.requests i) := by
  cases step_cases stepped with
  | @request i _ _ moved =>
    cases moved with
    | @push first rest attempt outcome phase =>
      change caseId ∈ pushed first s.queue outcome at listed
      have pushing : first ∈ pushes (s.requests i) := by
        rw [phase]
        exact List.mem_cons_self
      cases outcome with
      | failedBefore => exact .inl listed
      | delivered | failedAfter =>
        rcases List.mem_cons.mp listed with rfl | earlier
        · exact .inr ⟨i, pushing⟩
        · exact .inl earlier
    | _ => exact .inl listed
  | worker moved =>
    cases moved with
    | pop | popLost => exact .inl (List.dropLast_subset _ listed)
    | _ => exact .inl listed

theorem held_step (stepped : step d s e = some s') (held : (s'.workers w).caseId = some caseId) :
    (s.workers w).caseId = some caseId ∨ caseId ∈ s.queue := by
  by_cases mine : ∃ moved, e = .worker w moved
  · obtain ⟨moved, rfl⟩ := mine
    cases step_cases stepped with
    | worker moved =>
      cases moved with
      | pop _ last =>
        simp only [tick_workers, set_worker_workers, Function.update_self, WorkerPhase.caseId,
          Option.some.injEq] at held
        exact .inr (held ▸ List.mem_of_getLast? last)
      | popLost phase => exact .inl held
      | load phase found =>
        simp only [tick_workers, set_worker_workers, Function.update_self, WorkerPhase.caseId,
          Option.some.injEq] at held
        rw [phase, ← held, Keyed.find_key found]
        exact .inl rfl
      | missing | persist | recordFailure | crash =>
        simp [WorkerPhase.caseId] at held
      | raise working =>
        simp only [tick_workers, release_workers, Function.update_self, WorkerPhase.caseId] at held
        exact .inl (working.trans held)
      | gate phase | decide phase | decideFails phase | finish phase | finishFails phase | persistFails phase =>
        simp only [tick_workers, set_worker_workers, release_workers, Function.update_self,
          WorkerPhase.caseId] at held
        rw [phase]
        exact .inl held
  · rw [workers_other stepped fun moved same => mine ⟨moved, same⟩] at held
    exact .inl held

theorem pushes_step {j : ℕ} (stepped : step d s e = some s') (listed : caseId ∈ pushes (s'.requests j)) :
    caseId ∈ pushes (s.requests j) ∨ (∃ row ∈ s.db.recoveryApprovals, row.caseId = caseId) ∨
      Stored s' caseId := by
  by_cases mine : ∃ moved, e = .request j moved
  · obtain ⟨moved, rfl⟩ := mine
    cases step_cases stepped with
    | request moved =>
      cases moved with
      | receive phase =>
        simp only [tick_requests, set_request_requests, Function.update_self, afterLookup] at listed
        split at listed <;> cases listed
      | simulate phase =>
        simp only [tick_requests, set_request_requests, Function.update_self, afterBatch] at listed
        split at listed <;> cases listed
      | addRows phase =>
        simp only [tick_requests, set_request_requests, Function.update_self, afterRows] at listed
        split at listed <;> cases listed
      | @decide verdict now approvalId phase =>
        simp only [tick_requests, set_request_requests, Function.update_self, afterAccept] at listed
        split at listed
        · cases listed
        · rename_i loaded accepted
          have read : loaded ∈ s.db.recoveryApprovals := Keyed.find_mem (accept_verdict_found accepted)
          exact .inr (.inl ⟨loaded, read, (List.mem_singleton.mp listed).symm⟩)
      | @committed now caseIds db commit =>
        simp only [tick_requests, set_request_requests, Function.update_self, pushes_enqueueing] at listed
        generalize phase : s.requests j = before, committed : Except.ok _ = outcome at commit
        cases commit with
        | webhook record new =>
          obtain ⟨_, _, rfl⟩ := commit_webhook_ok committed.symm
          obtain ⟨case, added, ofCase⟩ := Option.map_eq_some_iff.mp (Option.mem_toList.mp listed)
          exact .inr (.inr ⟨case, List.mem_append_right _ (Option.mem_toList.mpr added), ofCase⟩)
        | batch cases =>
          obtain ⟨_, rfl⟩ := commit_batch_ok committed.symm
          obtain ⟨case, added, ofCase⟩ := List.mem_map.mp listed
          exact .inr (.inr ⟨case, List.mem_append_right _ added, ofCase⟩)
        | verdict verdict loaded =>
          split at listed
          · cases listed
          · exact .inl listed
      | push phase =>
        simp only [tick_requests, set_request_requests, Function.update_self, afterPush] at listed
        rw [phase]
        split at listed
        · rw [pushes_enqueueing] at listed
          exact .inl (List.mem_cons_of_mem _ listed)
        · exact .inl listed
      | refused | noClient | abort =>
        simp [pushes] at listed
  · rw [requests_other stepped fun moved same => mine ⟨moved, same⟩] at listed
    exact .inl listed

theorem known_step (known : Known s) (stepped : step d s e = some s') : Known s' where
  queued caseId listed := by
    rcases queue_step stepped listed with earlier | ⟨i, pushing⟩
    · exact stored_step (known.queued caseId earlier) stepped
    · exact stored_step (known.pushed i caseId pushing) stepped
  pushed i caseId listed := by
    rcases pushes_step stepped listed with earlier | ⟨row, asked, rfl⟩ | stored
    · exact stored_step (known.pushed i caseId earlier) stepped
    · exact stored_step (known.asked row asked) stepped
    · exact stored
  held w caseId working := by
    rcases held_step stepped working with earlier | queued
    · exact stored_step (known.held w caseId earlier) stepped
    · exact stored_step (known.queued caseId queued) stepped
  asked row stored := by
    rcases approval_from (step_db stepped) stored with
      ⟨before, asked, same⟩ | ⟨w, rows, _, _, phase, _, _, rfl⟩
    · have ofCase : row.caseId = before.caseId := congrArg (·.caseId) same
      rw [ofCase]
      exact stored_step (known.asked before asked) stepped
    · have working : (s.workers w).caseId = some rows.case.caseId := by rw [phase, WorkerPhase.caseId]
      exact stored_step (known.held w _ working) stepped

theorem known_run (ran : run (step d) {} es = some s) : Known s := by
  have start : Known {} :=
    { queued := fun _ listed => absurd listed List.not_mem_nil
      pushed := fun _ _ listed => absurd listed List.not_mem_nil
      held := fun _ _ working => absurd working.symm (Option.some_ne_none _)
      asked := fun _ listed => absurd listed List.not_mem_nil }
  exact run_invariant (fun _ _ _ known stepped => known_step known stepped) start ran

/-! ## The verdict behind a push -/

/-- An approval request is committed as approved, for the case of these pushes, in a
state that the run has reached. -/
def ApprovedFor (d : Deployment) (es : List Event) (approvalId : String) (caseIds : List String) : Prop :=
  ∃ before t row, before <+: es ∧ run (step d) {} before = some t ∧ row ∈ t.db.recoveryApprovals ∧
    row.approvalId = approvalId ∧ row.status = .approved ∧ ∀ caseId ∈ caseIds, caseId = row.caseId

/-- Where a request is that was sent to approve.  A verdict on a row that was loaded as
approved leaves its status out of the update. -/
def Approving (d : Deployment) (es : List Event) (s : System) (approvalId : String) : RequestPhase → Prop
  | .deciding verdict loaded => verdict ≠ .reject ∧ loaded.approvalId = approvalId ∧
    (∃ row ∈ s.db.recoveryApprovals, requestPart row = requestPart loaded) ∧
    (loaded.status = .approved → ApprovedFor d es approvalId [loaded.caseId])
  | .enqueueing caseIds _ => ApprovedFor d es approvalId caseIds
  | .answered => True
  | .failed _ => True
  | _ => False

/-- A request was sent to approve this approval request. -/
def SentToApprove (es : List Event) (i : ℕ) (approvalId : String) : Prop :=
  ∃ approvedBy now, Event.request i (.decide (.approve approvedBy) now approvalId) ∈ es

variable {approvalId : String} {caseIds : List String}

theorem approved_for_later (approved : ApprovedFor d es approvalId caseIds) (later : List Event) :
    ApprovedFor d (es ++ later) approvalId caseIds := by
  obtain ⟨before, t, row, earlier, rest⟩ := approved
  exact ⟨before, t, row, earlier.trans (List.prefix_append ..), rest⟩

theorem approving_other {phase : RequestPhase} (approving : Approving d es s approvalId phase)
    (stepped : step d s e = some s') : Approving d (es ++ [e]) s' approvalId phase := by
  cases phase with
  | deciding verdict loaded =>
    obtain ⟨approves, named, ⟨row, stored, same⟩, early⟩ := approving
    obtain ⟨kept, stored, sameKept⟩ := approval_kept (step_db stepped) stored
    exact ⟨approves, named, ⟨kept, stored, sameKept.trans same⟩,
      fun status => approved_for_later (early status) _⟩
  | enqueueing => exact approved_for_later approving _
  | answered | failed => trivial
  | idle | webhookMissed | webhookAdded | batchAdded => exact approving.elim

theorem approving_enqueueing (approved : ApprovedFor d es approvalId caseIds) :
    Approving d es s approvalId (enqueueing caseIds) := by
  cases caseIds with
  | nil => trivial
  | cons => exact approved

/-- A commit of this verdict has the row approved, unless it was loaded so. -/
theorem decide_approval_status {verdict : Verdict} {now : ℤ} {loaded row : RecoveryApproval}
    (approves : verdict ≠ .reject) (pending : loaded.status ≠ .approved) :
    (decideApproval verdict now loaded row).status = .approved := by
  cases verdict with
  | reject => exact absurd rfl approves
  | approve => exact if_neg (Ne.symm pending)

theorem approving_commit {now : ℤ} {db : Database} (ran : run (step d) {} es = some s)
    (approving : Approving d es s approvalId (s.requests i))
    (commit : Commit s now (s.requests i) (.ok db) caseIds)
    (stepped : step d s e = some s') (written : s'.db = db) :
    ApprovedFor d (es ++ [e]) approvalId caseIds := by
  generalize phase : s.requests i = before, committed : Except.ok db = outcome at commit approving
  cases commit with
  | webhook | batch => exact approving.elim
  | verdict verdict loaded =>
    cases committed
    obtain ⟨approves, named, ⟨row, stored, same⟩, early⟩ := approving
    rw [if_neg approves]
    by_cases status : loaded.status = .approved
    · exact approved_for_later (early status) _
    · have ofLoaded : row.approvalId = loaded.approvalId := congrArg (·.approvalId) same
      have ofCase : row.caseId = loaded.caseId := congrArg (·.caseId) same
      refine ⟨es ++ [e], s', decideApproval verdict now loaded row, List.prefix_rfl,
        run_snoc_iff.mpr ⟨s, ran, stepped⟩, ?_, ofLoaded.trans named, decide_approval_status approves status,
        ?_⟩
      · rw [written]
        exact Keyed.mem_modify.mpr (.inl ⟨row, stored, ofLoaded, rfl⟩)
      · intro caseId listed
        exact (List.mem_singleton.mp listed).trans ofCase.symm

/-- The next part of a request that was sent to approve. -/
theorem approving_goes_on {i : ℕ} {moved : RequestEvent} (ran : run (step d) {} es = some s)
    (approving : Approving d es s approvalId (s.requests i)) (stepped : step d s (.request i moved) = some s') :
    Approving d (es ++ [.request i moved]) s' approvalId (s'.requests i) := by
  cases step_cases stepped with
  | request moved =>
    cases moved with
    | receive phase | simulate phase | decide phase | addRows phase =>
      rw [phase] at approving
      exact approving.elim
    | committed commit =>
      simp only [tick_requests, set_request_requests, Function.update_self]
      exact approving_enqueueing (approving_commit ran approving commit stepped rfl)
    | push phase =>
      rw [phase] at approving
      obtain ⟨before, t, row, within, reached, stored, named, status, each⟩ :=
        approved_for_later approving _
      simp only [tick_requests, set_request_requests, Function.update_self, afterPush]
      split
      · exact approving_enqueueing ⟨before, t, row, within, reached, stored, named, status,
          fun caseId listed => each caseId (List.mem_cons_of_mem _ listed)⟩
      · exact ⟨before, t, row, within, reached, stored, named, status, each⟩
    | refused | noClient | abort =>
      simp only [tick_requests, set_request_requests, Function.update_self]
      trivial

/-- Where a request comes to that is sent to approve: it is refused, or has loaded the row. -/
theorem approving_sent {i : ℕ} {approvedBy : String} {now : ℤ} (ran : run (step d) {} es = some s)
    (stepped : step d s (.request i (.decide (.approve approvedBy) now approvalId)) = some s') :
    Approving d (es ++ [.request i (.decide (.approve approvedBy) now approvalId)]) s' approvalId
      (s'.requests i) := by
  cases step_cases stepped with
  | request moved =>
    cases moved with
    | decide phase =>
      simp only [tick_requests, set_request_requests, Function.update_self, afterAccept]
      split
      · trivial
      · rename_i loaded accepted
        have read := accept_verdict_found accepted
        have stored : loaded ∈ s.db.recoveryApprovals := Keyed.find_mem read
        have approves : Verdict.approve approvedBy ≠ .reject := by
          intro rejected
          cases rejected
        refine ⟨approves, Keyed.find_key read, ⟨loaded, stored, rfl⟩, fun status => ?_⟩
        exact ⟨es, s, loaded, List.prefix_append .., ran, stored, Keyed.find_key read, status,
          fun caseId listed => List.mem_singleton.mp listed⟩

/-- A request that was sent to approve pushes only what is committed as approved. -/
theorem approving_step (ran : run (step d) {} es = some s)
    (known : ∀ i approvalId, SentToApprove es i approvalId → Approving d es s approvalId (s.requests i))
    (stepped : step d s e = some s') (i : ℕ) (approvalId : String)
    (sent : SentToApprove (es ++ [e]) i approvalId) :
    Approving d (es ++ [e]) s' approvalId (s'.requests i) := by
  obtain ⟨approvedBy, now, listed⟩ := sent
  rcases List.mem_append.mp listed with earlier | last
  · have approving := known i approvalId ⟨approvedBy, now, earlier⟩
    by_cases mine : ∃ moved, e = .request i moved
    · obtain ⟨moved, rfl⟩ := mine
      exact approving_goes_on ran approving stepped
    · rw [requests_other stepped fun moved same => mine ⟨moved, same⟩]
      exact approving_other approving stepped
  · cases List.mem_singleton.mp last
    exact approving_sent ran stepped

theorem approving_run (ran : run (step d) {} es = some s) (i : ℕ) (approvalId : String)
    (sent : SentToApprove es i approvalId) : Approving d es s approvalId (s.requests i) := by
  refine run_history (P := fun es s => ∀ i approvalId, SentToApprove es i approvalId →
    Approving d es s approvalId (s.requests i)) ?_ ?_ ran i approvalId sent
  · rintro i approvalId ⟨approvedBy, now, listed⟩
    cases listed
  · intro es s e s' ran known stepped
    exact approving_step ran known stepped

/-! ## Commit before push -/

/-- What the producers promise the workers: a case that is queued or held has a committed
row, so that a worker finds it; and a case that `approve` is about to push was approved
by a commit before. -/
structure CommittedFirst (d : Deployment) (es : List Event) (s : System) : Prop where
  queued : ∀ caseId ∈ s.queue, Stored s caseId
  held : ∀ w caseId, (s.workers w).caseId = some caseId → Stored s caseId
  found : ∀ w caseId s', s.workers w = .popped caseId → step d s (.worker w .load) = some s' →
    ∃ case, case.caseId = caseId ∧ s'.workers w = .loaded case
  approved : ∀ i approvalId caseIds attempt, SentToApprove es i approvalId →
    s.requests i = .enqueueing caseIds attempt → ApprovedFor d es approvalId caseIds

theorem load_found (stored : Stored s caseId) (phase : s.workers w = .popped caseId)
    (stepped : step d s (.worker w .load) = some s') :
    ∃ case, case.caseId = caseId ∧ s'.workers w = .loaded case := by
  cases step_cases stepped with
  | worker moved =>
    cases moved with
    | missing popped absent =>
      cases phase.symm.trans popped
      obtain ⟨case, member, ofCase⟩ := stored
      exact absurd ofCase (Keyed.find_none.mp absent case member)
    | load popped found =>
      cases phase.symm.trans popped
      exact ⟨_, Keyed.find_key found, Function.update_self ..⟩

/-- In every run, whatever fails and in whatever order, a case is committed before it is
pushed, and so is the verdict of an approval. -/
theorem committed_first (ran : run (step d) {} es = some s) : CommittedFirst d es s where
  queued := (known_run ran).queued
  held := (known_run ran).held
  found w caseId s' phase stepped := by
    have working : (s.workers w).caseId = some caseId := by rw [phase, WorkerPhase.caseId]
    exact load_found ((known_run ran).held w caseId working) phase stepped
  approved i approvalId caseIds attempt sent phase := by
    have approving := approving_run ran i approvalId sent
    rw [phase] at approving
    exact approving

/-- A case is queued twice, and approved between its two deliveries. -/
def approvedRun : List Event :=
  sampleIntake 0 "00000007" 7500000 ++ [.request 0 (.push .failedAfter), .request 0 (.push .delivered)] ++
    sampleProcess 0 "payment_link" 1788501600000000 "action-1" ++
    sampleVerdict 1 (.approve "ops@merchant.example") 1788502000000000

theorem committed_first_approved : ∃ s, run (step sampleDeployment) {} approvedRun = some s ∧
    s.queue = ["REC-00000007"] ∧ Stored s "REC-00000007" ∧
    ApprovedFor sampleDeployment approvedRun "APR-000000000001" ["REC-00000007"] := by
  obtain ⟨s, ran, queue, pushing, caseIds, attempt, phase⟩ :
      ∃ s, run (step sampleDeployment) {} approvedRun = some s ∧ s.queue = ["REC-00000007"] ∧
        pushes (s.requests 1) = ["REC-00000007"] ∧
        ∃ caseIds attempt, s.requests 1 = .enqueueing caseIds attempt := ⟨_, rfl, rfl, rfl, _, _, rfl⟩
  have first := committed_first ran
  have sent : SentToApprove approvedRun 1 "APR-000000000001" :=
    ⟨"ops@merchant.example", 1788502000000000, by simp [approvedRun, sampleVerdict]⟩
  have approved := first.approved _ _ _ _ sent phase
  rw [phase] at pushing
  cases show caseIds = _ from pushing
  exact ⟨s, ran, queue, first.queued _ (by simp [queue]), approved⟩

end RevenueGuard.ProducerProofs
