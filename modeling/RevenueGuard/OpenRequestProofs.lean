import RevenueGuard.TableProofs

/-!
How many approval requests of a case are open at a time.  Every run of a high-value case
that has no valid approval draws a new identifier, and `_persist_result` only looks for a
row with that identifier.  `one_open_request` holds as long as no run adds a request to a
case that has an open one.
-/

namespace RevenueGuard.OpenRequestProofs

open Library Library.Runs GraphProofs WorkerProofs SystemProofs TableProofs

/-- The request is PENDING and has not expired. -/
def isOpen (now : ℤ) (row : RecoveryApproval) : Bool := row.status = .pending && !isExpired now row.expiresAt

/-- The open requests of a case. -/
def openRequests (now : ℤ) (caseId : String) (rows : List RecoveryApproval) : List RecoveryApproval :=
  rows.filter fun r => r.caseId = caseId && isOpen now r

/-- The commit of a run adds a request that is open at this reading. -/
def addsOpen (now : ℤ) (result : RecoveryState) (rows : List RecoveryApproval) : Bool :=
  match result.approvalStatus, result.approvalRecord with
  | some .pending, some (.requested record) =>
    !(rows.any fun r => r.approvalId = record.approvalId) && !isExpired now record.expiresAt
  | _, _ => false

/-- The step adds an open request to a case that has one. -/
def asksTwice (s : System) : Event → Bool
  | .worker w (.persist now) =>
    match s.workers w with
    | .finished rows result =>
      !(openRequests now rows.case.caseId s.db.recoveryApprovals).isEmpty &&
        addsOpen now result s.db.recoveryApprovals
    | _ => false
  | _ => false

/-- The reading of the clock at the commit of a run. -/
def committedAt : Event → Option ℤ
  | .worker _ (.persist now) => some now
  | _ => none

/-- The state is observed no earlier than its last commit. -/
def ObservedAt (now : ℤ) (es : List Event) : Prop := ∀ t ∈ es.filterMap committedAt, t ≤ now

instance (now : ℤ) (es : List Event) : Decidable (ObservedAt now es) :=
  inferInstanceAs (Decidable (∀ t ∈ es.filterMap committedAt, t ≤ now))

variable {d : Deployment} {s s' : System} {e : Event} {es : List Event} {now later : ℤ} {caseId : String}
  {rows : List RecoveryApproval}

/-! ## Open requests -/

/-- A request that is open was open before. -/
theorem is_open_earlier {row : RecoveryApproval} (before : now ≤ later) (opened : isOpen later row = true) :
    isOpen now row = true := by
  simp only [isOpen, isExpired, Bool.and_eq_true, decide_eq_true_eq, Bool.not_eq_true',
    decide_eq_false_iff_not, not_lt] at opened ⊢
  exact ⟨opened.1, le_trans before opened.2⟩

theorem none_open_later (before : now ≤ later) (none : openRequests now caseId rows = []) :
    openRequests later caseId rows = [] := by
  rw [openRequests, List.filter_eq_nil_iff] at none ⊢
  intro row listed opened
  rw [Bool.and_eq_true] at opened
  exact none row listed (by rw [opened.1, is_open_earlier before opened.2]; rfl)

/-- A verdict opens nothing. -/
theorem decided_not_open {verdict : Verdict} {t : ℤ} {loaded current : RecoveryApproval}
    (opened : isOpen now (decideApproval verdict t loaded current) = true) : isOpen now current = true := by
  simp only [isOpen, Bool.and_eq_true, decide_eq_true_eq] at opened ⊢
  refine ⟨?_, opened.2⟩
  have pending := opened.1
  simp only [decideApproval, written] at pending
  split at pending
  · exact pending
  · cases verdict <;> cases pending

theorem open_requests_decided {verdict : Verdict} {t : ℤ} {loaded : RecoveryApproval} :
    (openRequests now caseId (Keyed.modify (·.approvalId) loaded.approvalId (decideApproval verdict t loaded)
      rows)).length ≤ (openRequests now caseId rows).length := by
  simp only [openRequests, Keyed.modify, ← List.countP_eq_length_filter, List.countP_map]
  refine List.countP_mono_left ?_
  intro row _ opened
  simp only [Function.comp_apply] at opened
  split at opened
  · rw [Bool.and_eq_true] at opened ⊢
    exact ⟨opened.1, decided_not_open opened.2⟩
  · exact opened

/-- What the commit of a run adds is open only if it was open at the commit. -/
theorem open_requests_grown {result : RecoveryState} {record : ApprovalRecord} {ofCase : String}
    (pending : result.approvalStatus = some .pending)
    (requested : result.approvalRecord = some (.requested record))
    (fresh : ∀ row ∈ rows, row.approvalId ≠ record.approvalId) (before : now ≤ later)
    (once : openRequests now ofCase rows = [] ∨ addsOpen now result rows = false)
    (few : (openRequests later caseId rows).length ≤ 1) :
    (openRequests later caseId (rows ++ [pendingApproval ofCase record])).length ≤ 1 := by
  have split : openRequests later caseId (rows ++ [pendingApproval ofCase record]) =
      openRequests later caseId rows ++
        [pendingApproval ofCase record].filter fun r => r.caseId = caseId && isOpen later r :=
    List.filter_append ..
  rw [split, List.length_append]
  by_cases adds : ofCase = caseId ∧ isOpen later (pendingApproval ofCase record) = true
  · -- The new request is open, so nothing else of the case was when it came in.
    obtain ⟨rfl, opened⟩ := adds
    have openedThen := is_open_earlier before opened
    rcases once with none | expired
    · rw [none_open_later before none, List.length_nil, Nat.zero_add]
      exact List.length_filter_le _ [pendingApproval ofCase record]
    · have unknown : rows.any (fun r => r.approvalId = record.approvalId) = false := by simpa using fresh
      simp only [addsOpen, pending, requested, unknown, Bool.not_false, Bool.true_and] at expired
      simp only [isOpen, pendingApproval, decide_true, Bool.true_and] at openedThen
      rw [openedThen] at expired
      cases expired
  · have closed :
        ([pendingApproval ofCase record].filter fun r => r.caseId = caseId && isOpen later r) = [] := by
      rw [List.filter_eq_nil_iff]
      intro row listed
      rw [List.mem_singleton.mp listed, Bool.and_eq_true, decide_eq_true_eq]
      exact adds
    rw [closed]
    exact few

/-! ## One at a time -/

/-- While no run adds an open request to a case that has one, every case has at most one
open request. -/
theorem one_open_request (met : Meets (step d) (fun s e => asksTwice s e = false) {} es)
    (ran : run (step d) {} es = some s) (observed : ObservedAt now es) (caseId : String) :
    (openRequests now caseId s.db.recoveryApprovals).length ≤ 1 := by
  refine meets_history (P := fun es s => ∀ now, ObservedAt now es →
    (openRequests now caseId s.db.recoveryApprovals).length ≤ 1) ?_ ?_ met ran now observed
  · intro now _
    exact Nat.zero_le 1
  intro es s e s' _ few once stepped now observed
  have earlier : ObservedAt now es := fun t listed =>
    observed t (by rw [List.filterMap_append]; exact List.mem_append_left _ listed)
  have few := few now earlier
  rcases recovery_approvals_step stepped with same | ⟨_, _, _, _, _, _, _, decided⟩ |
    ⟨w, rows, result, t, rfl, phase, _, committed⟩
  · rw [same]
    exact few
  · rw [decided]
    exact le_trans open_requests_decided few
  · rcases insert_approval_ok (persist_result_ok committed).recoveryApprovals with
      same | ⟨record, pending, requested, fresh, grown⟩
    · rw [same]
      exact few
    · have before : t ≤ now := observed t (by simp [committedAt])
      simp only [asksTwice, phase, Bool.and_eq_false_iff, Bool.not_eq_false', List.isEmpty_iff] at once
      rw [grown]
      exact open_requests_grown pending requested fresh before once few

/-! ## Two open requests -/

/-- A delivery whose run asks under this identifier. -/
def askingProcess (now : ℤ) (approvalId : String) : List Event :=
  [.worker 0 .pop, .worker 0 .load, .worker 0 (.gate 0),
   .worker 0 (.decide (sampleDecision .closed "payment_link") (sampleClock now)),
   .worker 0 (.finish { sampleFinish now "action-1" with approvalId }), .worker 0 (.persist now)]

/-- A high-value case is delivered twice, the second time at this reading. -/
def redelivered (now : ℤ) : List Event :=
  sampleIntake 0 "00000007" 7500000 ++ [.request 0 (.push .failedAfter), .request 0 (.push .delivered)] ++
    askingProcess 1788501600000000 "APR-000000000001" ++ askingProcess now "APR-000000000002"

/-- Three hours later the first request has expired. -/
theorem one_open_request_expired : ∃ s, run (step sampleDeployment) {} (redelivered 1788512400000000) = some s ∧
    s.db.recoveryApprovals.length = 2 ∧
    (openRequests 1788512400000000 "REC-00000007" s.db.recoveryApprovals).length ≤ 1 := by
  obtain ⟨s, ran, two⟩ : ∃ s, run (step sampleDeployment) {} (redelivered 1788512400000000) = some s ∧
      s.db.recoveryApprovals.length = 2 := ⟨_, rfl, rfl⟩
  have met : Meets (step sampleDeployment) (fun s e => asksTwice s e = false) {}
      (redelivered 1788512400000000) := meets_of_checks (by decide)
  exact ⟨s, ran, two, one_open_request met ran (by decide) _⟩

/-- Every case has at most one open request in every reached state. -/
def OneOpenRequest : Prop :=
  ∀ d es s now caseId, run (step d) {} es = some s → ObservedAt now es →
    (openRequests now caseId s.db.recoveryApprovals).length ≤ 1

/-- One hour later the first request is still open, and the second delivery asks again. -/
theorem two_open_requests : ¬ OneOpenRequest := by
  intro one
  obtain ⟨s, ran, two⟩ : ∃ s, run (step sampleDeployment) {} (redelivered 1788505200000000) = some s ∧
      (openRequests 1788505200000000 "REC-00000007" s.db.recoveryApprovals).length = 2 := ⟨_, rfl, rfl⟩
  have few := one _ _ s 1788505200000000 "REC-00000007" ran (by decide)
  omega

end RevenueGuard.OpenRequestProofs
