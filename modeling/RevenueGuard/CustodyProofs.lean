import RevenueGuard.TableProofs

/-!
Custody of the accepted failures over whole runs of the service: a case that is
still to be processed is in the queue, with a handler that pushes it, or with a
worker.

The service has places that drop a case identifier: the last failed push, a
handler without a Redis client or one that dies while it pushes, a `BRPOP` whose
reply is lost, a worker that dies.  `custody_kept` says that no case is lost in a
run in which none of them drops the last copy of the identifier of a case that
is still to be processed.
-/

namespace RevenueGuard.CustodyProofs

open Library Library.Runs GraphProofs WorkerProofs SystemProofs TableProofs

variable {d : Deployment} {s s' t : System} {db : Database} {e : Event} {es : List Event} {i w : ℕ}
  {caseId : String}

/-! ## Custody -/

/-- A committed case that is still to be processed. -/
def Detected (db : Database) (caseId : String) : Prop :=
  ∃ case ∈ db.recoveryCases, case.caseId = caseId ∧ case.status = .detected

/-- Somebody has the identifier of a case in hand. -/
inductive Held (s : System) (caseId : String) : Prop where
  | queued : caseId ∈ s.queue → Held s caseId
  | enqueueing {i : ℕ} {caseIds : List String} {attempt : ℕ} :
      s.requests i = .enqueueing caseIds attempt → caseId ∈ caseIds → Held s caseId
  | worked {w : ℕ} : (s.workers w).caseId = some caseId → Held s caseId

/-- No accepted failure is lost. -/
def NoneLost (s : System) : Prop := ∀ caseId, Detected s.db caseId → Held s caseId

/-- The copies of case identifiers that a step drops. -/
def dropped (s : System) : Event → List String
  | .request i (.push .failedBefore) =>
    match s.requests i with
    | .enqueueing (caseId :: _) attempt => if attempt + 1 = enqueueAttempts then [caseId] else []
    | _ => []
  | .request i .noClient | .request i (.abort _) =>
    match s.requests i with
    | .enqueueing caseIds _ => caseIds
    | _ => []
  | .worker _ .popLost => s.queue.getLast?.toList
  | .worker w .crash => (s.workers w).caseId.toList
  | _ => []

/-- The state without the copies that a step drops. -/
def without (s : System) : Event → System
  | .request i (.push _) =>
    match s.requests i with
    | .enqueueing (_ :: rest) _ => s.setRequest i (enqueueing rest)
    | _ => s
  | .request i _ => s.setRequest i .answered
  | .worker _ .popLost => { s with queue := s.queue.dropLast }
  | .worker w _ => s.setWorker w .idle

/-- A step that drops no last copy of a case that is still to be processed. -/
def KeepsCustody (s : System) (e : Event) : Prop :=
  ∀ caseId ∈ dropped s e, Detected s.db caseId → Held (without s e) caseId

/-- Custody is a matter of the queue, the requests and the workers. -/
theorem held_congr (held : Held s caseId) (queue : t.queue = s.queue) (requests : t.requests = s.requests)
    (workers : t.workers = s.workers) : Held t caseId := by
  cases held with
  | queued listed => exact .queued (queue ▸ listed)
  | enqueueing phase listed => exact .enqueueing (requests ▸ phase) listed
  | worked working => exact .worked (workers ▸ working)

theorem held_of_enqueueing {caseIds : List String} (phase : s.requests i = enqueueing caseIds)
    (listed : caseId ∈ caseIds) : Held s caseId := by
  cases caseIds with
  | nil => cases listed
  | cons first rest => exact .enqueueing phase listed

/-! ## The steps of a request -/

/-- A copy that the moving request does not hold stays where it is. -/
theorem held_request_step (held : Held s caseId) (queue : ∀ x ∈ s.queue, x ∈ t.queue)
    (workers : t.workers = s.workers) (others : ∀ j, j ≠ i → t.requests j = s.requests j)
    (mine : ∀ caseIds attempt, s.requests i = .enqueueing caseIds attempt → caseId ∈ caseIds →
      Held t caseId) : Held t caseId := by
  cases held with
  | queued listed => exact .queued (queue caseId listed)
  | @enqueueing j caseIds attempt phase listed =>
    by_cases same : j = i
    · subst same
      exact mine caseIds attempt phase listed
    · exact .enqueueing ((others j same).trans phase) listed
  | @worked w working =>
    apply Held.worked (w := w)
    rw [workers]
    exact working

/-- A request that is not enqueueing holds no copy. -/
theorem held_set_request {phase : RequestPhase} (held : Held s caseId)
    (idle : ∀ caseIds attempt, s.requests i ≠ .enqueueing caseIds attempt) :
    Held (s.setRequest i phase) caseId :=
  held_request_step held (fun _ listed => listed) rfl (fun _ apart => Function.update_of_ne apart ..)
    fun caseIds attempt enqueueing => absurd enqueueing (idle caseIds attempt)

theorem held_commit {now : ℤ} {caseIds : List String} (kept : NoneLost s)
    (commit : Commit s now (s.requests i) (.ok db) caseIds) (detected : Detected db caseId) :
    Held ({ s with db }.setRequest i (enqueueing caseIds)) caseId := by
  have pushing : caseId ∈ caseIds → Held ({ s with db }.setRequest i (enqueueing caseIds)) caseId :=
    held_of_enqueueing (i := i) (by simp)
  have old : Detected s.db caseId → (∀ caseIds attempt, s.requests i ≠ .enqueueing caseIds attempt) →
      Held ({ s with db }.setRequest i (enqueueing caseIds)) caseId := by
    intro earlier idle
    have held : Held { s with db } caseId := held_congr (kept caseId earlier) rfl rfl rfl
    exact held_set_request held idle
  obtain ⟨case, stored, rfl, untouched⟩ := detected
  generalize phase : s.requests i = before, committed : Except.ok db = outcome at commit
  cases commit with
  | webhook record new =>
    obtain ⟨_, _, rfl⟩ := commit_webhook_ok committed.symm
    rcases List.mem_append.mp stored with earlier | added
    · exact old ⟨case, earlier, rfl, untouched⟩ (by simp [phase])
    · apply pushing
      rw [Option.mem_toList] at added ⊢
      exact Option.mem_map_of_mem _ added
  | batch cases =>
    obtain ⟨_, rfl⟩ := commit_batch_ok committed.symm
    rcases List.mem_append.mp stored with earlier | added
    · exact old ⟨case, earlier, rfl, untouched⟩ (by simp [phase])
    · exact pushing (List.mem_map_of_mem added)
  | verdict =>
    cases committed
    exact old ⟨case, stored, rfl, untouched⟩ (by simp [phase])

theorem held_push {first : String} {rest : List String} {attempt : ℕ} {outcome : PushOutcome}
    (phase : s.requests i = .enqueueing (first :: rest) attempt)
    (keeps : KeepsCustody s (.request i (.push outcome))) (detected : Detected s.db caseId)
    (held : Held s caseId) :
    Held ({ s with queue := pushed first s.queue outcome }.setRequest i
      (afterPush first rest attempt outcome)) caseId := by
  have grows : ∀ x ∈ s.queue, x ∈ pushed first s.queue outcome := by
    intro x listed
    cases outcome with
    | failedBefore => exact listed
    | delivered | failedAfter => exact List.mem_cons_of_mem _ listed
  have others : ∀ j, j ≠ i → ({ s with queue := pushed first s.queue outcome }.setRequest i
      (afterPush first rest attempt outcome)).requests j = s.requests j :=
    fun j apart => Function.update_of_ne apart ..
  refine held_request_step held grows rfl others ?_
  intro caseIds attempt' phase' listed
  cases phase.symm.trans phase'
  rcases List.mem_cons.mp listed with rfl | later
  · cases outcome with
    | delivered | failedAfter => exact .queued List.mem_cons_self
    | failedBefore =>
      by_cases last : attempt + 1 = enqueueAttempts
      · have elsewhere := keeps caseId (by simp [dropped, phase, last]) detected
        simp only [without, phase] at elsewhere
        simpa [afterPush, last, pushed] using elsewhere
      · have retries : afterPush caseId rest attempt .failedBefore =
            .enqueueing (caseId :: rest) (attempt + 1) := by simp [afterPush, last]
        rw [retries]
        exact .enqueueing (Function.update_self ..) List.mem_cons_self
  · unfold afterPush
    split
    · exact held_of_enqueueing (Function.update_self ..) later
    · exact .enqueueing (Function.update_self ..) (List.mem_cons_of_mem _ later)

theorem held_request {moved : RequestEvent} (kept : NoneLost s)
    (keeps : KeepsCustody s (.request i moved)) (stepped : RequestStep d s i moved t)
    (detected : Detected t.db caseId) : Held t caseId := by
  cases stepped with
  | receive phase | simulate phase | decide phase | addRows phase =>
    exact held_set_request (kept caseId detected) (by simp [phase])
  | committed commit => exact held_commit kept commit detected
  | refused commit =>
    apply held_set_request (kept caseId detected)
    intro caseIds attempt phase
    rw [phase] at commit
    cases commit
  | push phase => exact held_push phase keeps detected (kept caseId detected)
  | noClient phase =>
    refine held_request_step (kept caseId detected) (fun _ listed => listed) rfl
      (fun _ apart => Function.update_of_ne apart ..) ?_
    intro caseIds attempt phase' listed
    exact keeps caseId (by simpa [dropped, phase'] using listed) detected
  | abort =>
    refine held_request_step (kept caseId detected) (fun _ listed => listed) rfl
      (fun _ apart => Function.update_of_ne apart ..) ?_
    intro caseIds attempt phase listed
    have elsewhere := keeps caseId (by simpa [dropped, phase] using listed) detected
    refine held_request_step (i := i) elsewhere (fun _ listed => listed) rfl ?_ ?_
    · intro j apart
      simp [without, Function.update_of_ne apart]
    · intro caseIds' attempt' answered
      simp [without] at answered

/-! ## The steps of a worker -/

/-- A copy that the moving worker does not take or hold stays where it is. -/
theorem held_worker_step (held : Held s caseId) (requests : t.requests = s.requests)
    (others : ∀ v, v ≠ w → t.workers v = s.workers v) (queue : caseId ∈ s.queue → Held t caseId)
    (mine : (s.workers w).caseId = some caseId → Held t caseId) : Held t caseId := by
  cases held with
  | queued listed => exact queue listed
  | @enqueueing j _ _ phase listed =>
    rw [← requests] at phase
    exact .enqueueing phase listed
  | @worked v working =>
    by_cases same : v = w
    · subst same
      exact mine working
    · apply Held.worked (w := v)
      rw [others v same]
      exact working

/-- A worker that goes on with the case it holds keeps every copy. -/
theorem held_same_case (held : Held s caseId) (queue : t.queue = s.queue)
    (requests : t.requests = s.requests) (others : ∀ v, v ≠ w → t.workers v = s.workers v)
    (same : (t.workers w).caseId = (s.workers w).caseId) : Held t caseId := by
  refine held_worker_step held requests others ?_ ?_
  · intro listed
    rw [← queue] at listed
    exact .queued listed
  · intro working
    exact .worked (same.trans working)

/-- The worker's last step with a case: the case is not to be processed any more. -/
theorem held_processed {processed : String} (held : Held s caseId) (other : caseId ≠ processed)
    (working : (s.workers w).caseId = some processed) (queue : t.queue = s.queue)
    (requests : t.requests = s.requests) (others : ∀ v, v ≠ w → t.workers v = s.workers v) :
    Held t caseId := by
  refine held_worker_step held requests others ?_ ?_
  · intro listed
    rw [← queue] at listed
    exact .queued listed
  · intro same
    exact absurd (Option.some.inj (same.symm.trans working)) other

/-- The rows of a case that has been processed are not to be processed again. -/
theorem detected_modify {processed : String} {f : RecoveryCase → RecoveryCase}
    {rows : List RecoveryCase} (moves : ∀ case, (f case).status ≠ .detected)
    (replaced : db.recoveryCases = Keyed.modify (·.caseId) processed f rows)
    (detected : Detected db caseId) :
    caseId ≠ processed ∧ ∃ case ∈ rows, case.caseId = caseId ∧ case.status = .detected := by
  obtain ⟨case, stored, rfl, untouched⟩ := detected
  rw [replaced] at stored
  rcases Keyed.mem_modify.mp stored with ⟨old, _, _, rfl⟩ | ⟨earlier, other⟩
  · exact absurd untouched (moves old)
  · exact ⟨other, case, earlier, rfl, untouched⟩

theorem case_status_moves (result : RecoveryState) : caseStatus result ≠ .detected := by
  unfold caseStatus
  split
  · decide
  · split <;> decide

/-- A copy in the queue is the last one, which a worker takes, or stays. -/
theorem queued_or_last {queue : List String} {last : String} (found : queue.getLast? = some last)
    (listed : caseId ∈ queue) : caseId ∈ queue.dropLast ∨ caseId = last := by
  rw [← List.dropLast_append_getLast? last found] at listed
  rcases List.mem_append.mp listed with waiting | taken
  · exact .inl waiting
  · exact .inr (List.mem_singleton.mp taken)

theorem held_worker {moved : WorkerEvent} (kept : NoneLost s) (keeps : KeepsCustody s (.worker w moved))
    (stepped : WorkerStep d s w moved t) (detected : Detected t.db caseId) : Held t caseId := by
  cases stepped with
  | @pop last idle found =>
    refine held_worker_step (w := w) (kept caseId detected) rfl
      (fun _ apart => Function.update_of_ne apart ..) ?_ ?_
    · intro listed
      rcases queued_or_last found listed with waiting | rfl
      · exact .queued waiting
      · exact .worked (w := w) (by simp [WorkerPhase.caseId])
    · intro working
      rw [idle] at working
      cases working
  | @popLost last idle found =>
    refine held_worker_step (w := w) (kept caseId detected) rfl (fun _ _ => rfl) ?_ ?_
    · intro listed
      rcases queued_or_last found listed with waiting | rfl
      · exact .queued waiting
      · apply keeps caseId ?_ detected
        simp [dropped, found]
    · intro working
      rw [idle] at working
      cases working
  | missing phase absent =>
    refine held_worker_step (w := w) (kept caseId detected) rfl
      (fun _ apart => Function.update_of_ne apart ..) (fun listed => .queued listed) ?_
    intro working
    rw [phase] at working
    cases working
    obtain ⟨case, stored, same, _⟩ := detected
    exact absurd same (Keyed.find_none.mp absent case stored)
  | load phase found =>
    refine held_same_case (w := w) (kept caseId detected) rfl rfl
      (fun _ apart => Function.update_of_ne apart ..) ?_
    simp [phase, WorkerPhase.caseId, Keyed.find_key found]
  | gate phase | decide phase | decideFails phase | finish phase | finishFails phase
  | persistFails phase =>
    refine held_same_case (w := w) (kept caseId detected) rfl rfl
      (fun _ apart => Function.update_of_ne apart ..) ?_
    simp [phase, WorkerPhase.caseId]
  | raise working =>
    refine held_same_case (w := w) (kept caseId detected) rfl rfl
      (fun _ apart => Function.update_of_ne apart ..) ?_
    rw [working, release_workers, Function.update_self]
    rfl
  | persist phase committed =>
    have replaced := (persist_result_ok committed).recoveryCases
    obtain ⟨other, case, stored, same, untouched⟩ :=
      detected_modify (fun _ => case_status_moves _) replaced detected
    exact held_processed (w := w) (kept caseId ⟨case, stored, same, untouched⟩) other
      (by rw [phase]; rfl) rfl rfl (fun _ apart => Function.update_of_ne apart ..)
  | recordFailure phase free =>
    obtain ⟨other, case, stored, same, untouched⟩ :=
      detected_modify (fun _ => by simp) rfl detected
    exact held_processed (w := w) (kept caseId ⟨case, stored, same, untouched⟩) other
      (by rw [phase]; rfl) rfl rfl (fun _ apart => Function.update_of_ne apart ..)
  | crash working =>
    refine held_worker_step (w := w) (kept caseId detected) rfl
      (fun _ apart => Function.update_of_ne apart ..) (fun listed => .queued listed) ?_
    intro mine
    have elsewhere := keeps caseId (by simp [dropped, mine]) detected
    refine held_worker_step (w := w) elsewhere rfl ?_ (fun listed => .queued listed) ?_
    · intro v apart
      simp [without, Function.update_of_ne apart]
    · intro idle
      simp [without, WorkerPhase.caseId] at idle

/-! ## Runs -/

/-- A step that drops no last copy loses no case. -/
theorem none_lost_step (kept : NoneLost s) (keeps : KeepsCustody s e) (stepped : step d s e = some s') :
    NoneLost s' := by
  intro caseId detected
  cases step_cases stepped with
  | request moved => exact held_congr (held_request kept keeps moved detected) rfl rfl rfl
  | worker moved => exact held_congr (held_worker kept keeps moved detected) rfl rfl rfl

/-- Where no step drops the last copy of a case that is still to be processed,
every such case stays in somebody's custody. -/
theorem custody_kept (met : Meets (step d) KeepsCustody {} es) (ran : run (step d) {} es = some s) :
    NoneLost s := by
  have start : NoneLost {} := by
    rintro caseId ⟨case, stored, _⟩
    cases stored
  exact meets_invariant start (fun _ _ _ kept keeps stepped => none_lost_step kept keeps stepped) met ran

/-- A step that drops no copy at all. -/
def DropsNothing (s : System) (e : Event) : Prop := dropped s e = []

instance (s : System) (e : Event) : Decidable (DropsNothing s e) :=
  inferInstanceAs (Decidable (dropped s e = []))

/-- The push fails once, then goes through, and a worker takes the case. -/
def pushedRun : List Event :=
  sampleIntake 0 "00000001" 250000 ++
    [.request 0 (.push .failedBefore), .request 0 (.push .delivered), .worker 0 .pop]

theorem custody_kept_pushed : ∃ s, run (step sampleDeployment) {} pushedRun = some s ∧ NoneLost s := by
  obtain ⟨s, ran⟩ : ∃ s, run (step sampleDeployment) {} pushedRun = some s := ⟨_, rfl⟩
  have nothing : Meets (step sampleDeployment) DropsNothing {} pushedRun := meets_of_checks (by decide)
  have met : Meets (step sampleDeployment) KeepsCustody {} pushedRun := by
    refine meets_mono nothing ?_
    intro s e none_ caseId listed
    rw [none_] at listed
    cases listed
  exact ⟨s, ran, custody_kept met ran⟩

/-- No accepted failure is lost in any run. -/
def NeverLost (d : Deployment) : Prop := ∀ es s, run (step d) {} es = some s → NoneLost s

/-- Every push of an accepted failure fails, and the redelivery of the event is
taken for a duplicate. -/
def lostRun : List Event :=
  sampleIntake 0 "00000001" 250000 ++
    [.request 0 (.push .failedBefore), .request 0 (.push .failedBefore), .request 0 (.push .failedBefore),
     .request 1 (.receive (sampleDelivery 250000))]

theorem accepted_failure_lost : ¬ NeverLost sampleDeployment := by
  intro never
  obtain ⟨s, ran, queue, requests, workers, detected⟩ : ∃ s,
      run (step sampleDeployment) {} lostRun = some s ∧ s.queue = [] ∧
        (∀ i caseIds attempt, s.requests i ≠ .enqueueing caseIds attempt) ∧
        (∀ w, (s.workers w).caseId = none) ∧ Detected s.db "REC-00000001" := by
    refine ⟨_, rfl, rfl, ?_, fun _ => rfl, _, List.mem_singleton_self _, rfl, rfl⟩
    intro i caseIds attempt
    match i with
    | 0 => exact nofun
    | 1 => exact nofun
    | i + 2 => exact nofun
  cases never _ s ran _ detected with
  | queued listed =>
    rw [queue] at listed
    cases listed
  | enqueueing phase => exact requests _ _ _ phase
  | @worked w working =>
    rw [workers w] at working
    cases working

end RevenueGuard.CustodyProofs
