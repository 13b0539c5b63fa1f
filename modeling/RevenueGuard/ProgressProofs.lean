import RevenueGuard.Library.Progress
import RevenueGuard.Schedules
import RevenueGuard.CustodyProofs
import RevenueGuard.LockProofs

/-!
The service comes to rest.

1. `steps_bounded`: a run has at most as many steps as what has come in can cause, so no case goes
   round between the queue and the workers for ever, however the steps interleave and whatever fails.
2. `backlog_cleared`: where nothing new comes in and no copy of a case is dropped, the service can
   always work off what it has, and any way of doing so ends with all requests answered, all workers
   idle, the queue empty, no row locked, and no case that is still to be processed.
-/

namespace RevenueGuard.ProgressProofs

open Library Library.Runs Library.Progress Library.Raises GraphProofs SystemProofs CaseFileProofs
  CustodyProofs LockProofs

variable {d : Deployment} {s s' t : System} {e : Event} {es fs : List Event} {i w : ℕ}

/-! ## The cases that are still to be pushed -/

/-- A request that pushes has a case to push and an attempt left. -/
def Pushing : RequestPhase → Prop
  | .enqueueing caseIds attempt => caseIds ≠ [] ∧ attempt < enqueueAttempts
  | _ => True

theorem pushing_enqueueing (caseIds : List String) : Pushing (enqueueing caseIds) := by
  cases caseIds with
  | nil => trivial
  | cons caseId rest => exact ⟨List.cons_ne_nil _ _, by decide⟩

theorem pushing_request_step {moved : RequestEvent} (known : Pushing (s.requests i))
    (stepped : RequestStep d s i moved t) : Pushing (t.requests i) := by
  cases stepped with
  | receive =>
    simp only [set_request_requests, Function.update_self, afterLookup]
    split <;> trivial
  | simulate =>
    simp only [set_request_requests, Function.update_self, afterBatch]
    split <;> trivial
  | decide =>
    simp only [set_request_requests, Function.update_self, afterAccept]
    split <;> trivial
  | addRows =>
    simp only [set_request_requests, Function.update_self, afterRows]
    split <;> trivial
  | committed =>
    simp only [set_request_requests, Function.update_self]
    exact pushing_enqueueing _
  | push phase =>
    simp only [set_request_requests, Function.update_self, afterPush]
    rw [phase] at known
    split
    · exact pushing_enqueueing _
    · rename_i again
      have left : _ + 1 ≠ enqueueAttempts := fun last => again (.inr last)
      exact ⟨List.cons_ne_nil _ _, Nat.lt_of_le_of_ne known.2 left⟩
  | refused | noClient | abort =>
    simp only [set_request_requests, Function.update_self]
    trivial

theorem pushing_step (known : ∀ i, Pushing (s.requests i)) (stepped : step d s e = some s') (j : ℕ) :
    Pushing (s'.requests j) := by
  by_cases mine : ∃ moved, e = .request j moved
  · obtain ⟨moved, rfl⟩ := mine
    cases step_cases stepped with
    | request moved =>
      have pushing := pushing_request_step (known j) moved
      exact pushing
  · rw [requests_other stepped fun moved same => mine ⟨moved, same⟩]
    exact known j

theorem pushing_invariant (ran : run (step d) {} es = some s) : ∀ i, Pushing (s.requests i) :=
  run_invariant (P := fun s => ∀ i, Pushing (s.requests i))
    (fun _ _ _ known stepped => pushing_step known stepped) (fun _ => by trivial) ran

/-! ## What a step costs -/

theorem weight_enqueueing (caseIds : List String) :
    requestWeight (enqueueing caseIds) = pushWeight caseIds 0 := by
  cases caseIds <;> rfl

theorem weight_answered : requestWeight .answered = 0 := rfl

theorem weight_failed (exc : String) : requestWeight (.failed exc) = 0 := rfl

theorem push_weight_zero (caseIds : List String) : pushWeight caseIds 0 = 24 * caseIds.length := by
  simp only [pushWeight, enqueueAttempts]
  omega

/-- A push costs a step and puts at most one case into the queue. -/
theorem push_paid (caseId : String) (rest queue : List String) {attempt : ℕ} (outcome : PushOutcome)
    (left : attempt < enqueueAttempts) :
    7 * (pushed caseId queue outcome).length + requestWeight (afterPush caseId rest attempt outcome) + 1 ≤
      7 * queue.length + pushWeight (caseId :: rest) attempt := by
  have grown : (pushed caseId queue outcome).length ≤ queue.length + 1 := by
    cases outcome <;> simp [pushed]
  have lighter : requestWeight (afterPush caseId rest attempt outcome) + 8 ≤
      pushWeight (caseId :: rest) attempt := by
    unfold enqueueAttempts at left
    unfold afterPush
    split
    · rw [weight_enqueueing, push_weight_zero]
      simp only [pushWeight, enqueueAttempts, List.length_cons]
      omega
    · simp only [requestWeight, pushWeight, enqueueAttempts, List.length_cons]
      omega
  omega

theorem weight_lookup (looked : Except String (WebhookResponse ⊕ String × Dict)) :
    requestWeight (afterLookup looked) ≤ 26 := by
  unfold afterLookup
  split <;> simp [requestWeight]

theorem weight_accept (verdict : Verdict) (accepted : Except String RecoveryApproval) :
    requestWeight (afterAccept verdict accepted) ≤ 25 := by
  unfold afterAccept
  split <;> simp [requestWeight]

theorem weight_rows (made : Except String (WebhookEvent × Option RecoveryCase)) :
    requestWeight (afterRows made) ≤ 25 := by
  unfold afterRows
  split
  · simp [requestWeight]
  · rename_i case
    simp only [requestWeight, push_weight_zero]
    cases case <;> simp

theorem weight_batch (now : ℤ) (events : List (String × SimulatedEvent)) :
    requestWeight (afterBatch (batchRows i now events)) ≤ 1 + 24 * events.length := by
  unfold afterBatch
  split
  · simp [requestWeight]
  · rename_i made
    simp only [requestWeight, push_weight_zero, List.length_map, map_m_length made, le_refl]

/-- A commit costs a step and what is to be pushed after it. -/
theorem commit_paid {now : ℤ} {phase : RequestPhase} {outcome : Except String Database} {caseIds : List String}
    (commit : Commit s now phase outcome caseIds) : pushWeight caseIds 0 + 1 ≤ requestWeight phase := by
  cases commit with
  | webhook | batch => exact (Nat.add_comm _ _).le
  | verdict =>
    rw [push_weight_zero]
    split <;> simp [requestWeight]

theorem running_weighs {phase : RequestPhase} (known : Pushing phase) (running : phase.running = true) :
    0 < requestWeight phase := by
  cases phase with
  | idle | answered | failed => cases running
  | webhookMissed | deciding => exact Nat.zero_lt_of_ne_zero (by simp [requestWeight])
  | webhookAdded | batchAdded =>
    simp only [requestWeight]
    omega
  | enqueueing caseIds attempt =>
    obtain ⟨some_, left⟩ := known
    have one := List.length_pos_of_ne_nil some_
    unfold enqueueAttempts at left
    simp only [requestWeight, pushWeight, enqueueAttempts]
    omega

theorem request_paid {moved : RequestEvent} (known : Pushing (s.requests i))
    (stepped : RequestStep d s i moved t) :
    7 * t.queue.length + requestWeight (t.requests i) + 1 ≤
      7 * s.queue.length + requestWeight (s.requests i) + arrival (.request i moved) := by
  cases stepped with
  | @receive delivery =>
    have after := weight_lookup (lookupWebhook d.database d.settings.razorpayWebhookSecret delivery s.db)
    have came : arrival (.request i (.receive delivery)) = 27 := rfl
    simp only [set_request_requests, set_request_queue, Function.update_self]
    omega
  | @simulate now events =>
    have after := weight_batch (i := i) now events
    have came : arrival (.request i (.simulate now events)) = 2 + 24 * events.length := rfl
    simp only [set_request_requests, set_request_queue, Function.update_self]
    omega
  | @decide verdict now approvalId =>
    have after := weight_accept verdict (acceptVerdict verdict now approvalId s.db)
    have came : arrival (.request i (.decide verdict now approvalId)) = 26 := rfl
    simp only [set_request_requests, set_request_queue, Function.update_self]
    omega
  | @addRows eventId event caseHex customerHex now phase =>
    have before : requestWeight (s.requests i) = 26 := by rw [phase]; rfl
    have after := weight_rows (webhookRows d.database i caseHex customerHex now eventId event)
    simp only [set_request_requests, set_request_queue, Function.update_self]
    omega
  | committed commit =>
    have paid := commit_paid commit
    simp only [set_request_requests, set_request_queue, Function.update_self, weight_enqueueing]
    omega
  | refused commit =>
    have paid := commit_paid commit
    simp only [set_request_requests, set_request_queue, Function.update_self, weight_failed]
    omega
  | @push caseId rest attempt outcome phase =>
    rw [phase] at known
    have before : requestWeight (s.requests i) = pushWeight (caseId :: rest) attempt := by rw [phase]; rfl
    have paid := push_paid caseId rest s.queue outcome known.2
    simp only [set_request_requests, set_request_queue, Function.update_self]
    omega
  | noClient phase =>
    have before := running_weighs known (by rw [phase]; rfl)
    simp only [set_request_requests, set_request_queue, Function.update_self, weight_answered]
    omega
  | abort running =>
    have before := running_weighs known running
    simp only [set_request_requests, set_request_queue, Function.update_self, weight_failed]
    omega

theorem queue_length_pop {last : String} (found : s.queue.getLast? = some last) :
    s.queue.dropLast.length + 1 = s.queue.length := by
  have shape := congrArg List.length (List.dropLast_append_getLast? last found)
  simpa using shape

theorem worker_paid {moved : WorkerEvent} (stepped : WorkerStep d s w moved t) :
    7 * t.queue.length + workerWeight (t.workers w) + 1 ≤ 7 * s.queue.length + workerWeight (s.workers w) := by
  cases stepped with
  | pop idle found | popLost idle found =>
    have shorter := queue_length_pop found
    simp only [set_worker_workers, set_worker_queue, Function.update_self, idle, workerWeight]
    omega
  | missing phase | load phase | gate phase | decide phase | finish phase | recordFailure phase =>
    simp only [set_worker_workers, set_worker_queue, Function.update_self, phase, workerWeight]
    omega
  | decideFails phase | finishFails phase | persist phase | persistFails phase =>
    simp only [release_workers, release_queue, Function.update_self, phase, workerWeight]
    omega
  | raise working notPopped notFailed =>
    simp only [release_workers, release_queue, Function.update_self]
    cases phase : s.workers w with
    | idle => simp [phase, WorkerPhase.caseId] at working
    | popped caseId => exact absurd phase (notPopped caseId)
    | failed caseId => exact absurd phase (notFailed caseId)
    | _ => simp only [workerWeight]; omega
  | crash working =>
    simp only [release_workers, release_queue, Function.update_self]
    cases phase : s.workers w with
    | idle => simp [phase, WorkerPhase.caseId] at working
    | _ => simp only [workerWeight]; omega

/-! ## The length of a run -/

/-- What the queue, some requests and some workers can still cause. -/
def backlog (requests workers : Finset ℕ) (s : System) : ℕ :=
  7 * s.queue.length + weigh requestWeight s.requests requests + weigh workerWeight s.workers workers

/-- A step of one of these parties. -/
def Among (requests workers : Finset ℕ) : Event → Prop
  | .request i _ => i ∈ requests
  | .worker w _ => w ∈ workers

theorem backlog_paid {requests workers : Finset ℕ} (known : ∀ i, Pushing (s.requests i))
    (among : Among requests workers e) (stepped : step d s e = some s') :
    backlog requests workers s' + 1 ≤ backlog requests workers s + arrival e := by
  cases step_cases stepped with
  | @request i moved t requestStep =>
    have paid := request_paid (known i) requestStep
    have own : weigh requestWeight (Function.update s.requests i (t.requests i)) requests +
        requestWeight (s.requests i) = weigh requestWeight s.requests requests + requestWeight (t.requests i) :=
      weigh_update among _
    have moves : Function.update s.requests i (t.requests i) = t.requests := by
      funext j
      by_cases same : j = i
      · subst same
        rw [Function.update_self]
      · rw [Function.update_of_ne same]
        exact (requests_other stepped fun moved event => same (by cases event; rfl)).symm
    have stay : t.workers = s.workers := by cases requestStep <;> rfl
    rw [moves] at own
    simp only [backlog, tick_queue, tick_requests, tick_workers, stay]
    omega
  | @worker w moved t workerStep =>
    have paid := worker_paid workerStep
    have own : weigh workerWeight (Function.update s.workers w (t.workers w)) workers +
        workerWeight (s.workers w) = weigh workerWeight s.workers workers + workerWeight (t.workers w) :=
      weigh_update among _
    have moves : Function.update s.workers w (t.workers w) = t.workers := by
      funext v
      by_cases same : v = w
      · subst same
        rw [Function.update_self]
      · rw [Function.update_of_ne same]
        exact (workers_other stepped fun moved event => same (by cases event; rfl)).symm
    have stay : t.requests = s.requests := by cases workerStep <;> rfl
    rw [moves] at own
    simp only [backlog, tick_queue, tick_requests, tick_workers, stay]
    omega

/-- The requests that act in a run. -/
def actingRequests : List Event → Finset ℕ
  | [] => ∅
  | .request i _ :: es => insert i (actingRequests es)
  | .worker _ _ :: es => actingRequests es

/-- The workers that act in a run. -/
def actingWorkers : List Event → Finset ℕ
  | [] => ∅
  | .request _ _ :: es => actingWorkers es
  | .worker w _ :: es => insert w (actingWorkers es)

theorem actors_act (listed : e ∈ es) : Among (actingRequests es) (actingWorkers es) e := by
  induction es with
  | nil => cases listed
  | cons first rest ih =>
    rcases List.mem_cons.mp listed with rfl | later
    · cases e with
      | request => exact Finset.mem_insert_self _ _
      | worker => exact Finset.mem_insert_self _ _
    · have acts := ih later
      cases first <;> cases e <;>
        first | exact acts | exact Finset.mem_insert_of_mem acts

/-- The steps of a run, with those that are still due, are at most what has come in can cause. -/
theorem run_paid (ran : run (step d) {} es = some s) :
    backlog (actingRequests es) (actingWorkers es) s + es.length ≤ (es.map arrival).sum := by
  have paid : backlog (actingRequests es) (actingWorkers es) s + es.length ≤
      backlog (actingRequests es) (actingWorkers es) {} + (es.map arrival).sum :=
    length_le_income (I := fun s => ∀ i, Pushing (s.requests i)) (fun _ => by trivial)
      (fun _ _ _ known stepped => pushing_step known stepped)
      (fun _ _ _ known among stepped => backlog_paid known among stepped) (fun _ => actors_act) ran
  have requests : weigh requestWeight ({} : System).requests (actingRequests es) = 0 := weigh_idle fun _ => rfl
  have workers : weigh workerWeight ({} : System).workers (actingWorkers es) = 0 := weigh_idle fun _ => rfl
  have nothing : backlog (actingRequests es) (actingWorkers es) {} = 0 := by
    simp only [backlog, requests, workers, List.length_nil]
  rwa [nothing, Nat.zero_add] at paid

/-- A run has at most as many steps as what has come in can cause. -/
theorem steps_bounded (ran : run (step d) {} es = some s) : es.length ≤ (es.map arrival).sum :=
  le_of_add_le_right (run_paid ran)

/-- One failure comes in, and is processed. -/
theorem steps_bounded_processed : ∃ s, run (step sampleDeployment) {} processedRun = some s ∧
    processedRun.length ≤ (processedRun.map arrival).sum := by
  obtain ⟨s, ran, _⟩ : ∃ s, run (step sampleDeployment) {} processedRun = some s ∧ s.queue = [] :=
    ⟨_, rfl, rfl⟩
  exact ⟨s, ran, steps_bounded ran⟩

/-! ## Regular steps -/

variable {pool : Set ℕ}

theorem regular_drops_nothing (regular : e.regular pool) : dropped s e = [] := by
  cases e with
  | request i moved =>
    cases moved with
    | push outcome =>
      cases outcome with
      | failedBefore => exact absurd rfl regular
      | delivered | failedAfter => rfl
    | noClient | abort => exact regular.elim
    | _ => rfl
  | worker w moved =>
    cases moved with
    | popLost | crash => exact regular.elim
    | _ => rfl

theorem regular_brings_nothing (regular : e.regular pool) : arrival e = 0 := by
  cases e with
  | request i moved =>
    cases moved with
    | receive | decide | simulate => exact regular.elim
    | _ => rfl
  | worker w moved => rfl

theorem none_lost_regular (kept : NoneLost s) (regular : ∀ e ∈ fs, e.regular pool)
    (ran : run (step d) s fs = some s') : NoneLost s' := by
  refine meets_invariant kept (fun _ _ _ held keeps stepped => none_lost_step held keeps stepped)
    (meets_mono (meets_of_events regular) fun s e planned caseId listed => ?_) ran
  rw [regular_drops_nothing planned] at listed
  cases listed

theorem regular_bounded (ran : run (step d) {} es = some s) (regular : ∀ e ∈ fs, e.regular pool)
    (later : run (step d) s fs = some s') : es.length + fs.length ≤ (es.map arrival).sum := by
  have whole : run (step d) {} (es ++ fs) = some s' := by rw [run_append, ran, Option.bind_some, later]
  have bounded := le_of_add_le_right (run_paid whole)
  have nothing : (fs.map arrival).sum = 0 := by
    refine List.sum_eq_zero fun cost listed => ?_
    obtain ⟨e, planned, rfl⟩ := List.mem_map.mp listed
    exact regular_brings_nothing (regular e planned)
  rw [List.length_append, List.map_append, List.sum_append, nothing] at bounded
  exact bounded

/-! ## The end of the schedule -/

/-- No step goes on by plan. -/
def Stuck (d : Deployment) (pool : Set ℕ) (s : System) : Prop := ∀ e, e.regular pool → step d s e = none

/-- What parties may draw, for the steps that are enabled whatever they draw. -/
def plainDraws : Draws :=
  { caseHex := "00000001"
    customerHex := "A1B2C3"
    now := 0
    outcome := .delivered
    pick := 0
    decision := sampleDecision .closed "stop"
    clock := sampleClock 0
    finish := sampleFinish 0 "action-1" }

theorem stuck_requests (pushing : ∀ i, Pushing (s.requests i)) (stuck : Stuck d pool s) (i : ℕ) :
    (s.requests i).running = false := by
  have known := pushing i
  cases phase : s.requests i with
  | idle | answered | failed => rfl
  | webhookMissed =>
    have blocked := stuck (.request i (.addRows "00000001" "A1B2C3" 0)) trivial
    simp [step, stepRequest, phase] at blocked
  | webhookAdded | batchAdded | deciding =>
    have blocked := stuck (.request i (.commit 0)) trivial
    simp [step, stepRequest, phase] at blocked
  | enqueueing caseIds attempt =>
    have blocked := stuck (.request i (.push .delivered)) PushOutcome.noConfusion
    rw [phase] at known
    obtain ⟨caseId, rest, rfl⟩ := List.exists_cons_of_ne_nil known.1
    simp [step, stepRequest, phase] at blocked

theorem next_regular (w : ℕ) (busy : s.workers w ≠ .idle) (draws : Draws) :
    ((s.workers w).next draws).regular pool w := by
  cases phase : s.workers w with
  | idle => exact absurd phase busy
  | _ => trivial

/-- A row that is locked is locked by a worker that can go on. -/
theorem stuck_unlocked (ran : run (step d) {} es = some s) (stuck : Stuck d pool s) : s.rowLocks = [] := by
  rw [List.eq_nil_iff_forall_not_mem]
  intro caseId locked
  obtain ⟨w, held⟩ := ((locks_exclusive ran).listed caseId).mp locked
  obtain ⟨s', enabled⟩ := locker_enabled (d := d) held plainDraws
  have busy : s.workers w ≠ .idle := by
    intro idle
    rw [lockedBy, idle] at held
    cases held
  have blocked := stuck (.worker w ((s.workers w).next plainDraws)) (next_regular w busy plainDraws)
  rw [enabled] at blocked
  cases blocked

theorem stuck_workers (ran : run (step d) {} es = some s) (stuck : Stuck d pool s) (w : ℕ) :
    s.workers w = .idle := by
  by_contra busy
  have unlocked := stuck_unlocked ran stuck
  have blocked := stuck (.worker w ((s.workers w).next plainDraws)) (next_regular w busy plainDraws)
  cases phase : s.workers w with
  | idle => exact busy phase
  | _ => simp [step, stepWorker, phase, WorkerPhase.next, unlocked] at blocked

theorem stuck_settled (ran : run (step d) {} es = some s) (workers : pool.Nonempty)
    (stuck : Stuck d pool s) : Settled s where
  queue := by
    obtain ⟨w, inPool⟩ := workers
    have blocked := stuck (.worker w .pop) inPool
    simpa [step, stepWorker, stuck_workers ran stuck w] using blocked
  requests := stuck_requests (pushing_invariant ran) stuck
  workers := stuck_workers ran stuck
  rowLocks := stuck_unlocked ran stuck

theorem settled_processed (settled : Settled s) (kept : NoneLost s) :
    ∀ case ∈ s.db.recoveryCases, case.status ≠ .detected := by
  intro case stored untouched
  cases kept case.caseId ⟨case, stored, rfl, untouched⟩ with
  | queued listed =>
    rw [settled.queue] at listed
    cases listed
  | @enqueueing i _ _ phase =>
    have rests := settled.requests i
    rw [phase] at rests
    cases rests
  | @worked w working =>
    rw [settled.workers w] at working
    cases working

/-- With a worker at hand the service can work off what it has, and every way of doing so leaves
nothing to do and no case that is still to be processed. -/
theorem backlog_cleared (ran : run (step d) {} es = some s) (kept : NoneLost s) (workers : pool.Nonempty) :
    (∃ fs s', (∀ e ∈ fs, e.regular pool) ∧ run (step d) s fs = some s' ∧ Stuck d pool s') ∧
      ∀ fs s', (∀ e ∈ fs, e.regular pool) → run (step d) s fs = some s' →
        es.length + fs.length ≤ (es.map arrival).sum ∧
          (Stuck d pool s' → Settled s' ∧ ∀ case ∈ s'.db.recoveryCases, case.status ≠ .detected) := by
  constructor
  · have bounded : ∀ fs s', (∀ e ∈ fs, e.regular pool) → run (step d) s fs = some s' →
        fs.length ≤ (es.map arrival).sum := fun fs s' regular later =>
      (Nat.le_add_left ..).trans (regular_bounded ran regular later)
    exact exists_stuck bounded
  · intro fs s' regular later
    refine ⟨regular_bounded ran regular later, fun stuck => ?_⟩
    have whole : run (step d) {} (es ++ fs) = some s' := by rw [run_append, ran, Option.bind_some, later]
    have settled := stuck_settled whole workers stuck
    exact ⟨settled, settled_processed settled (none_lost_regular kept regular later)⟩

/-- After the commit of an accepted failure the service can work it off. -/
theorem backlog_cleared_accepted : ∃ s fs s', run (step sampleDeployment) {} (processedRun.take 3) = some s ∧
    s.db.recoveryCases.map (·.status) = [.detected] ∧ run (step sampleDeployment) s fs = some s' ∧
      Settled s' ∧ ∀ case ∈ s'.db.recoveryCases, case.status ≠ .detected := by
  obtain ⟨s, ran, detected, requests⟩ : ∃ s, run (step sampleDeployment) {} (processedRun.take 3) = some s ∧
      s.db.recoveryCases.map (·.status) = [.detected] ∧
        s.requests 0 = .enqueueing (s.db.recoveryCases.map (·.caseId)) 0 := ⟨_, rfl, rfl, rfl⟩
  have kept : NoneLost s := by
    rintro caseId ⟨case, stored, rfl, _⟩
    exact .enqueueing requests (List.mem_map_of_mem stored)
  obtain ⟨⟨fs, s', regular, later, stuck⟩, ends⟩ :=
    backlog_cleared ran kept (Set.singleton_nonempty 0)
  obtain ⟨settled, processed⟩ := (ends fs s' regular later).2 stuck
  exact ⟨s, fs, s', ran, detected, later, settled, processed⟩

end RevenueGuard.ProgressProofs
