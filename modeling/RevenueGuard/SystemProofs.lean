import RevenueGuard.Library.Runs
import RevenueGuard.System
import RevenueGuard.GraphProofs
import RevenueGuard.WorkerProofs

/-!
What the steps of the system can do.  `step_cases` lists them once; the proofs
about runs go by its cases and never unfold a step.

`step_commit` sums up the commits, for the lemmas that are about tables only, and
`graph_runs_recorded` ties the two parts of a graph run, between which other parties
may move, to one run of the graph.
-/

namespace RevenueGuard.SystemProofs

open Library Library.Runs Library.Raises GraphProofs WorkerProofs

variable {d : Deployment} {s s' t : System} {e : Event} {es : List Event} {i j w v : ℕ}

/-! ## Fields -/

section Fields

variable (s) (phase : RequestPhase) (worker : WorkerPhase)

@[simp] theorem set_request_db : (s.setRequest i phase).db = s.db := rfl
@[simp] theorem set_request_queue : (s.setRequest i phase).queue = s.queue := rfl
@[simp] theorem set_request_row_locks : (s.setRequest i phase).rowLocks = s.rowLocks := rfl
@[simp] theorem set_request_workers : (s.setRequest i phase).workers = s.workers := rfl
@[simp] theorem set_request_steps : (s.setRequest i phase).steps = s.steps := rfl
@[simp] theorem set_request_runs : (s.setRequest i phase).runs = s.runs := rfl
@[simp] theorem set_request_requests :
    (s.setRequest i phase).requests = Function.update s.requests i phase := rfl

@[simp] theorem set_worker_db : (s.setWorker w worker).db = s.db := rfl
@[simp] theorem set_worker_queue : (s.setWorker w worker).queue = s.queue := rfl
@[simp] theorem set_worker_row_locks : (s.setWorker w worker).rowLocks = s.rowLocks := rfl
@[simp] theorem set_worker_requests : (s.setWorker w worker).requests = s.requests := rfl
@[simp] theorem set_worker_steps : (s.setWorker w worker).steps = s.steps := rfl
@[simp] theorem set_worker_runs : (s.setWorker w worker).runs = s.runs := rfl
@[simp] theorem set_worker_workers :
    (s.setWorker w worker).workers = Function.update s.workers w worker := rfl

@[simp] theorem release_db : (s.release w worker).db = s.db := rfl
@[simp] theorem release_queue : (s.release w worker).queue = s.queue := rfl
@[simp] theorem release_requests : (s.release w worker).requests = s.requests := rfl
@[simp] theorem release_steps : (s.release w worker).steps = s.steps := rfl
@[simp] theorem release_runs : (s.release w worker).runs = s.runs := rfl
@[simp] theorem release_workers :
    (s.release w worker).workers = Function.update s.workers w worker := rfl

@[simp] theorem tick_db : s.tick.db = s.db := rfl
@[simp] theorem tick_queue : s.tick.queue = s.queue := rfl
@[simp] theorem tick_row_locks : s.tick.rowLocks = s.rowLocks := rfl
@[simp] theorem tick_requests : s.tick.requests = s.requests := rfl
@[simp] theorem tick_workers : s.tick.workers = s.workers := rfl
@[simp] theorem tick_steps : s.tick.steps = s.steps + 1 := rfl
@[simp] theorem tick_runs : s.tick.runs = s.runs := rfl

end Fields

/-! ## The steps of a request -/

/-- The commit a request is about to make: what it writes, and the cases that it
pushes afterwards. -/
inductive Commit (s : System) (now : ℤ) : RequestPhase → Except String Database → List String → Prop where
  | webhook (record : WebhookEvent) (case : Option RecoveryCase) :
      Commit s now (.webhookAdded record case) (commitWebhook record case s.db)
        (case.map (·.caseId)).toList
  | batch (cases : List RecoveryCase) :
      Commit s now (.batchAdded cases) (commitBatch cases s.db) (cases.map (·.caseId))
  | verdict (verdict : Verdict) (loaded : RecoveryApproval) :
      Commit s now (.deciding verdict loaded) (.ok (commitVerdict verdict now loaded s.db))
        (if verdict = .reject then [] else [loaded.caseId])

inductive RequestStep (d : Deployment) (s : System) (i : ℕ) : RequestEvent → System → Prop where
  | receive {delivery : Delivery} : s.requests i = .idle →
      RequestStep d s i (.receive delivery) (s.setRequest i
        (afterLookup (lookupWebhook d.database d.settings.razorpayWebhookSecret delivery s.db)))
  | simulate {now : ℤ} {events : List (String × SimulatedEvent)} : s.requests i = .idle →
      RequestStep d s i (.simulate now events) (s.setRequest i (afterBatch (batchRows i now events)))
  | decide {verdict : Verdict} {now : ℤ} {approvalId : String} : s.requests i = .idle →
      RequestStep d s i (.decide verdict now approvalId)
        (s.setRequest i (afterAccept verdict (acceptVerdict verdict now approvalId s.db)))
  | addRows {eventId : String} {event : Dict} {caseHex customerHex : String} {now : ℤ} :
      s.requests i = .webhookMissed eventId event →
      RequestStep d s i (.addRows caseHex customerHex now) (s.setRequest i
        (afterRows (webhookRows d.database i caseHex customerHex now eventId event)))
  | committed {now : ℤ} {caseIds : List String} {db : Database} :
      Commit s now (s.requests i) (.ok db) caseIds →
      RequestStep d s i (.commit now) ({ s with db }.setRequest i (enqueueing caseIds))
  | refused {now : ℤ} {caseIds : List String} {exc : String} :
      Commit s now (s.requests i) (.error exc) caseIds →
      RequestStep d s i (.commit now) (s.setRequest i (.failed exc))
  | push {caseId : String} {rest : List String} {attempt : ℕ} {outcome : PushOutcome} :
      s.requests i = .enqueueing (caseId :: rest) attempt →
      RequestStep d s i (.push outcome)
        ({ s with queue := pushed caseId s.queue outcome }.setRequest i
          (afterPush caseId rest attempt outcome))
  | noClient {caseIds : List String} {attempt : ℕ} : s.requests i = .enqueueing caseIds attempt →
      RequestStep d s i .noClient (s.setRequest i .answered)
  | abort {exc : String} : (s.requests i).running →
      RequestStep d s i (.abort exc) (s.setRequest i (.failed exc))

private theorem commit_request_step {now : ℤ} {caseIds : List String} {outcome : Except String Database}
    (commit : Commit s now (s.requests i) outcome caseIds) :
    RequestStep d s i (.commit now) (s.commitRequest i caseIds outcome) := by
  cases outcome with
  | error exc => exact .refused commit
  | ok db => exact .committed commit

theorem step_request_cases {e : RequestEvent} (stepped : stepRequest d s i e = some t) :
    RequestStep d s i e t := by
  unfold stepRequest at stepped
  split at stepped <;> rename_i phase
  · cases stepped
    exact .receive phase
  · cases stepped
    exact .simulate phase
  · cases stepped
    exact .decide phase
  · cases stepped
    exact .addRows phase
  · cases stepped
    exact commit_request_step (phase ▸ .webhook _ _)
  · cases stepped
    exact commit_request_step (phase ▸ .batch _)
  · cases stepped
    exact commit_request_step (phase ▸ .verdict _ _)
  · cases stepped
    exact .push phase
  · cases stepped
    exact .noClient phase
  · split at stepped
    · rename_i running
      cases stepped
      exact .abort running
    · cases stepped
  · cases stepped

/-! ## The steps of a worker -/

inductive WorkerStep (d : Deployment) (s : System) (w : ℕ) : WorkerEvent → System → Prop where
  | pop {caseId : String} : s.workers w = .idle → s.queue.getLast? = some caseId →
      WorkerStep d s w .pop ({ s with queue := s.queue.dropLast }.setWorker w (.popped caseId))
  | popLost {caseId : String} : s.workers w = .idle → s.queue.getLast? = some caseId →
      WorkerStep d s w .popLost { s with queue := s.queue.dropLast }
  | missing {caseId : String} : s.workers w = .popped caseId →
      Keyed.find (·.caseId) caseId s.db.recoveryCases = none →
      WorkerStep d s w .load (s.setWorker w .idle)
  | load {caseId : String} {case : RecoveryCase} : s.workers w = .popped caseId →
      Keyed.find (·.caseId) caseId s.db.recoveryCases = some case →
      WorkerStep d s w .load (s.setWorker w (.loaded case))
  | gate {case : RecoveryCase} {pick : ℕ} : s.workers w = .loaded case → case.caseId ∉ s.rowLocks →
      WorkerStep d s w (.gate pick)
        ({ s with rowLocks := case.caseId :: s.rowLocks }.setWorker w
          (.gated { case, approval := activeApproval pick s.db case.caseId, loadedAt := s.steps }))
  | decide {rows : LoadedRows} {decision : DecisionInputs} {clock : PolicyClock} {built : RecoveryState}
      {state : RecoveryState} :
      s.workers w = .gated rows → buildState rows.case rows.approval = .ok built →
      decideGraph d decision clock built = .ok state →
      WorkerStep d s w (.decide decision clock) (s.setWorker w (.decided rows decision clock state))
  | decideFails {rows : LoadedRows} {decision : DecisionInputs} {clock : PolicyClock} {exc : String} :
      s.workers w = .gated rows →
      buildState rows.case rows.approval >>= decideGraph d decision clock = .error exc →
      WorkerStep d s w (.decide decision clock) (s.release w (.failed rows.case.caseId))
  | finish {rows : LoadedRows} {decision : DecisionInputs} {clock : PolicyClock} {state : RecoveryState}
      {finish : FinishInputs} {result : RecoveryState} :
      s.workers w = .decided rows decision clock state →
      (finishGraph d finish state).2 = .ok result →
      WorkerStep d s w (.finish finish)
        ({ s with runs := s.runs ++ [(⟨rows, decision, clock, finish⟩ : GraphRun)] }.setWorker w
          (.finished rows result))
  | finishFails {rows : LoadedRows} {decision : DecisionInputs} {clock : PolicyClock}
      {state : RecoveryState} {finish : FinishInputs} {exc : String} :
      s.workers w = .decided rows decision clock state →
      (finishGraph d finish state).2 = .error exc →
      WorkerStep d s w (.finish finish)
        ({ s with runs := s.runs ++ [(⟨rows, decision, clock, finish⟩ : GraphRun)] }.release w
          (.failed rows.case.caseId))
  | persist {rows : LoadedRows} {result : RecoveryState} {now : ℤ} {db : Database} :
      s.workers w = .finished rows result → persistResult d.database now rows.case result s.db = .ok db →
      WorkerStep d s w (.persist now) ({ s with db }.release w .idle)
  | persistFails {rows : LoadedRows} {result : RecoveryState} {now : ℤ} {exc : String} :
      s.workers w = .finished rows result →
      persistResult d.database now rows.case result s.db = .error exc →
      WorkerStep d s w (.persist now) (s.release w (.failed rows.case.caseId))
  | raise {caseId : String} : (s.workers w).caseId = some caseId →
      (∀ popped, s.workers w ≠ .popped popped) → (∀ failed, s.workers w ≠ .failed failed) →
      WorkerStep d s w .raise (s.release w (.failed caseId))
  | recordFailure {caseId : String} {now : ℤ} : s.workers w = .failed caseId → caseId ∉ s.rowLocks →
      WorkerStep d s w (.recordFailure now)
        ({ s with db := RevenueGuard.recordFailure now caseId s.db }.setWorker w .idle)
  | crash {caseId : String} : (s.workers w).caseId = some caseId →
      WorkerStep d s w .crash (s.release w .idle)

theorem step_worker_cases {e : WorkerEvent} (stepped : stepWorker d s w e = some t) :
    WorkerStep d s w e t := by
  unfold stepWorker at stepped
  split at stepped <;> rename_i phase
  · obtain ⟨caseId, last, rfl⟩ := Option.map_eq_some_iff.mp stepped
    exact .pop phase last
  · obtain ⟨caseId, last, rfl⟩ := Option.map_eq_some_iff.mp stepped
    exact .popLost phase last
  · cases stepped
    split
    · rename_i absent
      exact .missing phase absent
    · rename_i found
      exact .load phase found
  · split at stepped
    · cases stepped
    · rename_i free
      cases stepped
      exact .gate phase free
  · cases stepped
    unfold System.decideRun
    split
    · rename_i failed
      exact .decideFails phase failed
    · rename_i decided
      obtain ⟨built, ranBuild, ranDecide⟩ := bind_ok.mp decided
      exact .decide phase ranBuild ranDecide
  · cases stepped
    simp only [System.finishRun]
    split
    · rename_i failed
      exact .finishFails phase failed
    · rename_i finished
      exact .finish phase finished
  · cases stepped
    unfold System.persistRun
    split
    · rename_i failed
      exact .persistFails phase failed
    · rename_i committed
      exact .persist phase committed
  · cases stepped
    exact .raise (by rw [phase]; rfl) (by simp [phase]) (by simp [phase])
  · cases stepped
    exact .raise (by rw [phase]; rfl) (by simp [phase]) (by simp [phase])
  · cases stepped
    exact .raise (by rw [phase]; rfl) (by simp [phase]) (by simp [phase])
  · cases stepped
    exact .raise (by rw [phase]; rfl) (by simp [phase]) (by simp [phase])
  · split at stepped
    · cases stepped
    · rename_i free
      cases stepped
      exact .recordFailure phase free
  · split at stepped
    · rename_i working
      cases stepped
      obtain ⟨caseId, working⟩ := Option.isSome_iff_exists.mp working
      exact .crash working
    · cases stepped
  · cases stepped

/-! ## The steps of the system -/

inductive SystemStep (d : Deployment) (s : System) : Event → System → Prop where
  | request {i : ℕ} {e : RequestEvent} {t : System} : RequestStep d s i e t →
      SystemStep d s (.request i e) t.tick
  | worker {w : ℕ} {e : WorkerEvent} {t : System} : WorkerStep d s w e t →
      SystemStep d s (.worker w e) t.tick

theorem step_cases (stepped : step d s e = some s') : SystemStep d s e s' := by
  cases e with
  | request i e =>
    obtain ⟨t, moved, rfl⟩ := Option.map_eq_some_iff.mp stepped
    exact .request (step_request_cases moved)
  | worker w e =>
    obtain ⟨t, moved, rfl⟩ := Option.map_eq_some_iff.mp stepped
    exact .worker (step_worker_cases moved)

/-- The transactions that a step commits, if any. -/
inductive DbStep (d : Deployment) (s : System) : Database → Prop where
  | unchanged : DbStep d s s.db
  | webhook {i : ℕ} {record : WebhookEvent} {case : Option RecoveryCase} {db : Database} :
      s.requests i = .webhookAdded record case → commitWebhook record case s.db = .ok db → DbStep d s db
  | batch {i : ℕ} {cases : List RecoveryCase} {db : Database} :
      s.requests i = .batchAdded cases → commitBatch cases s.db = .ok db → DbStep d s db
  | verdict {i : ℕ} {verdict : Verdict} {loaded : RecoveryApproval} {now : ℤ} :
      s.requests i = .deciding verdict loaded → DbStep d s (commitVerdict verdict now loaded s.db)
  | persist {w : ℕ} {rows : LoadedRows} {result : RecoveryState} {now : ℤ} {db : Database} :
      s.workers w = .finished rows result → persistResult d.database now rows.case result s.db = .ok db →
      DbStep d s db
  | recordFailure {w : ℕ} {caseId : String} {now : ℤ} : s.workers w = .failed caseId →
      DbStep d s (recordFailure now caseId s.db)

/-- What a step commits, if anything, by the party that takes it. -/
inductive CommitStep (d : Deployment) (s : System) : Event → System → Prop where
  | nothing {e : Event} {s' : System} : s'.db = s.db → CommitStep d s e s'
  | webhook {i : ℕ} {now : ℤ} {record : WebhookEvent} {case : Option RecoveryCase} {s' : System} :
      s.requests i = .webhookAdded record case → commitWebhook record case s.db = .ok s'.db →
      s'.requests i = enqueueing (case.map (·.caseId)).toList → CommitStep d s (.request i (.commit now)) s'
  | batch {i : ℕ} {now : ℤ} {cases : List RecoveryCase} {s' : System} : s.requests i = .batchAdded cases →
      commitBatch cases s.db = .ok s'.db → CommitStep d s (.request i (.commit now)) s'
  | verdict {i : ℕ} {now : ℤ} {verdict : Verdict} {loaded : RecoveryApproval} {s' : System} :
      s.requests i = .deciding verdict loaded → s'.db = commitVerdict verdict now loaded s.db →
      s'.workers = s.workers → CommitStep d s (.request i (.commit now)) s'
  | persist {w : ℕ} {now : ℤ} {rows : LoadedRows} {result : RecoveryState} {s' : System} :
      s.workers w = .finished rows result → persistResult d.database now rows.case result s.db = .ok s'.db →
      s'.workers = Function.update s.workers w .idle → CommitStep d s (.worker w (.persist now)) s'
  | recordFailure {w : ℕ} {now : ℤ} {caseId : String} {s' : System} : s.workers w = .failed caseId →
      s'.db = recordFailure now caseId s.db → CommitStep d s (.worker w (.recordFailure now)) s'

theorem step_commit (stepped : step d s e = some s') : CommitStep d s e s' := by
  cases step_cases stepped with
  | request moved =>
    cases moved with
    | committed commit =>
      generalize phase : s.requests _ = phase, committed : Except.ok _ = outcome at commit
      cases commit with
      | webhook => exact .webhook phase committed.symm (by simp)
      | batch => exact .batch phase committed.symm
      | verdict =>
        cases committed
        exact .verdict phase rfl rfl
    | _ => exact .nothing rfl
  | worker moved =>
    cases moved with
    | persist finished committed => exact .persist finished committed rfl
    | recordFailure failed => exact .recordFailure failed rfl
    | _ => exact .nothing rfl

/-- A step commits at most one transaction. -/
theorem step_db (stepped : step d s e = some s') : DbStep d s s'.db := by
  cases step_commit stepped with
  | nothing same =>
    rw [same]
    exact .unchanged
  | webhook phase committed => exact .webhook phase committed
  | batch phase committed => exact .batch phase committed
  | verdict phase same =>
    rw [same]
    exact .verdict phase
  | persist finished committed => exact .persist finished committed
  | recordFailure failed same =>
    rw [same]
    exact .recordFailure failed

theorem step_steps (stepped : step d s e = some s') : s'.steps = s.steps + 1 := by
  cases step_cases stepped with
  | request moved => cases moved <;> rfl
  | worker moved => cases moved <;> rfl

theorem run_steps (ran : run (step d) s es = some s') : s'.steps = s.steps + es.length :=
  run_history (P := fun es s' => s'.steps = s.steps + es.length) rfl
    (fun _ _ _ _ _ counted stepped => by
      rw [step_steps stepped, counted, List.length_append]
      rfl) ran

/-- A step of somebody else leaves a request where it was. -/
theorem requests_other (stepped : step d s e = some s') (other : ∀ moved, e ≠ .request j moved) :
    s'.requests j = s.requests j := by
  cases step_cases stepped with
  | worker moved => cases moved <;> rfl
  | @request i _ _ moved =>
    have apart : j ≠ i := by
      rintro rfl
      exact other _ rfl
    cases moved <;> simp [Function.update_of_ne apart]

theorem run_requests_other (ran : run (step d) s es = some s')
    (others : ∀ e ∈ es, ∀ moved, e ≠ .request j moved) : s'.requests j = s.requests j := by
  induction es generalizing s with
  | nil =>
    cases ran
    rfl
  | cons e es ih =>
    obtain ⟨next, stepped, ran⟩ := Option.bind_eq_some_iff.mp ran
    have later := ih ran fun e listed => others e (List.mem_cons_of_mem _ listed)
    exact later.trans (requests_other stepped (others e List.mem_cons_self))

/-- A step of somebody else leaves a worker where it was. -/
theorem workers_other (stepped : step d s e = some s') (other : ∀ moved, e ≠ .worker v moved) :
    s'.workers v = s.workers v := by
  cases step_cases stepped with
  | request moved => cases moved <;> rfl
  | @worker w _ _ moved =>
    have apart : v ≠ w := by
      rintro rfl
      exact other _ rfl
    cases moved with
    | popLost => rfl
    | _ => simp [Function.update_of_ne apart]

/-! ## What an approval endpoint has read -/

/-- An approval endpoint decides about a row that it has read. -/
theorem deciding_step {verdict : Verdict} {loaded : RecoveryApproval} (stepped : step d s e = some s')
    (deciding : s'.requests j = .deciding verdict loaded) :
    s.requests j = .deciding verdict loaded ∨
      (getApproval loaded.approvalId s.db = some loaded ∧ s'.db = s.db) := by
  cases step_cases stepped with
  | worker moved => cases moved <;> exact .inl deciding
  | @request i _ _ moved =>
    by_cases same : j = i
    · subst same
      right
      cases moved with
      | decide =>
        refine ⟨?_, rfl⟩
        simp only [tick_requests, set_request_requests, Function.update_self, afterAccept] at deciding
        split at deciding
        · cases deciding
        · rename_i accepted
          cases deciding
          exact accept_verdict_read accepted
      | receive =>
        simp only [tick_requests, set_request_requests, Function.update_self, afterLookup] at deciding
        split at deciding <;> cases deciding
      | simulate =>
        simp only [tick_requests, set_request_requests, Function.update_self, afterBatch] at deciding
        split at deciding <;> cases deciding
      | addRows =>
        simp only [tick_requests, set_request_requests, Function.update_self, afterRows] at deciding
        split at deciding <;> cases deciding
      | committed =>
        simp only [tick_requests, set_request_requests, Function.update_self, enqueueing] at deciding
        split at deciding <;> cases deciding
      | push =>
        simp only [tick_requests, set_request_requests, Function.update_self, afterPush, enqueueing] at deciding
        split at deciding
        · split at deciding <;> cases deciding
        · cases deciding
      | _ => simp at deciding
    · left
      cases moved <;> simpa [Function.update_of_ne same] using deciding

/-! ## What a worker has read -/

/-- The case row that a worker has loaded. -/
def workedCase : WorkerPhase → Option RecoveryCase
  | .loaded case => some case
  | .gated rows => some rows.case
  | .decided rows _ _ _ => some rows.case
  | .finished rows _ => some rows.case
  | _ => none

/-- A worker gets its case row from the table. -/
theorem worked_case_step {case : RecoveryCase} (stepped : step d s e = some s')
    (worked : workedCase (s'.workers v) = some case) :
    workedCase (s.workers v) = some case ∨ case ∈ s.db.recoveryCases := by
  cases step_cases stepped with
  | request moved => cases moved <;> exact .inl worked
  | @worker w _ _ moved =>
    by_cases same : v = w
    · subst same
      cases moved with
      | popLost => exact .inl worked
      | load _ found =>
        simp only [tick_workers, set_worker_workers, Function.update_self, workedCase,
          Option.some.injEq] at worked
        exact .inr (worked ▸ Keyed.find_mem found)
      | gate phase =>
        simp only [tick_workers, set_worker_workers, Function.update_self] at worked
        exact .inl (by rw [phase]; exact worked)
      | decide phase =>
        simp only [tick_workers, set_worker_workers, Function.update_self] at worked
        exact .inl (by rw [phase]; exact worked)
      | finish phase =>
        simp only [tick_workers, set_worker_workers, Function.update_self] at worked
        exact .inl (by rw [phase]; exact worked)
      | _ => simp [workedCase] at worked
    · left
      cases moved with
      | popLost => exact worked
      | _ => simpa [Function.update_of_ne same] using worked

/-! ## What a graph run has read -/

/-- The rows that a worker's graph run works on. -/
def rowsOf : WorkerPhase → Option LoadedRows
  | .gated rows => some rows
  | .decided rows _ _ _ => some rows
  | .finished rows _ => some rows
  | _ => none

/-- Rows that some graph run works on or worked on. -/
def RowsIn (s : System) (rows : LoadedRows) : Prop :=
  (∃ w, rowsOf (s.workers w) = some rows) ∨ ∃ x ∈ s.runs, x.rows = rows

private theorem rows_in_update {runs : List GraphRun} {rows : LoadedRows} {phase : WorkerPhase}
    (held : (∃ v, rowsOf (Function.update s.workers w phase v) = some rows) ∨ ∃ x ∈ runs, x.rows = rows)
    (fresh : rowsOf phase = some rows → RowsIn s rows) (known : ∀ x ∈ runs, RowsIn s x.rows) :
    RowsIn s rows := by
  rcases held with ⟨v, held⟩ | ⟨x, recorded, rfl⟩
  · rcases (Function.exists_update_iff _ fun _ phase => rowsOf phase = some rows).mp ⟨v, held⟩ with
      held | ⟨v, _, held⟩
    · exact fresh held
    · exact .inl ⟨v, held⟩
  · exact known x recorded

private theorem rows_in_recorded {rows : LoadedRows} {decision : DecisionInputs} {clock : PolicyClock}
    {state : RecoveryState} {finish : FinishInputs} {x : GraphRun}
    (phase : s.workers w = .decided rows decision clock state)
    (recorded : x ∈ s.runs ++ [(⟨rows, decision, clock, finish⟩ : GraphRun)]) : RowsIn s x.rows := by
  rcases List.mem_append.mp recorded with earlier | latest
  · exact .inr ⟨x, earlier, rfl⟩
  · cases List.mem_singleton.mp latest
    exact .inl ⟨w, by rw [phase]; rfl⟩

/-- Rows come into a graph run only where a worker reads the approval. -/
theorem rows_in_step {rows : LoadedRows} (stepped : step d s e = some s') (held : RowsIn s' rows) :
    RowsIn s rows ∨ ∃ w case pick, s.workers w = .loaded case ∧
      rows = { case, approval := activeApproval pick s.db case.caseId, loadedAt := s.steps } := by
  have recorded : ∀ x ∈ s.runs, RowsIn s x.rows := fun x member => .inr ⟨x, member, rfl⟩
  cases step_cases stepped with
  | request moved => cases moved <;> exact .inl held
  | @worker w _ _ moved =>
    cases moved with
    | popLost => exact .inl held
    | @gate case pick phase free =>
      by_cases same : rows = { case, approval := activeApproval pick s.db case.caseId, loadedAt := s.steps }
      · exact .inr ⟨w, case, pick, phase, same⟩
      · exact .inl (rows_in_update held (fun fresh => absurd (Option.some.inj fresh).symm same) recorded)
    | decide phase =>
      exact .inl (rows_in_update held (fun fresh => .inl ⟨w, by rw [phase]; exact fresh⟩) recorded)
    | finish phase =>
      exact .inl (rows_in_update held (fun fresh => .inl ⟨w, by rw [phase]; exact fresh⟩)
        fun _ => rows_in_recorded phase)
    | finishFails phase =>
      exact .inl (rows_in_update held (fun fresh => by simp [rowsOf] at fresh)
        fun _ => rows_in_recorded phase)
    | _ => exact .inl (rows_in_update held (fun fresh => by simp [rowsOf] at fresh) recorded)

/-- The rows of a graph run were read in the state that the run's first events
reached, by a worker that had loaded their case. -/
theorem rows_loaded_at {rows : LoadedRows} (ran : run (step d) {} es = some s) (held : RowsIn s rows) :
    rows.loadedAt < es.length ∧ ∃ before w pick, run (step d) {} (es.take rows.loadedAt) = some before ∧
      before.workers w = .loaded rows.case ∧
      rows.approval = activeApproval pick before.db rows.case.caseId := by
  refine run_history (P := fun es s => ∀ rows, RowsIn s rows → rows.loadedAt < es.length ∧
    ∃ before w pick, run (step d) {} (es.take rows.loadedAt) = some before ∧
      before.workers w = .loaded rows.case ∧
      rows.approval = activeApproval pick before.db rows.case.caseId) ?_ ?_ ran rows held
  · rintro rows (⟨_, held⟩ | ⟨_, recorded, _⟩)
    · simp [rowsOf] at held
    · cases recorded
  · intro es s e s' ranBefore known stepped rows held
    rcases rows_in_step stepped held with earlier | ⟨w, case, pick, phase, rfl⟩
    · obtain ⟨within, before, w, pick, ranRead, phase, read⟩ := known rows earlier
      refine ⟨by simp only [List.length_append]; omega, before, w, pick, ?_, phase, read⟩
      rw [List.take_append_of_le_length within.le]
      exact ranRead
    · have counted := run_steps ranBefore
      simp only [zero_add] at counted
      refine ⟨by simp [counted], s, w, pick, ?_, phase, rfl⟩
      rw [counted, List.take_left]
      exact ranBefore

/-- The approval of a graph run is what `_active_approval` found in the state
that the run's first events reached. -/
def ReadAt (d : Deployment) (init : System) (es : List Event) (rows : LoadedRows) : Prop :=
  rows.loadedAt < es.length ∧ ∃ before pick, run (step d) init (es.take rows.loadedAt) = some before ∧
    rows.approval = activeApproval pick before.db rows.case.caseId

theorem rows_read_at {rows : LoadedRows} (ran : run (step d) {} es = some s) (held : RowsIn s rows) :
    ReadAt d {} es rows := by
  obtain ⟨within, before, _, pick, ranRead, _, read⟩ := rows_loaded_at ran held
  exact ⟨within, before, pick, ranRead, read⟩

/-- No graph run works on an approval that was not granted. -/
theorem loaded_approved {rows : LoadedRows} (ran : run (step d) {} es = some s) (held : RowsIn s rows) :
    ∀ row, rows.approval = some row → row.status = .approved := by
  intro row loaded
  obtain ⟨_, before, pick, _, read⟩ := rows_read_at ran held
  exact (active_approval_some (read.symm.trans loaded)).2.2.1

/-- A step records a graph run exactly if it finishes one. -/
theorem runs_step (stepped : step d s e = some s') :
    (s'.runs = s.runs ∧ ∀ w finish, e ≠ .worker w (.finish finish)) ∨
      ∃ w rows decision clock state finish, e = .worker w (.finish finish) ∧
        s.workers w = .decided rows decision clock state ∧
        s'.runs = s.runs ++ [(⟨rows, decision, clock, finish⟩ : GraphRun)] := by
  cases step_cases stepped with
  | request moved => cases moved <;> exact .inl ⟨rfl, fun _ _ => nofun⟩
  | worker moved =>
    cases moved with
    | finish phase => exact .inr ⟨_, _, _, _, _, _, rfl, phase, rfl⟩
    | finishFails phase => exact .inr ⟨_, _, _, _, _, _, rfl, phase, rfl⟩
    | _ => exact .inl ⟨rfl, fun _ _ => nofun⟩

/-! ## The two parts of a graph run -/

/-- A worker between the two parts holds what the first part of its run made. -/
def DecidedBy (d : Deployment) (rows : LoadedRows) (decision : DecisionInputs) (clock : PolicyClock)
    (state : RecoveryState) : Prop :=
  ∃ built, buildState rows.case rows.approval = .ok built ∧ decideGraph d decision clock built = .ok state

/-- The second part, whenever it is taken, completes one run of the graph. -/
theorem decided_outcome {rows : LoadedRows} {decision : DecisionInputs} {clock : PolicyClock}
    {state : RecoveryState} (decided : DecidedBy d rows decision clock state) (finish : FinishInputs) :
    (⟨rows, decision, clock, finish⟩ : GraphRun).outcome d = finishGraph d finish state := by
  obtain ⟨built, ranBuild, ranDecide⟩ := decided
  simp only [GraphRun.outcome, graphRun, ranBuild, runGraph, ranDecide]

/-- A worker holds what the parts of its graph run made, and a finished run is
recorded. -/
def PhaseRecorded (d : Deployment) (runs : List GraphRun) : WorkerPhase → Prop
  | .decided rows decision clock state => DecidedBy d rows decision clock state
  | .finished rows result => ∃ x ∈ runs, x.rows = rows ∧ (x.outcome d).2 = .ok result
  | _ => True

def RunsRecorded (d : Deployment) (s : System) : Prop := ∀ w, PhaseRecorded d s.runs (s.workers w)

theorem phase_recorded_mono {runs later : List GraphRun} {phase : WorkerPhase}
    (recorded : PhaseRecorded d runs phase) (kept : ∀ x ∈ runs, x ∈ later) :
    PhaseRecorded d later phase := by
  cases phase with
  | finished rows result =>
    obtain ⟨x, member, shape⟩ := recorded
    exact ⟨x, kept x member, shape⟩
  | _ => exact recorded

private theorem runs_recorded_update {phase : WorkerPhase} (recorded : RunsRecorded d s)
    (workers : t.workers = Function.update s.workers w phase) (kept : ∀ x ∈ s.runs, x ∈ t.runs)
    (fresh : PhaseRecorded d t.runs phase) : RunsRecorded d t := by
  rw [RunsRecorded, workers, Function.forall_update_iff _ fun _ => PhaseRecorded d t.runs]
  exact ⟨fresh, fun v _ => phase_recorded_mono (recorded v) kept⟩

theorem runs_recorded_step (recorded : RunsRecorded d s) (stepped : step d s e = some s') :
    RunsRecorded d s' := by
  cases step_cases stepped with
  | request moved => cases moved <;> exact recorded
  | @worker w _ _ moved =>
    cases moved with
    | popLost => exact recorded
    | decide _ built decided =>
      exact runs_recorded_update recorded rfl (fun _ member => member) ⟨_, built, decided⟩
    | finish phase finished =>
      refine runs_recorded_update recorded rfl (fun _ member => List.mem_append_left _ member)
        ⟨_, List.mem_append_right _ (List.mem_singleton_self _), rfl, ?_⟩
      have decided := recorded w
      rw [phase] at decided
      rw [decided_outcome decided]
      exact finished
    | finishFails =>
      exact runs_recorded_update recorded rfl (fun _ member => List.mem_append_left _ member) trivial
    | _ => exact runs_recorded_update recorded rfl (fun _ member => member) trivial

theorem runs_recorded (ran : run (step d) {} es = some s) : RunsRecorded d s := by
  have start : RunsRecorded d {} := fun _ => trivial
  exact run_invariant (fun _ _ _ recorded stepped => runs_recorded_step recorded stepped) start ran

/-! ## Sample events

Pieces of runs on fixed inputs, for the later modules: the sample case comes in
by a webhook, a worker takes it through one run, an approver decides. -/

def sampleBody (amountPaise : ℤ) : Json :=
  .obj
    [("event", .str "payment.failed"), ("event_id", .str "evt_1"),
     ("payload", .obj [("payment", .obj [("entity", .obj
       [("id", .str "pay_1"), ("amount", .int amountPaise), ("error_source", .str "bank"),
        ("error_reason", .str "insufficient_funds"), ("contact", .str "+919900000000"),
        ("email", .str "payer@example.com")])])])]

def sampleDelivery (amountPaise : ℤ) : Delivery :=
  { signature := ""
    signatureValid := false
    body := .ok (some (sampleBody amountPaise))
    eventIdHeader := none
    uuid := "00000000-0000-4000-8000-000000000000" }

/-- A webhook request up to its commit. -/
def sampleIntake (i : ℕ) (caseHex : String) (amountPaise : ℤ) : List Event :=
  [.request i (.receive (sampleDelivery amountPaise)),
   .request i (.addRows caseHex "A1B2C3" 1788500000000000), .request i (.commit 1788500000000000)]

/-- An undisturbed delivery to a worker. -/
def sampleProcess (w : ℕ) (actionType : String) (now : ℤ) (actionId : String) : List Event :=
  [.worker w .pop, .worker w .load, .worker w (.gate 0),
   .worker w (.decide (sampleDecision .closed actionType) (sampleClock now)),
   .worker w (.finish (sampleFinish now actionId)), .worker w (.persist now)]

/-- A verdict on the sample request for approval. -/
def sampleVerdict (i : ℕ) (verdict : Verdict) (now : ℤ) : List Event :=
  [.request i (.decide verdict now "APR-000000000001"), .request i (.commit now)]

end RevenueGuard.SystemProofs
