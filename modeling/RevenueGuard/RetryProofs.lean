import RevenueGuard.DeliveryProofs
import RevenueGuard.TableProofs

/-!
The retry counter of a case over whole runs of the service.

1. **What is counted.**  `retry_columns_step` says of any step that it writes
   the retry columns of a case only where it commits a run whose last strategy
   is `SMART_RETRY`.
2. **What is executed.**  `retries_accounted` matches the counter with the
   executed retries, in runs in which no retry waits for an approver and no
   commit rests on a row that another worker has counted a retry on since.
3. **The cap.**  `retries_capped` bounds the stored retries by the counter and
   the counter by the settings, for a single worker.
-/

namespace RevenueGuard.RetryProofs

open Library Library.Runs Library.Raises GraphProofs WorkerProofs SystemProofs TableProofs ProposalProofs
  DeliveryProofs

variable {d : Deployment} {s s' t : System} {e : Event} {es : List Event} {i w v : ℕ} {caseId : String}
  {case : RecoveryCase} {db : Database}

/-! ## Cases that nobody has retried -/

/-- A case as the intake inserts it. -/
def Untried (case : RecoveryCase) : Prop := case.retryCount = 0 ∧ case.lastRetryAt = none

/-- The cases that a request is about to insert were never retried. -/
def StagedUntried : RequestPhase → Prop
  | .webhookAdded _ case => ∀ new ∈ case, Untried new
  | .batchAdded cases => ∀ new ∈ cases, Untried new
  | _ => True

theorem intake_untried (made : intakePart case = case) : Untried case := by
  rw [← made]
  exact ⟨rfl, rfl⟩

theorem staged_untried (ran : run (step d) {} es = some s) (i : ℕ) : StagedUntried (s.requests i) := by
  have staged := staged_intake ran i
  cases phase : s.requests i with
  | webhookAdded record added =>
    rw [phase] at staged
    exact fun new listed => intake_untried (staged new listed)
  | batchAdded cases =>
    rw [phase] at staged
    exact fun new listed => intake_untried (staged new listed)
  | _ => trivial

/-! ## The retry columns -/

/-- `retry_count` and `last_retry_at` of a case; those that it will come with
where it is not stored yet. -/
def retryColumns (caseId : String) (rows : List RecoveryCase) : ℤ × Option ℤ :=
  match Keyed.find (·.caseId) caseId rows with
  | none => (0, none)
  | some case => (case.retryCount, case.lastRetryAt)

theorem retry_columns_stored {rows : List RecoveryCase} (unique : (rows.map (·.caseId)).Nodup)
    (stored : case ∈ rows) : retryColumns case.caseId rows = (case.retryCount, case.lastRetryAt) := by
  rw [retryColumns, Keyed.find_of_mem unique stored]

theorem retry_columns_append {rows added : List RecoveryCase} (untried : ∀ new ∈ added, Untried new) :
    retryColumns caseId (rows ++ added) = retryColumns caseId rows := by
  simp only [retryColumns, Keyed.find_append]
  cases known : Keyed.find (·.caseId) caseId rows with
  | some case => rfl
  | none =>
    cases new : Keyed.find (·.caseId) caseId added with
    | none => rfl
    | some case =>
      obtain ⟨count, last⟩ := untried case (Keyed.find_mem new)
      simp only [Option.none_or, count, last]

theorem retry_columns_kept {rows : List RecoveryCase} {other : String} {f : RecoveryCase → RecoveryCase}
    (ids : ∀ case, (f case).caseId = case.caseId)
    (kept : other = caseId → ∀ case, ((f case).retryCount, (f case).lastRetryAt) =
      (case.retryCount, case.lastRetryAt)) :
    retryColumns caseId (Keyed.modify (·.caseId) other f rows) = retryColumns caseId rows := by
  simp only [retryColumns]
  by_cases same : other = caseId
  · rw [same, Keyed.find_modify_self ids]
    cases Keyed.find (·.caseId) caseId rows with
    | none => rfl
    | some case => exact kept same case
  · rw [Keyed.find_modify_other ids (Ne.symm same)]

/-- What a step writes to the retry columns of a case, if it does: it commits a
run of the case whose last strategy is `SMART_RETRY`. -/
def retryWrite (d : Deployment) (caseId : String) (s : System) : Event → Option (ℤ × Option ℤ)
  | .worker w (.persist now) =>
    match s.workers w with
    | .finished rows result =>
      if rows.case.caseId = caseId ∧ (persistResult d.database now rows.case result s.db).isOk ∧
          result.action = some .smartRetry then
        some (rows.case.retryCount + 1, some now)
      else none
    | _ => none
  | _ => none

/-- The commit of a run writes the retry columns of its case if the run ended on
`SMART_RETRY`, and no others. -/
theorem retry_columns_update (caseId : String) {rows : List RecoveryCase} {loaded : RecoveryCase}
    (result : RecoveryState) (now : ℤ) (stored : ∃ case ∈ rows, case.caseId = loaded.caseId) :
    retryColumns caseId (Keyed.modify (·.caseId) loaded.caseId (updateCase now loaded result) rows) =
      if loaded.caseId = caseId ∧ result.action = some .smartRetry then (loaded.retryCount + 1, some now)
      else retryColumns caseId rows := by
  split
  · rename_i writes
    obtain ⟨rfl, retried⟩ := writes
    obtain ⟨case, member, ofCase⟩ := stored
    rw [retryColumns, find_update]
    cases found : Keyed.find (·.caseId) loaded.caseId rows with
    | none => exact absurd ofCase (Keyed.find_none.mp found case member)
    | some case => simp only [Option.map_some, updateCase, retried, ↓reduceIte]
  · rename_i spares
    refine retry_columns_kept (fun _ => rfl) fun same case => ?_
    have other : result.action ≠ some .smartRetry := fun retried => spares ⟨same, retried⟩
    simp only [updateCase, other, ↓reduceIte]

theorem retry_columns_step (ran : run (step d) {} es = some s) (stepped : step d s e = some s') :
    retryColumns caseId s'.db.recoveryCases =
      (retryWrite d caseId s e).getD (retryColumns caseId s.db.recoveryCases) := by
  have staged := staged_untried ran
  cases step_cases stepped with
  | @request i _ _ moved =>
    cases moved with
    | committed commit =>
      have untried := staged i
      generalize phase : s.requests i = before, committed : Except.ok _ = outcome at commit untried
      cases commit with
      | webhook record added =>
        obtain ⟨_, _, rfl⟩ := commit_webhook_ok committed.symm
        exact retry_columns_append fun new listed => untried new (Option.mem_toList.mp listed)
      | batch cases =>
        obtain ⟨_, rfl⟩ := commit_batch_ok committed.symm
        exact retry_columns_append untried
      | verdict =>
        cases committed
        rfl
    | _ => rfl
  | @worker w _ _ moved =>
    cases moved with
    | @persist rows result now db phase committed =>
      have stored := worked_stored ran w rows.case (by rw [phase]; rfl)
      have written := retry_columns_update caseId result now stored
      rw [← (persist_result_ok committed).recoveryCases] at written
      simp only [tick_db, release_db, written, retryWrite, phase, committed, Except.isOk, Except.toBool,
        true_and]
      split <;> rfl
    | persistFails phase refused =>
      simp [retryWrite, phase, refused, Except.isOk, Except.toBool]
    | recordFailure => exact retry_columns_kept (fun _ => rfl) fun _ _ => rfl
    | _ => rfl

/-! ## The executed retries -/

/-- Whether a run executed a `SMART_RETRY`. -/
def executedRetry (result : RecoveryState) : Bool :=
  result.actions.any fun action => action.actionType = .smartRetry

/-- Whether a step commits a run of the case that executed a `SMART_RETRY`. -/
def commitsRetry (d : Deployment) (caseId : String) (s : System) : Event → Bool
  | .worker w (.persist now) =>
    match s.workers w with
    | .finished rows result =>
      rows.case.caseId = caseId && (persistResult d.database now rows.case result s.db).isOk &&
        executedRetry result
    | _ => false
  | _ => false

/-- The instant of the commit of a run. -/
def commitTime : Event → Option ℤ
  | .worker _ (.persist now) => some now
  | _ => none

/-- The counter and the stamp of every case go with the executed retries: at each
step of the run, and in the state it reaches. -/
structure RetriesAccounted (d : Deployment) (es : List Event) (s : System) : Prop where
  steps : ∀ fs e gs before after, es = fs ++ e :: gs → run (step d) {} fs = some before →
    step d before e = some after →
    ∀ case ∈ before.db.recoveryCases, ∀ kept ∈ after.db.recoveryCases, kept.caseId = case.caseId →
      (kept.retryCount, kept.lastRetryAt) =
        if commitsRetry d case.caseId before e then (case.retryCount + 1, commitTime e)
        else (case.retryCount, case.lastRetryAt)
  counted : ∀ case ∈ s.db.recoveryCases,
    case.retryCount = count (step d) (commitsRetry d case.caseId) {} es

/-- No check sends a `SMART_RETRY` to an approver, and no run that executed one
commits over a counter that has moved since the run's case was loaded. -/
def keepsAccount (d : Deployment) (s : System) : Event → Bool
  | .worker w (.decide decision clock) =>
    match s.workers w with
    | .gated rows =>
      (proposeFor d decision rows.case rows.approval).toOption.all fun proposed =>
        !(proposed.action = some .smartRetry && (PolicyEngine.checkAll d.settings clock proposed).1 &&
          PolicyEngine.needsApproval d.settings clock.approval proposed)
    | _ => true
  | .worker w (.persist _) =>
    match s.workers w with
    | .finished rows result =>
      !executedRetry result ||
        (retryColumns rows.case.caseId s.db.recoveryCases).1 = rows.case.retryCount
    | _ => true
  | _ => true

/-- A worker's run ends on `SMART_RETRY` exactly if it executes one. -/
def PhaseAccounted : WorkerPhase → Prop
  | .decided _ _ _ state =>
    state.actions = [] ∧ (routePolicy state = .approval → state.action ≠ some .smartRetry)
  | .finished _ result => executedRetry result = true ↔ result.action = some .smartRetry
  | _ => True

def Accounted (s : System) : Prop := ∀ w, PhaseAccounted (s.workers w)

/-- What a check that keeps the account leaves. -/
theorem decide_accounted {rows : LoadedRows} {decision : DecisionInputs} {clock : PolicyClock}
    {built state : RecoveryState} (phase : s.workers w = .gated rows)
    (ranBuild : buildState rows.case rows.approval = .ok built)
    (ranDecide : decideGraph d decision clock built = .ok state)
    (keeps : keepsAccount d s (.worker w (.decide decision clock)) = true) :
    PhaseAccounted (.decided rows decision clock state) := by
  obtain ⟨proposed, ranPropose, rfl⟩ := bind_pure_ok.mp ranDecide
  refine ⟨(policy_check_actions ..).trans (rebuilt_from ranBuild ranPropose).actions, fun route retry => ?_⟩
  rcases policy_check_node_cases d.settings clock proposed with ⟨_, stopped, _⟩ | ⟨allowed, _⟩
  · cases stopped.symm.trans retry
  · obtain ⟨same, needs⟩ := policy_check_allowed allowed
    have needed : PolicyEngine.needsApproval d.settings clock.approval proposed = true :=
      needs.symm.trans (route_approval.mp route)
    have proposedFor : proposeFor d decision rows.case rows.approval = .ok proposed :=
      bind_ok.mpr ⟨built, ranBuild, ranPropose⟩
    rw [same.action_eq] at retry
    simp [keepsAccount, phase, proposedFor, Except.toOption, retry, check_all_allowed.mpr allowed,
      needed] at keeps

/-- The part of a run that acts executes a `SMART_RETRY` exactly if it is sent to
execute one. -/
theorem executed_retry_iff {checked result : RecoveryState} {finish : FinishInputs}
    (fresh : checked.actions = []) (finished : Finished d finish checked result) :
    executedRetry result = true ↔ routePolicy checked = .execute ∧ checked.action = some .smartRetry := by
  cases finished with
  | pending route => simp [executedRetry, logAudit, fresh, route]
  | stopped route => simp [executedRetry, logAudit, fresh, route]
  | @executed action _ route _ made =>
    obtain ⟨_, actionType, examined, _⟩ := route_execute.mp route
    have acted : action.actionType = actionType := by
      rw [made.actionType, examined]
      rfl
    simp [executedRetry, logAudit, fresh, route, acted, examined]

theorem finish_accounted {rows : LoadedRows} {checked result : RecoveryState} {finish : FinishInputs}
    (fresh : checked.actions = [])
    (unasked : routePolicy checked = .approval → checked.action ≠ some .smartRetry)
    (finished : Finished d finish checked result) : PhaseAccounted (.finished rows result) := by
  rw [PhaseAccounted, executed_retry_iff fresh finished, finished_action finished]
  refine ⟨fun executed => executed.2, fun retry => ⟨?_, retry⟩⟩
  cases route : routePolicy checked with
  | execute => rfl
  | approval => exact absurd retry (unasked route)
  | stop =>
    simp only [routePolicy, retry, Option.getD_some, reduceCtorEq, ↓reduceIte] at route
    split at route <;> cases route

private theorem accounted_update {phase : WorkerPhase} (accounted : Accounted s)
    (workers : t.workers = Function.update s.workers w phase) (fresh : PhaseAccounted phase) :
    Accounted t := by
  rw [Accounted, workers, Function.forall_update_iff _ fun _ => PhaseAccounted]
  exact ⟨fresh, fun v _ => accounted v⟩

theorem accounted_step (accounted : Accounted s) (keeps : keepsAccount d s e = true)
    (stepped : step d s e = some s') : Accounted s' := by
  cases step_cases stepped with
  | request moved => cases moved <;> exact accounted
  | @worker w _ _ moved =>
    cases moved with
    | popLost => exact accounted
    | decide phase built decided =>
      exact accounted_update accounted rfl (decide_accounted phase built decided keeps)
    | finish phase finished =>
      have decided := accounted w
      rw [phase] at decided
      exact accounted_update accounted rfl
        (finish_accounted decided.1 decided.2 (finish_graph_ok finished))
    | _ => exact accounted_update accounted rfl trivial

/-- Where the account is kept, a step writes the retry columns of a case exactly
if it commits an executed retry, and then it counts one more. -/
theorem retry_write_counts (accounted : Accounted s) (keeps : keepsAccount d s e = true) :
    retryWrite d caseId s e =
      if commitsRetry d caseId s e then
        some ((retryColumns caseId s.db.recoveryCases).1 + 1, commitTime e)
      else none := by
  unfold retryWrite commitsRetry
  split
  · rename_i w now
    have executes := accounted w
    obtain ⟨phase, held⟩ : ∃ phase, s.workers w = phase := ⟨_, rfl⟩
    rw [held] at executes
    cases phase with
    | finished rows result =>
      simp only [keepsAccount, held, Bool.or_eq_true, Bool.not_eq_true', decide_eq_true_eq] at keeps
      simp only [held]
      cases executed : executedRetry result with
      | false =>
        have other : result.action ≠ some .smartRetry := by
          intro retry
          cases executed.symm.trans (executes.mpr retry)
        simp [other]
      | true =>
        have retry := executes.mp executed
        have current : (retryColumns rows.case.caseId s.db.recoveryCases).1 = rows.case.retryCount :=
          keeps.resolve_left (by simp [executed])
        by_cases ofCase : rows.case.caseId = caseId
        · subst ofCase
          simp [retry, current, commitTime]
        · simp [ofCase]
    | _ => simp [held]
  · simp

/-- The counter is the number of executed retries. -/
theorem retries_counted (met : Meets (step d) (fun s e => keepsAccount d s e = true) {} es)
    (ran : run (step d) {} es = some s) :
    Accounted s ∧ ∀ caseId, (retryColumns caseId s.db.recoveryCases).1 =
      count (step d) (commitsRetry d caseId) {} es := by
  refine meets_history (P := fun es s => Accounted s ∧ ∀ caseId,
    (retryColumns caseId s.db.recoveryCases).1 = count (step d) (commitsRetry d caseId) {} es)
    ⟨fun _ => by trivial, fun _ => rfl⟩ ?_ met ran
  rintro es s e s' ranBefore ⟨accounted, counted⟩ keeps stepped
  refine ⟨accounted_step accounted keeps stepped, fun caseId => ?_⟩
  rw [retry_columns_step ranBefore stepped, retry_write_counts accounted keeps, count_snoc ranBefore]
  cases commits : commitsRetry d caseId s e with
  | false => simpa using counted caseId
  | true => simp [counted caseId]

/-- In runs that keep the account, the retry columns of every case go with the
retries it executed. -/
theorem retries_accounted (met : Meets (step d) (fun s e => keepsAccount d s e = true) {} es)
    (ran : run (step d) {} es = some s) : RetriesAccounted d es s where
  steps := by
    rintro fs e gs before after rfl ranBefore stepped case stored kept storedKept same
    have ranAfter : run (step d) {} (fs ++ [e]) = some after := run_snoc_iff.mpr ⟨before, ranBefore, stepped⟩
    have accounted := (retries_counted (meets_earlier met) ranBefore).1
    have keeps := met fs e gs rfl before ranBefore
    rw [← retry_columns_stored (case_ids_unique ranAfter) storedKept, same,
      retry_columns_step ranBefore stepped, retry_write_counts accounted keeps,
      retry_columns_stored (case_ids_unique ranBefore) stored]
    split <;> rfl
  counted := by
    intro case stored
    rw [← (retries_counted met ran).2, retry_columns_stored (case_ids_unique ran) stored]

/-- A control case of this amount comes in and a worker takes it through one run. -/
def oneRetry (amountPaise : ℤ) : List Event :=
  sampleIntake 0 "00000001" amountPaise ++ [.request 0 (.push .delivered)] ++
    sampleProcess 0 "nudge_email" 1788501600000000 "action-1"

theorem retries_accounted_once : ∃ s, run (step sampleDeployment) {} (oneRetry 250000) = some s ∧
    count (step sampleDeployment) (commitsRetry sampleDeployment "REC-00000001") {} (oneRetry 250000) = 1 ∧
    RetriesAccounted sampleDeployment (oneRetry 250000) s := by
  obtain ⟨s, ran⟩ : ∃ s, run (step sampleDeployment) {} (oneRetry 250000) = some s := ⟨_, rfl⟩
  exact ⟨s, ran, by decide, retries_accounted (meets_of_checks (by decide)) ran⟩

/-- The retry of a high-value case is counted while it waits for its approval. -/
theorem waiting_retry_counted : ¬ ∀ es s, run (step sampleDeployment) {} es = some s →
    RetriesAccounted sampleDeployment es s := by
  intro accounted
  obtain ⟨s, ran, counts⟩ : ∃ s, run (step sampleDeployment) {} (oneRetry 6000000) = some s ∧
      s.db.recoveryCases.map (fun case => (case.caseId, case.retryCount)) = [("REC-00000001", 1)] :=
    ⟨_, rfl, rfl⟩
  obtain ⟨case, stored, same⟩ :
      ∃ case ∈ s.db.recoveryCases, (case.caseId, case.retryCount) = ("REC-00000001", 1) :=
    List.mem_map.mp (by rw [counts]; exact List.mem_singleton_self _)
  obtain ⟨ofCase, counted⟩ := Prod.mk.inj same
  have executed := (accounted _ s ran).counted case stored
  have none : count (step sampleDeployment) (commitsRetry sampleDeployment "REC-00000001") {}
      (oneRetry 6000000) = 0 := by decide
  rw [ofCase, counted, none] at executed
  cases executed

/-! ## A single worker -/

/-- Whether an event is one of this worker or of a request. -/
def byWorker (w : ℕ) : Event → Bool
  | .request _ _ => true
  | .worker v _ => v = w

/-- Only the single worker ever does anything. -/
theorem others_idle (single : es.all (byWorker w) = true) (ran : run (step d) {} es = some s)
    (other : v ≠ w) : s.workers v = .idle := by
  refine run_history (P := fun es s => es.all (byWorker w) = true → s.workers v = .idle)
    (fun _ => rfl) ?_ ran single
  intro es s e s' _ idle stepped single
  rw [List.all_append, Bool.and_eq_true] at single
  rw [← idle single.1]
  apply workers_other stepped
  rintro moved rfl
  exact other (by simpa [byWorker] using single.2)

theorem retry_write_some {columns : ℤ × Option ℤ} (writes : retryWrite d caseId s e = some columns) :
    ∃ v rows result now, e = .worker v (.persist now) ∧ s.workers v = .finished rows result ∧
      rows.case.caseId = caseId ∧ (∃ db, persistResult d.database now rows.case result s.db = .ok db) ∧
      result.action = some .smartRetry ∧ columns = (rows.case.retryCount + 1, some now) := by
  unfold retryWrite at writes
  split at writes
  · split at writes
    · rename_i v now _ rows result phase
      split at writes
      · rename_i commits
        obtain ⟨ofCase, committed, retry⟩ := commits
        exact ⟨v, rows, result, now, rfl, phase, ofCase, is_ok_iff.mp committed, retry,
          (Option.some.inj writes).symm⟩
      · cases writes
    · cases writes
  · cases writes

/-- After the commit of its run a worker works on no case. -/
theorem committed_idle {now : ℤ} {rows : LoadedRows} {result : RecoveryState}
    (stepped : step d s (.worker w (.persist now)) = some s') (phase : s.workers w = .finished rows result)
    (commits : ∃ db, persistResult d.database now rows.case result s.db = .ok db) :
    s'.workers w = .idle := by
  obtain ⟨db, committed⟩ := commits
  cases step_cases stepped with
  | worker moved =>
    cases moved with
    | persist => simp
    | persistFails finished refused =>
      rw [phase] at finished
      cases finished
      cases committed.symm.trans refused

/-- What the worker has loaded of a case is what the table holds. -/
def LoadedCurrent (w : ℕ) (s : System) : Prop :=
  ∀ case, workedCase (s.workers w) = some case →
    retryColumns case.caseId s.db.recoveryCases = (case.retryCount, case.lastRetryAt)

/-- A single worker works on current rows: nobody else counts a retry. -/
theorem loaded_current (single : es.all (byWorker w) = true) (ran : run (step d) {} es = some s) :
    LoadedCurrent w s := by
  refine run_history (P := fun es s => es.all (byWorker w) = true → LoadedCurrent w s)
    (fun _ _ worked => by cases worked) ?_ ran single
  intro es s e s' ranBefore current stepped single case worked
  rw [List.all_append, Bool.and_eq_true] at single
  have known : retryColumns case.caseId s.db.recoveryCases = (case.retryCount, case.lastRetryAt) := by
    rcases worked_case_step stepped worked with earlier | read
    · exact current single.1 case earlier
    · exact retry_columns_stored (case_ids_unique ranBefore) read
  rw [retry_columns_step ranBefore stepped, known]
  cases writes : retryWrite d case.caseId s e with
  | none => rfl
  | some columns =>
    obtain ⟨v, rows, result, now, rfl, phase, _, commits, _⟩ := retry_write_some writes
    have same : v = w := by simpa [byWorker] using single.2
    subst same
    rw [committed_idle stepped phase commits] at worked
    cases worked

/-! ## The cap -/

/-- How many `SMART_RETRY` rows a case has. -/
def retryRows (caseId : String) (rows : List RecoveryAction) : ℕ :=
  rows.countP fun r => r.caseId = caseId && r.actionType = .smartRetry

/-- A run that ends on `SMART_RETRY` found the case below the limit. -/
theorem retried_below_limit {decision : DecisionInputs} {clock : PolicyClock} {finish : FinishInputs}
    {approval : Option RecoveryApproval} {result : RecoveryState}
    (ran : (graphRun d decision clock finish case approval).2 = .ok result)
    (retry : result.action = some .smartRetry) : case.retryCount < d.settings.maxRetryAttempts := by
  obtain ⟨built, proposed, ranBuild, ranPropose, finished⟩ := graph_run_ok ran
  rw [finished_action finished] at retry
  rcases policy_check_node_cases d.settings clock proposed with ⟨_, stopped, _⟩ | ⟨allowed, _⟩
  · cases stopped.symm.trans retry
  · rw [(policy_check_allowed allowed).1.action_eq] at retry
    by_contra reached
    rw [not_lt, ← (rebuilt_from ranBuild ranPropose).retryCount] at reached
    cases (allowed.retries reached).symm.trans retry

/-- A run that does not end on `SMART_RETRY` executes none. -/
theorem executed_retry_ends {decision : DecisionInputs} {clock : PolicyClock} {finish : FinishInputs}
    {approval : Option RecoveryApproval} {result : RecoveryState}
    (ran : (graphRun d decision clock finish case approval).2 = .ok result)
    (executed : executedRetry result = true) : result.action = some .smartRetry := by
  obtain ⟨built, proposed, ranBuild, ranPropose, finished⟩ := graph_run_ok ran
  have fresh : (policyCheckNode d.settings clock proposed).actions = [] :=
    (policy_check_actions ..).trans (rebuilt_from ranBuild ranPropose).actions
  rw [finished_action finished]
  exact ((executed_retry_iff fresh finished).mp executed).2

/-- The inserts of a run add at most its own retries, and to its own case. -/
theorem retry_rows_insert (caseId : String) {loadedId : String} {rows rows' actions : List RecoveryAction}
    (inserted : insertActions loadedId rows actions = .ok rows') :
    retryRows caseId rows' ≤ retryRows caseId rows +
      if loadedId = caseId then actions.countP fun action => action.actionType = .smartRetry else 0 := by
  induction actions generalizing rows with
  | nil =>
    cases inserted
    exact Nat.le_add_right _ _
  | cons action rest ih =>
    simp only [insertActions] at inserted
    split at inserted
    · have later := ih inserted
      rw [List.countP_cons]
      by_cases ofCase : loadedId = caseId
      · simp only [ofCase, ↓reduceIte] at later ⊢
        omega
      · simpa only [ofCase, ↓reduceIte] using later
    · split at inserted
      · cases inserted
      · have later := ih inserted
        rw [List.countP_cons]
        simp only [retryRows, List.countP_append, List.countP_singleton] at later ⊢
        by_cases ofCase : loadedId = caseId
        · simp only [ofCase, decide_true, Bool.true_and, ↓reduceIte] at later ⊢
          omega
        · simpa only [ofCase, decide_false, Bool.false_and, Bool.false_eq_true, ↓reduceIte, add_zero] using later

/-- A step inserts at most one `SMART_RETRY` row of a case, and only where it counts
a retry of the case. -/
theorem retry_rows_step (caseId : String) (ran : run (step d) {} es = some s) (stepped : step d s e = some s') :
    retryRows caseId s'.db.recoveryActions ≤
      retryRows caseId s.db.recoveryActions + (retryWrite d caseId s e).isSome.toNat := by
  rcases recovery_actions_step stepped with same | ⟨w, rows, result, now, rfl, phase, committed⟩
  · rw [same]
    exact Nat.le_add_right _ _
  · have recorded := runs_recorded ran w
    rw [phase] at recorded
    obtain ⟨x, _, rfl, finished⟩ := recorded
    have inserted := retry_rows_insert caseId (persist_result_ok committed).recoveryActions
    refine inserted.trans (Nat.add_le_add_left ?_ _)
    by_cases ofCase : x.rows.case.caseId = caseId
    · rw [if_pos ofCase]
      rcases (graph_run_audited finished).2 with nothing | ⟨action, one⟩
      · rw [nothing]
        exact Nat.zero_le _
      · rw [one, List.countP_singleton]
        split
        · rename_i retry
          have executed : executedRetry result = true := by simpa [executedRetry, one] using retry
          have ended := executed_retry_ends finished executed
          simp [retryWrite, phase, ofCase, committed, ended, Except.isOk, Except.toBool]
        · exact Nat.zero_le _
    · rw [if_neg ofCase]
      exact Nat.zero_le _

/-- With a single worker a counted retry is one more than the table shows, and
within the limit. -/
theorem retry_write_capped (single : (es ++ [e]).all (byWorker w) = true)
    (ran : run (step d) {} es = some s) {columns : ℤ × Option ℤ}
    (writes : retryWrite d caseId s e = some columns) :
    columns.1 = (retryColumns caseId s.db.recoveryCases).1 + 1 ∧
      columns.1 ≤ d.settings.maxRetryAttempts := by
  rw [List.all_append, Bool.and_eq_true] at single
  obtain ⟨v, rows, result, now, rfl, phase, rfl, _, retry, rfl⟩ := retry_write_some writes
  have same : v = w := by simpa [byWorker] using single.2
  subst same
  have current := loaded_current single.1 ran rows.case (by rw [phase]; rfl)
  have recorded := runs_recorded ran v
  rw [phase] at recorded
  obtain ⟨x, _, rfl, finished⟩ := recorded
  have below := retried_below_limit finished retry
  rw [current]
  exact ⟨rfl, below⟩

/-- With a single worker no case has more `SMART_RETRY` rows than its counter says,
and the counter stays within the limit, as far as that is not negative. -/
theorem retries_capped (single : es.all (byWorker w) = true) (ran : run (step d) {} es = some s) :
    ∀ case ∈ s.db.recoveryCases, (retryRows case.caseId s.db.recoveryActions : ℤ) ≤ case.retryCount ∧
      case.retryCount ≤ max d.settings.maxRetryAttempts 0 := by
  suffices capped : ∀ caseId, (retryRows caseId s.db.recoveryActions : ℤ) ≤
      (retryColumns caseId s.db.recoveryCases).1 ∧
        (retryColumns caseId s.db.recoveryCases).1 ≤ max d.settings.maxRetryAttempts 0 by
    intro case stored
    have counted := capped case.caseId
    rwa [retry_columns_stored (case_ids_unique ran) stored] at counted
  refine run_history (P := fun es s => es.all (byWorker w) = true → ∀ caseId,
    (retryRows caseId s.db.recoveryActions : ℤ) ≤ (retryColumns caseId s.db.recoveryCases).1 ∧
      (retryColumns caseId s.db.recoveryCases).1 ≤ max d.settings.maxRetryAttempts 0)
    (fun _ _ => ⟨le_refl _, le_max_right _ _⟩) ?_ ran single
  intro es s e s' ranBefore capped stepped single caseId
  obtain ⟨stored, limited⟩ :=
    capped (by rw [List.all_append, Bool.and_eq_true] at single; exact single.1) caseId
  have inserted := retry_rows_step caseId ranBefore stepped
  rw [retry_columns_step ranBefore stepped]
  cases writes : retryWrite d caseId s e with
  | none =>
    simp only [writes, Option.isSome_none, Bool.toNat_false, add_zero] at inserted
    exact ⟨le_trans (Int.ofNat_le.mpr inserted) stored, limited⟩
  | some columns =>
    obtain ⟨next, below⟩ := retry_write_capped single ranBefore writes
    simp only [writes, Option.isSome_some, Bool.toNat_true] at inserted
    rw [Option.getD_some]
    exact ⟨by omega, le_max_of_le_left below⟩

theorem retries_capped_once : ∃ s, run (step sampleDeployment) {} (oneRetry 250000) = some s ∧
    s.db.recoveryCases.length = 1 ∧ ∀ case ∈ s.db.recoveryCases,
      (retryRows case.caseId s.db.recoveryActions : ℤ) ≤ case.retryCount ∧ case.retryCount ≤ max 3 0 := by
  obtain ⟨s, ran, one⟩ : ∃ s, run (step sampleDeployment) {} (oneRetry 250000) = some s ∧
      s.db.recoveryCases.length = 1 := ⟨_, rfl, rfl⟩
  have single : (oneRetry 250000).all (byWorker 0) = true := by decide
  exact ⟨s, ran, one, retries_capped single ran⟩

/-- A limit below zero leaves the counter of a new case above it. -/
theorem negative_limit_exceeded : ¬ ∀ (d : Deployment) w es s, es.all (byWorker w) = true →
    run (step d) {} es = some s → ∀ case ∈ s.db.recoveryCases,
      (retryRows case.caseId s.db.recoveryActions : ℤ) ≤ case.retryCount ∧
        case.retryCount ≤ d.settings.maxRetryAttempts := by
  intro capped
  have exceeded := capped { sampleDeployment with settings := { maxRetryAttempts := -1 } } 0
    (sampleIntake 0 "00000001" 250000) _ (by decide) rfl _ (List.mem_singleton_self _)
  exact absurd exceeded.2 (by decide)

end RevenueGuard.RetryProofs
