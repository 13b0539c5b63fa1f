import RevenueGuard.RetryProofs

/-!
The cooldown over whole runs of a single worker, on a clock that does not run
backwards.  `RetryStamped` ties `last_retry_at` to the stored retries, and
`cooldown_after_retry` says what the check makes of it: an executed contact or
retry keeps its distance from every retry that the case had on record.
-/

namespace RevenueGuard.CooldownProofs

open Library Library.Runs Library.Raises GraphProofs WorkerProofs SystemProofs TableProofs RetryProofs

variable {d : Deployment} {s s' t : System} {e : Event} {es : List Event} {w v : ℕ} {caseId : String}

/-! ## The clock -/

/-- The readings that a request takes of the clock. -/
def requestReadings : RequestEvent → List ℤ
  | .addRows _ _ now => [now]
  | .simulate now _ => [now]
  | .decide _ now _ => [now]
  | .commit now => [now]
  | _ => []

/-- The readings that a worker takes of the clock, in their order. -/
def workerReadings : WorkerEvent → List ℤ
  | .decide _ clock => [clock.cooldown, clock.quietHours, clock.approval]
  | .finish inputs =>
    [inputs.requestedAt, inputs.execution.clock.approval, inputs.execution.clock.execute,
     inputs.execution.clock.timestamp]
  | .persist now => [now]
  | .recordFailure now => [now]
  | _ => []

def readings : Event → List ℤ
  | .request _ e => requestReadings e
  | .worker _ e => workerReadings e

/-- The clock does not run backwards. -/
def ClockForward (es : List Event) : Prop := (es.flatMap readings).Pairwise (· ≤ ·)

theorem clock_forward_snoc : ClockForward (es ++ [e]) ↔ ClockForward es ∧ (readings e).Pairwise (· ≤ ·) ∧
    ∀ earlier ∈ es.flatMap readings, ∀ now ∈ readings e, earlier ≤ now := by
  simp [ClockForward, List.flatMap_append, List.pairwise_append]

/-! ## The timestamp of an action -/

theorem execute_action_stamp {cfg : Settings} {execution : ExecutionInputs} {checked result : RecoveryState}
    (ran : (executeAction cfg execution checked).2 = .ok result) :
    ∀ action ∈ result.actions, action ∈ checked.actions ∨ action.timestamp = execution.clock.timestamp := by
  unfold executeAction at ran
  split at ran
  · cases ran
  · simp only [bind_ok, pure_ok] at ran
    obtain ⟨_, _, rfl⟩ := ran
    intro action listed
    rcases List.mem_append.mp listed with earlier | made
    · exact .inl earlier
    · exact .inr (by rw [List.mem_singleton.mp made])

/-- An executed action carries the reading of the clock that its execution took. -/
theorem executed_stamp {decision : DecisionInputs} {clock : PolicyClock} {finish : FinishInputs}
    {case : RecoveryCase} {approval : Option RecoveryApproval} {result : RecoveryState}
    {action : RecoveryAction}
    (ran : (graphRun d decision clock finish case approval).2 = .ok result)
    (executed : action ∈ result.actions) : action.timestamp = finish.execution.clock.timestamp := by
  obtain ⟨built, proposed, ranBuild, ranPropose, passed, _⟩ := executed_from ran executed
  obtain ⟨route, _⟩ := passed_iff.mpr ⟨_, passed⟩
  have fresh : (policyCheckNode d.settings clock proposed).actions = [] :=
    (policy_check_actions ..).trans (rebuilt_from ranBuild ranPropose).actions
  rw [graph_run_eq ranBuild ranPropose, finishGraph, route] at ran
  obtain ⟨acted, ranExecute, rfl⟩ := bind_pure_ok.mp ran
  rcases execute_action_stamp ranExecute action executed with earlier | stamped
  · rw [fresh] at earlier
    cases earlier
  · exact stamped

/-- Every row comes from the table or from the run. -/
theorem inserted_from {loadedId : String} {rows rows' actions : List RecoveryAction}
    (inserted : insertActions loadedId rows actions = .ok rows') :
    ∀ r ∈ rows', r ∈ rows ∨ ∃ action ∈ actions, r = { action with caseId := loadedId } := by
  induction actions generalizing rows with
  | nil =>
    cases inserted
    exact fun r stored => .inl stored
  | cons action rest ih =>
    intro r stored
    simp only [insertActions] at inserted
    split at inserted
    · rcases ih inserted r stored with earlier | ⟨made, listed, shape⟩
      · exact .inl earlier
      · exact .inr ⟨made, List.mem_cons_of_mem _ listed, shape⟩
    · split at inserted
      · cases inserted
      · rcases ih inserted r stored with earlier | ⟨made, listed, shape⟩
        · rcases List.mem_append.mp earlier with known | new
          · exact .inl known
          · exact .inr ⟨action, List.mem_cons_self, List.mem_singleton.mp new⟩
        · exact .inr ⟨made, List.mem_cons_of_mem _ listed, shape⟩

/-! ## What is on the clock -/

theorem decided_step {rows : LoadedRows} {decision : DecisionInputs} {clock : PolicyClock}
    {state : RecoveryState} (stepped : step d s e = some s')
    (phase : s'.workers v = .decided rows decision clock state) :
    s.workers v = .decided rows decision clock state ∨ e = .worker v (.decide decision clock) := by
  by_cases mine : ∃ moved, e = .worker v moved
  · obtain ⟨moved, rfl⟩ := mine
    cases step_cases stepped with
    | worker moved =>
      cases moved with
      | popLost => exact .inl phase
      | decide =>
        simp only [tick_workers, set_worker_workers, Function.update_self, WorkerPhase.decided.injEq] at phase
        obtain ⟨_, rfl, rfl, _⟩ := phase
        exact .inr rfl
      | _ => simp at phase
  · left
    rwa [workers_other stepped fun moved same => mine ⟨moved, same⟩] at phase

/-- The readings that the runs of a history rest on are on its clock, and a run
acts no earlier than it checks. -/
structure OnClock (es : List Event) (s : System) : Prop where
  decided : ∀ v rows decision clock state, s.workers v = .decided rows decision clock state →
    clock.cooldown ∈ es.flatMap readings
  stamped : ∀ x ∈ s.runs, x.finish.execution.clock.timestamp ∈ es.flatMap readings
  checked : ∀ x ∈ s.runs, x.clock.cooldown ≤ x.finish.execution.clock.timestamp

theorem on_clock (forward : ClockForward es) (ran : run (step d) {} es = some s) : OnClock es s := by
  refine run_history (P := fun es s => ClockForward es → OnClock es s) ?_ ?_ ran forward
  · intro _
    exact ⟨fun _ _ _ _ _ phase => (by cases phase), fun _ listed => (by cases listed),
      fun _ listed => (by cases listed)⟩
  · intro es s e s' _ known stepped forward
    obtain ⟨earlier, _, later⟩ := clock_forward_snoc.mp forward
    have known := known earlier
    have kept : ∀ now ∈ es.flatMap readings, now ∈ (es ++ [e]).flatMap readings := by
      intro now listed
      rw [List.flatMap_append]
      exact List.mem_append_left _ listed
    have taken : ∀ now ∈ readings e, now ∈ (es ++ [e]).flatMap readings := by
      intro now listed
      rw [List.flatMap_append]
      exact List.mem_append_right _ (by simpa using listed)
    have decided : ∀ v rows decision clock state, s'.workers v = .decided rows decision clock state →
        clock.cooldown ∈ (es ++ [e]).flatMap readings := by
      intro v rows decision clock state phase
      rcases decided_step stepped phase with before | rfl
      · exact kept _ (known.decided v rows decision clock state before)
      · exact taken _ List.mem_cons_self
    rcases runs_step stepped with ⟨same, _⟩ | ⟨v, rows, decision, clock, state, finish, rfl, phase, grown⟩
    · refine ⟨decided, ?_, ?_⟩
      · rw [same]
        exact fun x listed => kept _ (known.stamped x listed)
      · rw [same]
        exact known.checked
    · have now : finish.execution.clock.timestamp ∈ readings (.worker v (.finish finish)) := by
        simp [readings, workerReadings]
      refine ⟨decided, ?_, ?_⟩
      · rw [grown]
        intro x listed
        rcases List.mem_append.mp listed with before | new
        · exact kept _ (known.stamped x before)
        · rw [List.mem_singleton.mp new]
          exact taken _ now
      · rw [grown]
        intro x listed
        rcases List.mem_append.mp listed with before | new
        · exact known.checked x before
        · rw [List.mem_singleton.mp new]
          exact later _ (known.decided v rows decision clock state phase) _ now

/-! ## The stamp of a case -/

/-- A case with a stored retry has a `last_retry_at`, no earlier than that retry. -/
def RetryStamped (es : List Event) (db : Database) : Prop :=
  ∀ r ∈ db.recoveryActions, r.actionType = .smartRetry →
    ∃ last ∈ es.flatMap readings, (retryColumns r.caseId db.recoveryCases).2 = some last ∧ r.timestamp ≤ last

/-- An action row comes into the table with the commit of the run that executed
it. -/
theorem action_row_from {r : RecoveryAction} (stepped : step d s e = some s')
    (stored : r ∈ s'.db.recoveryActions) :
    r ∈ s.db.recoveryActions ∨ ∃ v rows result now action, e = .worker v (.persist now) ∧
      s.workers v = .finished rows result ∧
      persistResult d.database now rows.case result s.db = .ok s'.db ∧ action ∈ result.actions ∧
      r = { action with caseId := rows.case.caseId } := by
  rcases recovery_actions_step stepped with same | ⟨v, rows, result, now, rfl, phase, committed⟩
  · exact .inl (same ▸ stored)
  · rcases inserted_from (persist_result_ok committed).recoveryActions r stored with
      earlier | ⟨action, listed, shape⟩
    · exact .inl earlier
    · exact .inr ⟨v, rows, result, now, action, rfl, phase, committed, listed, shape⟩

theorem retry_stamped (forward : ClockForward es) (ran : run (step d) {} es = some s) :
    RetryStamped es s.db := by
  refine run_history (P := fun es s => ClockForward es → RetryStamped es s.db) ?_ ?_ ran forward
  · intro _ r stored
    cases stored
  · intro es s e s' ranBefore known stepped forward r stored retry
    obtain ⟨earlier, _, later⟩ := clock_forward_snoc.mp forward
    rw [retry_columns_step ranBefore stepped, List.flatMap_append]
    rcases action_row_from stepped stored with before | ⟨v, rows, result, now, action, rfl, phase, committed,
      executed, rfl⟩
    · obtain ⟨last, listed, stamp, bound⟩ := known earlier r before retry
      cases writes : retryWrite d r.caseId s e with
      | none => exact ⟨last, List.mem_append_left _ listed, stamp, bound⟩
      | some columns =>
        obtain ⟨v, rows, result, now, rfl, _, _, _, _, rfl⟩ := retry_write_some writes
        have now_le := later last listed now (by simp [readings, workerReadings])
        exact ⟨now, by simp [readings, workerReadings], rfl, bound.trans now_le⟩
    · have recorded := runs_recorded ranBefore v
      rw [phase] at recorded
      obtain ⟨x, listed, rfl, finished⟩ := recorded
      have isRetry : executedRetry result = true :=
        List.any_eq_true.mpr ⟨action, executed, by simpa using retry⟩
      have ended := executed_retry_ends finished isRetry
      have writes : retryWrite d x.rows.case.caseId s (.worker v (.persist now)) =
          some (x.rows.case.retryCount + 1, some now) := by
        simp [retryWrite, phase, committed, ended, Except.isOk, Except.toBool]
      have stamped := executed_stamp finished executed
      have now_le := later _ ((on_clock earlier ranBefore).stamped x listed) now
        (by simp [readings, workerReadings])
      refine ⟨now, by simp [readings, workerReadings], by rw [writes]; rfl, ?_⟩
      rw [← stamped] at now_le
      exact now_le

/-! ## The cooldown -/

theorem clock_forward_take (forward : ClockForward es) (n : ℕ) : ClockForward (es.take n) := by
  rw [ClockForward, ← List.take_append_drop n es, List.flatMap_append, List.pairwise_append] at forward
  exact forward.1

/-- A single worker executes a contact or a retry of a case no earlier than
`COOLDOWN_HOURS` after every `SMART_RETRY` that was on record when the run read its
rows. -/
theorem cooldown_after_retry {x : GraphRun} {before : System} {result : RecoveryState}
    {action row : RecoveryAction} (single : es.all (byWorker w) = true) (forward : ClockForward es)
    (ran : run (step d) {} es = some s) (recorded : x ∈ s.runs) (returned : (x.outcome d).2 = .ok result)
    (executed : action ∈ result.actions) (paced : action.actionType ∈ PolicyEngine.contactOrRetryActions)
    (ranBefore : run (step d) {} (es.take x.rows.loadedAt) = some before)
    (stored : row ∈ before.db.recoveryActions) (ofCase : row.caseId = x.rows.case.caseId)
    (retry : row.actionType = .smartRetry) :
    row.timestamp + Instant.hours d.settings.cooldownHours ≤ action.timestamp := by
  obtain ⟨_, before', v, _, ranRead, phase, _⟩ := rows_loaded_at ran (.inr ⟨x, recorded, rfl⟩)
  cases ranBefore.symm.trans ranRead
  have singleBefore : (es.take x.rows.loadedAt).all (byWorker w) = true := by
    rw [List.all_eq_true] at single ⊢
    exact fun e listed => single e (List.mem_of_mem_take listed)
  have mine : v = w := by
    by_contra other
    cases phase.symm.trans (others_idle singleBefore ranBefore other)
  subst mine
  have current := loaded_current singleBefore ranBefore x.rows.case (by rw [phase]; rfl)
  obtain ⟨last, _, stamp, bound⟩ := retry_stamped (clock_forward_take forward _) ranBefore row stored retry
  rw [ofCase, current] at stamp
  obtain ⟨built, proposed, ranBuild, ranPropose, passed, _⟩ := executed_from returned executed
  have cold := passed.allowed.cooldown (by rw [passed.examined]; exact List.mem_map_of_mem paced)
  have lastRetry : proposed.caseData.lastRetryAt = some last :=
    (rebuilt_from ranBuild ranPropose).lastRetryAt.trans stamp
  rw [lastRetry] at cold
  have apart : ¬ x.clock.cooldown - last < Instant.hours d.settings.cooldownHours := by
    simpa [PolicyEngine.cooldownActive] using cold
  have acted := (on_clock forward ran).checked x recorded
  rw [executed_stamp returned executed]
  omega

/-- The control case is delivered twice, a day apart. -/
def dailyRetries : List Event :=
  sampleIntake 0 "00000001" 250000 ++ [.request 0 (.push .failedAfter), .request 0 (.push .delivered)] ++
    sampleProcess 0 "nudge_email" 1788501600000000 "action-1" ++
    sampleProcess 0 "nudge_email" 1788588000000000 "action-2"

theorem cooldown_after_retry_daily : ∃ s x before result action row,
    run (step sampleDeployment) {} dailyRetries = some s ∧ x ∈ s.runs ∧
      (x.outcome sampleDeployment).2 = .ok result ∧ action ∈ result.actions ∧
      run (step sampleDeployment) {} (dailyRetries.take x.rows.loadedAt) = some before ∧
      row ∈ before.db.recoveryActions ∧ row.timestamp + Instant.hours 24 ≤ action.timestamp := by
  obtain ⟨s, x, before, result, action, row, ran, recorded, returned, executed, paced, ranBefore, stored, ofCase,
    retry⟩ : ∃ s x before result action row,
      run (step sampleDeployment) {} dailyRetries = some s ∧ x ∈ s.runs ∧
        (x.outcome sampleDeployment).2 = .ok result ∧ action ∈ result.actions ∧
        action.actionType ∈ PolicyEngine.contactOrRetryActions ∧
        run (step sampleDeployment) {} (dailyRetries.take x.rows.loadedAt) = some before ∧
        row ∈ before.db.recoveryActions ∧ row.caseId = x.rows.case.caseId ∧ row.actionType = .smartRetry :=
    ⟨_, _, _, _, _, _, rfl, List.mem_cons_of_mem _ List.mem_cons_self, rfl, List.mem_cons_self,
      List.mem_cons_self, rfl, List.mem_cons_self, rfl, rfl⟩
  have forward : ClockForward dailyRetries := by unfold ClockForward; decide
  have single : dailyRetries.all (byWorker 0) = true := by decide
  exact ⟨s, x, before, result, action, row, ran, recorded, returned, executed, ranBefore, stored,
    cooldown_after_retry single forward ran recorded returned executed paced ranBefore stored ofCase retry⟩

/-- Any two actions of these types that a single worker executes for a case are
`COOLDOWN_HOURS` apart. -/
def CooldownKept (d : Deployment) (paced : List ActionType) : Prop :=
  ∀ w es s earlier x later y, es.all (byWorker w) = true → ClockForward es →
    run (step d) {} es = some s → s.runs = earlier ++ x :: later → y ∈ later →
    y.rows.case.caseId = x.rows.case.caseId →
    ∀ first second first' second', (x.outcome d).2 = .ok first → (y.outcome d).2 = .ok second →
      first' ∈ first.actions → second' ∈ second.actions → first'.actionType ∈ paced →
      second'.actionType ∈ paced →
      first'.timestamp + Instant.hours d.settings.cooldownHours ≤ second'.timestamp

/-- The treatment case is delivered twice, an hour apart, and the language model
wants a payment link both times. -/
def hourlyLinks : List Event :=
  sampleIntake 0 "00000007" 250000 ++ [.request 0 (.push .failedAfter), .request 0 (.push .delivered)] ++
    sampleProcess 0 "payment_link" 1788501600000000 "action-1" ++
    sampleProcess 0 "payment_link" 1788505200000000 "action-2"

/-- The control case is delivered twice, an hour apart, and the transaction of the
first run is rolled back. -/
def hourlyRetries : List Event :=
  sampleIntake 0 "00000001" 250000 ++ [.request 0 (.push .failedAfter), .request 0 (.push .delivered)] ++
    (sampleProcess 0 "nudge_email" 1788501600000000 "action-1").dropLast ++
    [.worker 0 .raise, .worker 0 (.recordFailure 1788501600000000)] ++
    sampleProcess 0 "nudge_email" 1788505200000000 "action-2"

/-- No contact starts a cooldown, and a retry starts none where its run is rolled
back. -/
theorem links_within_cooldown : ¬ CooldownKept sampleDeployment PolicyEngine.contactOrRetryActions ∧
    ¬ CooldownKept sampleDeployment [.smartRetry] := by
  constructor <;> intro kept
  · have forward : ClockForward hourlyLinks := by unfold ClockForward; decide
    have apart :=
      kept 0 hourlyLinks _ [] _ _ _ (by decide) forward rfl rfl List.mem_cons_self rfl _ _ _ _ rfl rfl
      List.mem_cons_self List.mem_cons_self (by decide) (by decide)
    exact absurd apart (by decide)
  · have forward : ClockForward hourlyRetries := by unfold ClockForward; decide
    have apart :=
      kept 0 hourlyRetries _ [] _ _ _ (by decide) forward rfl rfl List.mem_cons_self rfl _ _ _ _ rfl rfl
      List.mem_cons_self List.mem_cons_self (by decide) (by decide)
    exact absurd apart (by decide)

end RevenueGuard.CooldownProofs
