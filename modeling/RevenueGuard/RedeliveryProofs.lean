import RevenueGuard.DeliveryProofs

/-!
Duplicate deliveries of one case, over whole runs of the service.  `Single` is
one delivery on its own; the deliveries of a run are compared with it.

`duplicates_harmless` says that any number of deliveries, by any number of
workers, leaves what the single one leaves, as long as none of them loads the
case after a retry was counted and none comes out differently for its clock
readings, its answers or the constraints of the tables.
-/

namespace RevenueGuard.RedeliveryProofs

open Library Library.Runs Library.Raises GraphProofs WorkerProofs SystemProofs TableProofs ProposalProofs
  DeliveryProofs

variable {d : Deployment} {s s' t : System} {e : Event} {es : List Event} {i w v : ℕ}

/-! ## One delivery on its own -/

/-- One undisturbed delivery of a stored case. -/
structure Single where
  decision : DecisionInputs
  visit : Visit
  case : RecoveryCase
  db : Database
  stored : Keyed.find (·.caseId) case.caseId db.recoveryCases = some case

namespace Single

variable (d) (x : Single)

def approval : Option RecoveryApproval := activeApproval x.visit.pick x.db x.case.caseId

/-- The state after `policy_check`. -/
def checked : Except String RecoveryState := checkedFor d x.decision x.visit.clock x.case x.approval

/-- The result of the graph run. -/
def result : Except String RecoveryState := (visitRun d x.decision x.visit x.case x.db).2

/-- What the delivery makes of the case. -/
def outcome : Option Outcome :=
  match x.result d with
  | .error _ => none
  | .ok result =>
    if result.actions.all (storable d.database x.db.recoveryActions) then some (outcomeOf result) else none

end Single

variable {x : Single}

theorem single_approved : ∀ row, x.approval = some row → row.status = .approved :=
  fun _ loaded => (active_approval_some loaded).2.2.1

theorem single_result_ok {result : RecoveryState} : x.result d = .ok result ↔
    ∃ checked, x.checked d = .ok checked ∧ (finishGraph d x.visit.finish checked).2 = .ok result := by
  simp only [Single.result, Single.checked, visitRun, graphRun, runGraph, checkedFor, Single.approval]
  cases buildState x.case (activeApproval x.visit.pick x.db x.case.caseId) with
  | error exc => simp [bind, Except.bind]
  | ok built =>
    rw [ok_bind]
    dsimp only
    cases decideGraph d x.decision x.visit.clock built with
    | error exc => simp
    | ok checked => simp

theorem single_raises (raises : ∀ result, x.result d ≠ .ok result) : x.outcome d = none := by
  unfold Single.outcome
  split
  · rfl
  · rename_i result returned
    exact absurd returned (raises result)

theorem single_commits {result : RecoveryState} (returned : x.result d = .ok result) :
    x.outcome d = if result.actions.all (storable d.database x.db.recoveryActions) = true then
      some (outcomeOf result) else none := by
  simp only [Single.outcome, returned]

/-- A single delivery takes the view of its case to its outcome. -/
theorem single_view : viewOf x.case.caseId (processCase d x.decision x.visit x.case.caseId x.db) =
    (viewOf x.case.caseId x.db).map (·.after x.case.caseId x.case.retryCount (x.outcome d)) := by
  simp only [processCase, x.stored]
  cases ran : (visitRun d x.decision x.visit x.case x.db).2 with
  | error exc =>
    have raises : ∀ result, x.result d ≠ .ok result := by
      intro result returned
      cases ran.symm.trans returned
    rw [single_raises raises]
    exact failure_view _
  | ok result =>
    rw [ok_bind, single_commits ran]
    have returns : (∃ committed, persistResult d.database x.visit.now x.case result x.db = .ok committed) ↔
        result.actions.all (storable d.database x.db.recoveryActions) = true := by
      rw [List.all_eq_true]
      exact persist_returns ran single_approved
    cases committed : persistResult d.database x.visit.now x.case result x.db with
    | error exc =>
      have refused : ¬ (result.actions.all (storable d.database x.db.recoveryActions)) = true := by
        rw [← returns, committed]
        rintro ⟨_, returned⟩
        cases returned
      rw [if_neg refused]
      exact failure_view _
    | ok db =>
      rw [if_pos (returns.mp ⟨db, committed⟩)]
      exact persist_view committed fun action executed => executed_own_key ran executed

/-! ## Deliveries of a run -/

/-- Every delivery of the case rests on the answers of the single one. -/
def SameAnswers (x : Single) (s : System) (e : Event) : Prop :=
  ∀ w decision clock, e = .worker w (.decide decision clock) →
    (s.workers w).caseId = some x.case.caseId → decision = x.decision

/-- A step of a delivery comes out like that of the single delivery: no retry was
counted before the case was loaded, the check reads the clocks on the same sides,
the second part of the run raises or does not, and the tables take the action or
do not.  Nothing else raises. -/
def deliversAlike (d : Deployment) (x : Single) (s : System) : Event → Bool
  | .request _ _ => true
  | .worker w e =>
    (s.workers w).caseId ≠ some x.case.caseId ||
      match s.workers w, e with
      | .gated rows, .decide _ clock =>
        rows.case.retryCount = x.case.retryCount &&
          (proposeFor d x.decision x.case x.approval).toOption.all fun proposed =>
            ChecksAlike d.settings x.case proposed.action x.visit.clock clock x.approval rows.approval
      | .decided _ _ _ state, .finish finish =>
        (x.checked d).toOption.all fun checked =>
          getsThrough d finish state = getsThrough d x.visit.finish checked
      | .finished _ result, .persist _ =>
        (x.result d).toOption.all fun single =>
          result.actions.all (storable d.database s.db.recoveryActions) =
            single.actions.all (storable d.database x.db.recoveryActions)
      | _, .raise => false
      | _, _ => true

def DeliversAlike (d : Deployment) (x : Single) (s : System) (e : Event) : Prop :=
  SameAnswers x s e ∧ deliversAlike d x s e = true

/-- Whether a step completes a delivery of the case: its run commits, or its
failure is put on record. -/
def completes (d : Deployment) (caseId : String) (s : System) : Event → Bool
  | .worker w (.persist now) =>
    match s.workers w with
    | .finished rows result =>
      rows.case.caseId = caseId && (persistResult d.database now rows.case result s.db).isOk
    | _ => false
  | .worker w (.recordFailure _) =>
    match s.workers w with
    | .failed failed => failed = caseId
    | _ => false
  | _ => false

/-! ## What the deliveries keep -/

/-- A stored row of the case between two deliveries: only a counted retry moves
the instant of the last one. -/
structure Stays (x : Single) (case : RecoveryCase) : Prop where
  intake : intakePart case = intakePart x.case
  lastRetryAt : case.retryCount = x.case.retryCount → case.lastRetryAt = x.case.lastRetryAt

/-- A delivery of the case is where the single one would be. -/
def PhaseAlike (d : Deployment) (x : Single) : WorkerPhase → Prop
  | .decided rows _ _ state => rows.case.caseId = x.case.caseId →
    rows.case.retryCount = x.case.retryCount ∧ state.actions = [] ∧
      ∃ checked, x.checked d = .ok checked ∧ checked.actions = [] ∧
        courseOutcome state = courseOutcome checked
  | .finished rows result => rows.case.caseId = x.case.caseId →
    rows.case.retryCount = x.case.retryCount ∧
      ∃ single, x.result d = .ok single ∧ outcomeOf result = outcomeOf single
  | .failed caseId => caseId = x.case.caseId → x.outcome d = none
  | _ => True

structure Redelivered (d : Deployment) (x : Single) (s : System) : Prop where
  reached : Reachable (step d) {} s
  stored : ∃ case ∈ s.db.recoveryCases, case.caseId = x.case.caseId
  rows : ∀ case ∈ s.db.recoveryCases, case.caseId = x.case.caseId → Stays x case
  worked : ∀ w case, workedCase (s.workers w) = some case → case.caseId = x.case.caseId → Stays x case
  phases : ∀ w, PhaseAlike d x (s.workers w)

/-- A commit of the service keeps the row of the case. -/
theorem stays_step {db : Database} (known : Redelivered d x s) (stepped : DbStep d s db) :
    ∀ case ∈ db.recoveryCases, case.caseId = x.case.caseId → Stays x case := by
  intro case member ofCase
  obtain ⟨first, storedFirst, ofFirst⟩ := known.stored
  cases stepped with
  | unchanged => exact known.rows case member ofCase
  | webhook _ committed =>
    obtain ⟨_, fresh, rfl⟩ := commit_webhook_ok committed
    rcases List.mem_append.mp member with earlier | new
    · exact known.rows case earlier ofCase
    · have apart := fresh case (Option.mem_toList.mp new) first storedFirst
      exact absurd (ofFirst.trans ofCase.symm) apart
  | batch _ committed =>
    obtain ⟨unique, rfl⟩ := commit_batch_ok committed
    rcases List.mem_append.mp member with earlier | new
    · exact known.rows case earlier ofCase
    · rw [List.map_append, List.nodup_append] at unique
      have apart := unique.2.2 _ (List.mem_map_of_mem storedFirst) _ (List.mem_map_of_mem new)
      exact absurd (ofFirst.trans ofCase.symm) apart
  | verdict => exact known.rows case member ofCase
  | @persist w rows result now _ phase committed =>
    rw [(persist_result_ok committed).recoveryCases] at member
    rcases Keyed.mem_modify.mp member with ⟨old, earlier, sameId, rfl⟩ | ⟨earlier, _⟩
    · have stays := known.rows old earlier ofCase
      refine ⟨stays.intake, ?_⟩
      by_cases retried : result.action = some .smartRetry
      · have finished := known.phases w
        rw [phase] at finished
        obtain ⟨count, _⟩ := finished (sameId.symm.trans ofCase)
        intro uncounted
        simp only [updateCase, retried, ↓reduceIte, count] at uncounted
        omega
      · simp only [updateCase, retried, ↓reduceIte]
        exact stays.lastRetryAt
    · exact known.rows case earlier ofCase
  | recordFailure =>
    rcases Keyed.mem_modify.mp member with ⟨old, earlier, _, rfl⟩ | ⟨earlier, _⟩
    · have stays := known.rows old earlier ofCase
      exact ⟨stays.intake, stays.lastRetryAt⟩
    · exact known.rows case earlier ofCase

theorem stored_step {db : Database} (known : Redelivered d x s) (stepped : DbStep d s db) :
    ∃ case ∈ db.recoveryCases, case.caseId = x.case.caseId := by
  obtain ⟨case, stored, ofCase⟩ := known.stored
  obtain ⟨kept, member, same⟩ := case_kept stepped stored
  exact ⟨kept, member, (intake_part_amount same).1.trans ofCase⟩

theorem stays_worked (known : Redelivered d x s) (stepped : step d s e = some s') :
    ∀ w case, workedCase (s'.workers w) = some case → case.caseId = x.case.caseId → Stays x case := by
  intro w case worked ofCase
  rcases worked_case_step stepped worked with earlier | stored
  · exact known.worked w case earlier ofCase
  · exact known.rows case stored ofCase

private theorem phases_update {phase : WorkerPhase} (phases : ∀ v, PhaseAlike d x (s.workers v))
    (workers : t.workers = Function.update s.workers w phase) (fresh : PhaseAlike d x phase) :
    ∀ v, PhaseAlike d x (t.workers v) := by
  rw [workers, Function.forall_update_iff _ fun _ => PhaseAlike d x]
  exact ⟨fresh, fun v _ => phases v⟩

theorem rows_approved {rows : LoadedRows} (known : Redelivered d x s)
    (worked : rowsOf (s.workers w) = some rows) :
    ∀ row, rows.approval = some row → row.status = .approved := by
  obtain ⟨es, ran⟩ := known.reached
  exact loaded_approved ran (.inl ⟨w, worked⟩)

/-- The check of a delivery of the case comes out like that of the single one, or
raises with it. -/
theorem decide_alike {rows : LoadedRows} {decision : DecisionInputs} {clock : PolicyClock}
    (known : Redelivered d x s) (phase : s.workers w = .gated rows)
    (ofCase : rows.case.caseId = x.case.caseId)
    (alike : DeliversAlike d x s (.worker w (.decide decision clock))) :
    rows.case.retryCount = x.case.retryCount ∧
      Agree (fun t t' => courseOutcome t' = courseOutcome t ∧ t.actions = [] ∧ t'.actions = [])
        (x.checked d) (checkedFor d decision clock rows.case rows.approval) := by
  obtain ⟨answers, alike⟩ := alike
  have working : (s.workers w).caseId = some x.case.caseId := by
    rw [phase]
    exact congrArg some ofCase
  have same := answers w decision clock rfl working
  subst same
  simp only [deliversAlike, phase, WorkerPhase.caseId, ofCase, ne_eq, not_true_eq_false, decide_false,
    Bool.false_or, Bool.and_eq_true, decide_eq_true_eq] at alike
  obtain ⟨count, checks⟩ := alike
  have stays := known.worked w rows.case (by rw [phase]; rfl) ofCase
  refine ⟨count, checked_alike ⟨stays.intake, count, stays.lastRetryAt count⟩ ?_ single_approved
    (rows_approved known (by rw [phase]; rfl))⟩
  intro proposed ran
  rw [ran] at checks
  simpa [Except.toOption] using checks

/-- The second part of a delivery returns exactly if that of the single one does. -/
theorem finish_alike {rows : LoadedRows} {decision : DecisionInputs} {clock : PolicyClock}
    {state checked : RecoveryState} {finish : FinishInputs}
    (phase : s.workers w = .decided rows decision clock state) (ofCase : rows.case.caseId = x.case.caseId)
    (reference : x.checked d = .ok checked) (alike : DeliversAlike d x s (.worker w (.finish finish))) :
    (∃ result, (finishGraph d finish state).2 = .ok result) ↔
      ∃ single, (finishGraph d x.visit.finish checked).2 = .ok single := by
  have alike := alike.2
  simp only [deliversAlike, phase, WorkerPhase.caseId, ofCase, ne_eq, not_true_eq_false, decide_false,
    Bool.false_or, reference] at alike
  have through : getsThrough d finish state = getsThrough d x.visit.finish checked := by
    simpa [Except.toOption] using alike
  rw [finish_returns_iff, finish_returns_iff, through]

/-- The run behind a finished delivery. -/
theorem finished_run {rows : LoadedRows} {result : RecoveryState} (known : Redelivered d x s)
    (phase : s.workers w = .finished rows result) :
    (∀ action ∈ result.actions, action.idempotencyKey.caseId = rows.case.caseId) ∧
      ∀ now, (∃ committed, persistResult d.database now rows.case result s.db = .ok committed) ↔
        result.actions.all (storable d.database s.db.recoveryActions) = true := by
  obtain ⟨es, ran⟩ := known.reached
  have recorded := runs_recorded ran w
  rw [phase] at recorded
  obtain ⟨y, _, rfl, finished⟩ := recorded
  refine ⟨fun action executed => executed_own_key finished executed, fun now => ?_⟩
  rw [List.all_eq_true]
  exact persist_returns finished (rows_approved known (by rw [phase]; rfl))

/-- The tables take the action of a delivery exactly if they take that of the
single one. -/
theorem persist_alike {rows : LoadedRows} {result single : RecoveryState} {now : ℤ}
    (known : Redelivered d x s) (phase : s.workers w = .finished rows result)
    (ofCase : rows.case.caseId = x.case.caseId) (reference : x.result d = .ok single)
    (alike : DeliversAlike d x s (.worker w (.persist now))) :
    (∃ committed, persistResult d.database now rows.case result s.db = .ok committed) ↔
      single.actions.all (storable d.database x.db.recoveryActions) = true := by
  have alike := alike.2
  simp only [deliversAlike, phase, WorkerPhase.caseId, ofCase, ne_eq, not_true_eq_false, decide_false,
    Bool.false_or, reference] at alike
  have taken : result.actions.all (storable d.database s.db.recoveryActions) =
      single.actions.all (storable d.database x.db.recoveryActions) := by
    simpa [Except.toOption] using alike
  rw [(finished_run known phase).2 now, taken]

theorem phases_worker {moved : WorkerEvent} (known : Redelivered d x s)
    (alike : DeliversAlike d x s (.worker w moved)) (stepped : WorkerStep d s w moved t) :
    ∀ v, PhaseAlike d x (t.workers v) := by
  have phases := known.phases
  cases stepped with
  | popLost => exact phases
  | @decide rows decision clock built state phase ranBuild ranDecide =>
    apply phases_update phases rfl
    intro ofCase
    obtain ⟨count, agreed⟩ := decide_alike known phase ofCase alike
    obtain ⟨checked, reference, same, fresh, untouched⟩ :=
      agree_ok (agree_symm agreed) (bind_ok.mpr ⟨built, ranBuild, ranDecide⟩)
    exact ⟨count, untouched, checked, reference, fresh, same⟩
  | @decideFails rows decision clock exc phase raised =>
    apply phases_update phases rfl
    intro ofCase
    obtain ⟨_, agreed⟩ := decide_alike known phase ofCase alike
    have raises := agree_error (agree_symm agreed) raised
    apply single_raises
    intro result returned
    obtain ⟨checked, reference, _⟩ := single_result_ok.mp returned
    cases raises.symm.trans reference
  | @finish rows decision clock state finish result phase finished =>
    apply phases_update phases rfl
    intro ofCase
    have decided := phases w
    rw [phase] at decided
    obtain ⟨count, untouched, checked, reference, fresh, same⟩ := decided ofCase
    obtain ⟨single, returned⟩ := (finish_alike phase ofCase reference alike).mp ⟨result, finished⟩
    refine ⟨count, single, single_result_ok.mpr ⟨checked, reference, returned⟩, ?_⟩
    calc outcomeOf result
      _ = courseOutcome state := outcome_finished untouched (finish_graph_ok finished)
      _ = courseOutcome checked := same
      _ = outcomeOf single := (outcome_finished fresh (finish_graph_ok returned)).symm
  | @finishFails rows decision clock state finish exc phase raised =>
    apply phases_update phases rfl
    intro ofCase
    have decided := phases w
    rw [phase] at decided
    obtain ⟨_, _, checked, reference, _, _⟩ := decided ofCase
    apply single_raises
    intro single returned
    obtain ⟨checked', reference', returned⟩ := single_result_ok.mp returned
    cases reference.symm.trans reference'
    obtain ⟨result, finished⟩ := (finish_alike phase ofCase reference alike).mpr ⟨single, returned⟩
    cases raised.symm.trans finished
  | @persistFails rows result now exc phase refused =>
    apply phases_update phases rfl
    intro ofCase
    have finished := phases w
    rw [phase] at finished
    obtain ⟨_, single, returned, _⟩ := finished ofCase
    have refuses : ¬ single.actions.all (storable d.database x.db.recoveryActions) = true := by
      rw [← persist_alike known phase ofCase returned alike, refused]
      rintro ⟨_, committed⟩
      cases committed
    rw [single_commits returned, if_neg refuses]
  | @raise caseId working notPopped notFailed =>
    apply phases_update phases rfl
    intro ofCase
    have alike := alike.2
    simp [deliversAlike, working, ofCase] at alike
  | _ => exact phases_update phases rfl trivial

theorem redelivered_step (known : Redelivered d x s) (alike : DeliversAlike d x s e)
    (stepped : step d s e = some s') : Redelivered d x s' where
  reached := by
    obtain ⟨es, ran⟩ := known.reached
    exact ⟨es ++ [e], run_snoc_iff.mpr ⟨s, ran, stepped⟩⟩
  stored := stored_step known (step_db stepped)
  rows := stays_step known (step_db stepped)
  worked := stays_worked known stepped
  phases := by
    cases step_cases stepped with
    | request moved => cases moved <;> exact known.phases
    | worker moved =>
      have phases := phases_worker known alike moved
      exact phases

/-! ## What the deliveries do to the view -/

theorem request_view {moved : RequestEvent} (known : Redelivered d x s) (stepped : RequestStep d s i moved t) :
    viewOf x.case.caseId t.db = viewOf x.case.caseId s.db := by
  obtain ⟨first, stored, ofCase⟩ := known.stored
  have kept (new : List RecoveryCase) : Keyed.find (·.caseId) x.case.caseId (s.db.recoveryCases ++ new) =
      Keyed.find (·.caseId) x.case.caseId s.db.recoveryCases := by
    rw [Keyed.find_append, ← ofCase]
    cases found : Keyed.find (·.caseId) first.caseId s.db.recoveryCases with
    | none => exact absurd rfl (Keyed.find_none.mp found first stored)
    | some row => rfl
  cases stepped with
  | committed commit =>
    generalize phase : s.requests _ = phase, committed : Except.ok _ = outcome at commit
    cases commit with
    | webhook =>
      obtain ⟨_, _, rfl⟩ := commit_webhook_ok committed.symm
      simp only [viewOf, set_request_db, kept]
    | batch =>
      obtain ⟨_, rfl⟩ := commit_batch_ok committed.symm
      simp only [viewOf, set_request_db, kept]
    | verdict =>
      cases committed
      rfl
  | _ => rfl

/-- A step that completes a delivery of the case writes the single outcome, and no
other step moves the view. -/
theorem view_step (known : Redelivered d x s) (alike : DeliversAlike d x s e)
    (stepped : step d s e = some s') :
    viewOf x.case.caseId s'.db =
      if completes d x.case.caseId s e then
        (viewOf x.case.caseId s.db).map (·.after x.case.caseId x.case.retryCount (x.outcome d))
      else viewOf x.case.caseId s.db := by
  cases step_cases stepped with
  | request moved =>
    have kept := request_view known moved
    exact kept
  | @worker w _ _ moved =>
    cases moved with
    | @persist rows result now db phase committed =>
      obtain ⟨own, _⟩ := finished_run known phase
      have finished := known.phases w
      rw [phase] at finished
      by_cases ofCase : rows.case.caseId = x.case.caseId
      · obtain ⟨count, single, returned, same⟩ := finished ofCase
        have taken := (persist_alike known phase ofCase returned alike).mp ⟨db, committed⟩
        have acts : completes d x.case.caseId s (.worker w (.persist now)) = true := by
          simp [completes, phase, ofCase, committed, Except.isOk, Except.toBool]
        rw [acts, if_pos rfl, single_commits returned, if_pos taken, ← same, ← count, ← ofCase]
        exact persist_view committed own
      · have acts : completes d x.case.caseId s (.worker w (.persist now)) = false := by
          simp [completes, phase, ofCase]
        rw [acts, if_neg Bool.false_ne_true]
        exact persist_view_other (Ne.symm ofCase) committed own
    | @persistFails rows result now exc phase refused =>
      have acts : completes d x.case.caseId s (.worker w (.persist now)) = false := by
        simp [completes, phase, refused, Except.isOk, Except.toBool]
      rw [acts, if_neg Bool.false_ne_true]
      rfl
    | @recordFailure caseId now phase =>
      have failed := known.phases w
      rw [phase] at failed
      by_cases ofCase : caseId = x.case.caseId
      · have acts : completes d x.case.caseId s (.worker w (.recordFailure now)) = true := by
          simp [completes, phase, ofCase]
        rw [acts, if_pos rfl, failed ofCase, ofCase]
        exact failure_view _
      · have acts : completes d x.case.caseId s (.worker w (.recordFailure now)) = false := by
          simp [completes, phase, ofCase]
        rw [acts, if_neg Bool.false_ne_true]
        exact failure_view_other (Ne.symm ofCase)
    | _ => rfl

/-! ## Whole runs -/

/-- A reached state in which the case is stored and no worker is past its pop:
from here on the single delivery is compared with others. -/
structure Before (d : Deployment) (x : Single) (s : System) : Prop where
  reached : Reachable (step d) {} s
  db : s.db = x.db
  quiet : ∀ w, (s.workers w).caseId = some x.case.caseId → s.workers w = .popped x.case.caseId

theorem redelivered_start (before : Before d x s) : Redelivered d x s where
  reached := before.reached
  stored := by
    rw [before.db]
    exact ⟨x.case, Keyed.find_mem x.stored, rfl⟩
  rows := by
    intro case member ofCase
    obtain ⟨es, ran⟩ := before.reached
    have found := Keyed.find_of_mem (case_ids_unique ran) member
    rw [before.db, ofCase, x.stored] at found
    cases found
    exact ⟨rfl, fun _ => rfl⟩
  worked := by
    intro w case worked ofCase
    have working : (s.workers w).caseId = some x.case.caseId := by
      rw [← ofCase]
      revert worked
      cases s.workers w <;> simp +contextual [workedCase, WorkerPhase.caseId]
    rw [before.quiet w working] at worked
    cases worked
  phases := by
    intro w
    have waits (caseId : String) (working : (s.workers w).caseId = some caseId)
        (notPopped : s.workers w ≠ .popped x.case.caseId) : caseId ≠ x.case.caseId := by
      rintro rfl
      exact notPopped (before.quiet w working)
    cases phase : s.workers w with
    | decided rows =>
      exact fun ofCase => absurd ofCase (waits _ (by rw [phase]; rfl) (by simp [phase]))
    | finished rows =>
      exact fun ofCase => absurd ofCase (waits _ (by rw [phase]; rfl) (by simp [phase]))
    | failed caseId =>
      exact fun ofCase => absurd ofCase (waits _ (by rw [phase]; rfl) (by simp [phase]))
    | _ => trivial

/-- However often the case is delivered, and however the deliveries interleave,
they leave what a single delivery leaves. -/
theorem duplicates_harmless (before : Before d x s) (met : Meets (step d) (DeliversAlike d x) s es)
    (ran : run (step d) s es = some s') :
    viewOf x.case.caseId s'.db =
      if count (step d) (completes d x.case.caseId) s es = 0 then viewOf x.case.caseId x.db
      else viewOf x.case.caseId (processCase d x.decision x.visit x.case.caseId x.db) := by
  rw [single_view, ← before.db]
  refine meets_idempotent (fun s => viewOf x.case.caseId s.db)
    (Option.map (·.after x.case.caseId x.case.retryCount (x.outcome d))) ?_ (redelivered_start before)
    (fun _ _ _ known alike stepped => redelivered_step known alike stepped)
    (fun _ _ _ known alike stepped => view_step known alike stepped) met ran
  intro view
  rw [Option.map_map]
  exact congrArg (fun f => Option.map f view) (funext fun view => after_idempotent ..)

/-! ## Two sample deliveries -/

/-- A control case is stored and its identifier queued twice: the reply to a push
that went through was lost. -/
def queueing : List Event :=
  sampleIntake 0 "00000001" 250000 ++ [.request 0 (.push .failedAfter), .request 0 (.push .delivered)]

def queuedTwice : System := (run (step sampleDeployment) {} queueing).getD {}

/-- The first of the two deliveries, on its own. -/
def sampleSingle : Single :=
  { decision := sampleDecision .closed "nudge_email"
    visit := sampleVisit 1788501600000000 "action-1"
    case := queuedTwice.db.recoveryCases.headD (sampleCase "" 0)
    db := queuedTwice.db
    stored := rfl }

theorem sample_before : Before sampleDeployment sampleSingle queuedTwice where
  reached := ⟨queueing, rfl⟩
  db := rfl
  quiet := by
    intro w working
    have idle : queuedTwice.workers w = .idle := rfl
    rw [idle] at working
    cases working

theorem sample_answers {actionType actionId : String} {now : ℤ} {decision : DecisionInputs}
    {clock : PolicyClock}
    (listed : .worker v (.decide decision clock) ∈ sampleProcess w actionType now actionId) :
    decision = sampleDecision .closed actionType ∧ clock = sampleClock now := by
  simp only [sampleProcess, List.mem_cons, List.not_mem_nil, or_false] at listed
  rcases listed with popped | loaded | gated | decided | finished | persisted
  · cases popped
  · cases loaded
  · cases gated
  · cases decided
    exact ⟨rfl, rfl⟩
  · cases finished
  · cases persisted

/-- Two workers load the case before either of them commits. -/
def overlapping : List Event :=
  [.worker 0 .pop, .worker 1 .pop, .worker 0 .load, .worker 1 .load] ++
    (sampleProcess 0 "nudge_email" 1788501600000000 "action-1").drop 2 ++
    (sampleProcess 1 "nudge_email" 1788501700000000 "action-2").drop 2

/-- Both make the same retry, and it is counted once. -/
theorem duplicates_harmless_overlapping : ∃ s,
    run (step sampleDeployment) queuedTwice overlapping = some s ∧
      count (step sampleDeployment) (completes sampleDeployment "REC-00000001") queuedTwice overlapping = 2 ∧
      viewOf "REC-00000001" s.db = viewOf "REC-00000001" (processCase sampleDeployment
        (sampleDecision .closed "nudge_email") (sampleVisit 1788501600000000 "action-1") "REC-00000001"
        queuedTwice.db) := by
  obtain ⟨s, ran⟩ : ∃ s, run (step sampleDeployment) queuedTwice overlapping = some s := ⟨_, rfl⟩
  have twice : count (step sampleDeployment) (completes sampleDeployment "REC-00000001")
      queuedTwice overlapping = 2 := by decide
  have alike : Meets (step sampleDeployment) (fun s e => deliversAlike sampleDeployment sampleSingle s e = true)
      queuedTwice overlapping := meets_of_checks (by decide)
  have met : Meets (step sampleDeployment) (DeliversAlike sampleDeployment sampleSingle)
      queuedTwice overlapping := by
    intro fs e gs shape before ranBefore
    refine ⟨?_, alike fs e gs shape before ranBefore⟩
    rintro w decision clock rfl _
    have listed : (.worker w (.decide decision clock) : Event) ∈ overlapping := by simp [shape]
    rcases List.mem_append.mp listed with earlier | later
    · rcases List.mem_append.mp earlier with first | earlier
      · simp at first
      · exact (sample_answers (List.mem_of_mem_drop earlier)).1
    · exact (sample_answers (List.mem_of_mem_drop later)).1
  have harmless : viewOf "REC-00000001" s.db =
      if count (step sampleDeployment) (completes sampleDeployment "REC-00000001") queuedTwice overlapping = 0
      then viewOf "REC-00000001" queuedTwice.db
      else viewOf "REC-00000001" (processCase sampleDeployment (sampleDecision .closed "nudge_email")
        (sampleVisit 1788501600000000 "action-1") "REC-00000001" queuedTwice.db) :=
    duplicates_harmless sample_before met ran
  rw [twice, if_neg two_ne_zero] at harmless
  exact ⟨s, ran, twice, harmless⟩

/-- The check of a delivery reads the clock within the cooldown that the single
delivery starts. -/
def WithinCooldown (d : Deployment) (x : Single) (s : System) (e : Event) : Prop :=
  ∀ w decision clock, e = .worker w (.decide decision clock) →
    (s.workers w).caseId = some x.case.caseId →
    clock.cooldown < x.visit.now + Instant.hours d.settings.cooldownHours

/-- Deliveries on the same answers and within the cooldown leave what one leaves. -/
def HarmlessDuplicates (d : Deployment) : Prop :=
  ∀ x s es s', Before d x s →
    Meets (step d) (fun s e => SameAnswers x s e ∧ WithinCooldown d x s e) s es →
    run (step d) s es = some s' → count (step d) (completes d x.case.caseId) s es ≠ 0 →
    viewOf x.case.caseId s'.db = viewOf x.case.caseId (processCase d x.decision x.visit x.case.caseId x.db)

def oneAfterTheOther : List Event :=
  sampleProcess 0 "nudge_email" 1788501600000000 "action-1" ++
    sampleProcess 0 "nudge_email" 1788501700000000 "action-2"

/-- The second delivery of the control case runs into the cooldown that the retry
of the first has started, and stops the case. -/
theorem redelivered_retry_stops : ¬ HarmlessDuplicates sampleDeployment := by
  intro harmless
  obtain ⟨s, ran, stopped⟩ : ∃ s, run (step sampleDeployment) queuedTwice oneAfterTheOther = some s ∧
      (viewOf "REC-00000001" s.db).map (·.status) = some .stopped := ⟨_, rfl, rfl⟩
  have completed : count (step sampleDeployment) (completes sampleDeployment sampleSingle.case.caseId)
      queuedTwice oneAfterTheOther ≠ 0 := by decide
  have met : Meets (step sampleDeployment)
      (fun s e => SameAnswers sampleSingle s e ∧ WithinCooldown sampleDeployment sampleSingle s e)
      queuedTwice oneAfterTheOther := by
    intro fs e gs shape before _
    have answers : ∀ w decision clock, e = .worker w (.decide decision clock) →
        decision = sampleSingle.decision ∧ clock.cooldown ≤ 1788501700000000 := by
      rintro w decision clock rfl
      have listed : (.worker w (.decide decision clock) : Event) ∈ oneAfterTheOther := by simp [shape]
      rcases List.mem_append.mp listed with earlier | later
      · obtain ⟨same, rfl⟩ := sample_answers earlier
        exact ⟨same, by decide⟩
      · obtain ⟨same, rfl⟩ := sample_answers later
        exact ⟨same, le_refl _⟩
    constructor
    · intro w decision clock decides _
      exact (answers w decision clock decides).1
    · intro w decision clock decides _
      exact lt_of_le_of_lt (answers w decision clock decides).2 (by decide)
  have kept := harmless _ _ _ _ sample_before met ran completed
  have executing : (viewOf "REC-00000001" s.db).map (·.status) = some .executing :=
    congrArg (Option.map (·.status)) kept
  cases stopped.symm.trans executing

end RevenueGuard.RedeliveryProofs
