import RevenueGuard.Library.Locks
import RevenueGuard.CaseFileProofs
import RevenueGuard.Schedules

/-!
The row locks of the workers.

1. `locks_exclusive`: in every reached state the locked rows are those of the workers between their
   gate and their commit, each row locked by one worker.
2. `graph_run_isolated`: from its gate to its commit a graph run works on a case alone, and nobody
   else writes the file of the case, the requests for approval apart, which approvers may decide at
   any time.
3. `blocked_waits`: a worker that finds its row locked waits for one other worker, which can always
   take its next step, whatever it is answered, and gives the row back with its third one.
-/

namespace RevenueGuard.LockProofs

open Library Library.Locks Library.Runs Library.Raises GraphProofs WorkerProofs SystemProofs TableProofs
  CaseFileProofs

variable {d : Deployment} {s s' t : System} {e : Event} {es fs : List Event} {w v : ℕ} {caseId : String}
  {rows : LoadedRows}

/-! ## The locks -/

/-- The case whose row each worker has locked. -/
def lockedBy (s : System) (w : ℕ) : Option String := (s.workers w).locked

theorem locked_by_update {phase : WorkerPhase} :
    (fun v => (Function.update s.workers w phase v).locked) =
      Function.update (lockedBy s) w phase.locked := by
  funext v
  by_cases same : v = w
  · subst same
    simp only [Function.update_self]
  · simp only [Function.update_of_ne same, lockedBy]

theorem release_exclusive {phase : WorkerPhase} (kept : Exclusive s.rowLocks (lockedBy s))
    (empty : phase.locked = none) :
    Exclusive (s.release w phase).rowLocks (lockedBy (s.release w phase)) := by
  have holds : lockedBy (s.release w phase) = Function.update (lockedBy s) w none := by
    rw [← empty]
    exact locked_by_update
  rw [holds]
  simp only [System.release, set_worker_row_locks]
  split
  · rename_i nothing
    exact kept.pass nothing
  · rename_i held
    exact kept.give held

/-- A worker that goes on with the lock it has, or without one. -/
theorem go_on_exclusive {locks : List String} {phase : WorkerPhase} (kept : Exclusive locks (lockedBy s))
    (same : phase.locked = (s.workers w).locked) :
    Exclusive locks fun v => (Function.update s.workers w phase v).locked := by
  rw [locked_by_update, same]
  have unmoved : Function.update (lockedBy s) w (s.workers w).locked = lockedBy s := Function.update_eq_self _ _
  rwa [unmoved]

theorem worker_step_exclusive {moved : WorkerEvent} (kept : Exclusive s.rowLocks (lockedBy s))
    (stepped : WorkerStep d s w moved t) : Exclusive t.rowLocks (lockedBy t) := by
  cases stepped with
  | pop idle => exact go_on_exclusive kept (by rw [idle]; rfl)
  | popLost => exact kept
  | missing phase | load phase | recordFailure phase => exact go_on_exclusive kept (by rw [phase]; rfl)
  | @gate case pick phase free =>
    have unlocked : lockedBy s w = none := by rw [lockedBy, phase]; rfl
    change Exclusive (case.caseId :: s.rowLocks) fun v => (Function.update s.workers w (.gated _) v).locked
    rw [locked_by_update]
    exact kept.take free unlocked
  | decide phase | finish phase => exact go_on_exclusive kept (by rw [phase]; rfl)
  | decideFails | raise | crash => exact release_exclusive kept rfl
  | finishFails | persist | persistFails =>
    refine release_exclusive (s := { s with .. }) ?_ rfl
    exact kept

/-- In every reached state the locked rows are those that the workers hold, each held by one. -/
theorem locks_exclusive (ran : run (step d) {} es = some s) : Exclusive s.rowLocks (lockedBy s) := by
  refine run_invariant (P := fun s => Exclusive s.rowLocks (lockedBy s)) ?_ exclusive_start ran
  intro s e s' kept stepped
  cases step_cases stepped with
  | request moved => cases moved <;> exact kept
  | worker moved =>
    have unticked := worker_step_exclusive kept moved
    exact unticked

/-! ## Isolation -/

/-- What a graph run works on is the case it has locked. -/
theorem locked_of_rows (held : rowsOf (s.workers w) = some rows) : lockedBy s w = some rows.case.caseId := by
  unfold lockedBy
  cases phase : s.workers w <;> rw [phase] at held <;> cases held <;> rfl

/-- A worker comes to work on rows at its gate only. -/
theorem rows_of_step (stepped : step d s e = some s') (held : rowsOf (s'.workers w) = some rows) :
    rowsOf (s.workers w) = some rows ∨ (rows.loadedAt = s.steps ∧ s'.db = s.db) := by
  cases step_cases stepped with
  | request moved => cases moved <;> exact .inl held
  | @worker v _ _ moved =>
    by_cases mine : w = v
    · subst mine
      cases moved with
      | popLost => exact .inl held
      | gate =>
        simp only [tick_workers, set_worker_workers, Function.update_self, rowsOf, Option.some.injEq] at held
        subst held
        exact .inr ⟨rfl, rfl⟩
      | decide phase | finish phase =>
        simp only [tick_workers, set_worker_workers, Function.update_self] at held
        rw [phase]
        exact .inl held
      | _ => simp [rowsOf] at held
    · left
      cases moved with
      | popLost => exact held
      | _ => simpa [Function.update_of_ne mine] using held

/-- The file of a case without the requests for approval. -/
def lockedFile (caseId : String) (db : Database) : CaseFile := { fileOf caseId db with approvals := [] }

/-- A step that a graph run outlives leaves the file of its case alone. -/
theorem locked_file_step (ran : run (step d) {} es = some s) (stepped : step d s e = some s')
    (held : rowsOf (s.workers w) = some rows) (still : rowsOf (s'.workers w) = some rows) :
    lockedFile rows.case.caseId s'.db = lockedFile rows.case.caseId s.db := by
  have exclusive := locks_exclusive ran
  have mine := locked_of_rows held
  obtain ⟨stored, member, same⟩ : Stored s.db rows.case.caseId := by
    refine found_stored ran w _ ?_
    cases phase : s.workers w <;> rw [phase] at held <;> cases held <;> rfl
  have kept : fileOf rows.case.caseId s'.db = fileOf rows.case.caseId s.db →
      lockedFile rows.case.caseId s'.db = lockedFile rows.case.caseId s.db := fun unmoved => by
    rw [lockedFile, unmoved, lockedFile]
  cases step_commit stepped with
  | nothing unmoved => rw [unmoved]
  | @webhook _ _ _ case _ _ committed =>
    obtain ⟨_, fresh, written⟩ := commit_webhook_ok committed
    refine kept (file_intake_other _ written fun listed => ?_)
    obtain ⟨new, given, ofCase⟩ := List.mem_map.mp listed
    exact fresh new (Option.mem_toList.mp given) stored member (same.trans ofCase.symm)
  | @batch _ _ cases _ _ committed =>
    obtain ⟨unique, written⟩ := commit_batch_ok committed
    refine kept (file_intake_other _ written fun listed => ?_)
    rw [List.map_append] at unique
    exact (List.nodup_append.mp unique).2.2 _ (List.mem_map_of_mem member) _ listed same
  | verdict _ written =>
    rw [written]
    rfl
  | @persist v now worked result _ phase committed moved =>
    refine kept (file_persist_other (fun ours => ?_) committed)
    have theirs : lockedBy s v = some worked.case.caseId := by rw [lockedBy, phase]; rfl
    have one := exclusive.single w v _ mine (ours ▸ theirs)
    subst one
    rw [moved, Function.update_self] at still
    cases still
  | @recordFailure v now failed _ phase written =>
    have free : failed ∉ s.rowLocks := by
      cases step_cases stepped with
      | worker moved =>
        cases moved with
        | recordFailure phase' free =>
          rw [phase] at phase'
          cases phase'
          exact free
    apply kept
    rw [written]
    refine file_failure_other fun ours => free ?_
    exact (exclusive.listed failed).mpr ⟨w, ours ▸ mine⟩

/-- From its gate to its commit a graph run has its case for itself: no other worker runs the graph
on the case, and the file of the case is, but for verdicts, what it was at the gate. -/
theorem graph_run_isolated (ran : run (step d) {} es = some s) (held : rowsOf (s.workers w) = some rows) :
    (∀ v other, rowsOf (s.workers v) = some other → other.case.caseId = rows.case.caseId → v = w) ∧
      ∃ before, run (step d) {} (es.take rows.loadedAt) = some before ∧
        lockedFile rows.case.caseId s.db = lockedFile rows.case.caseId before.db := by
  constructor
  · intro v other theirs same
    exact (locks_exclusive ran).single v w _ (locked_of_rows theirs) (same ▸ locked_of_rows held)
  · refine (run_history (P := fun es s => ∀ w rows, rowsOf (s.workers w) = some rows →
      rows.loadedAt < es.length ∧ ∃ before, run (step d) {} (es.take rows.loadedAt) = some before ∧
        lockedFile rows.case.caseId s.db = lockedFile rows.case.caseId before.db)
      (fun _ _ held => by cases held) ?_ ran w rows held).2
    intro es s e s' ranBefore known stepped w rows held
    rcases rows_of_step stepped held with earlier | ⟨atGate, same⟩
    · obtain ⟨within, before, ranGate, frozen⟩ := known w rows earlier
      refine ⟨by simp only [List.length_append]; omega, before, ?_, ?_⟩
      · rw [List.take_append_of_le_length within.le]
        exact ranGate
      · exact (locked_file_step ranBefore stepped earlier held).trans frozen
    · have counted := run_steps ranBefore
      simp only [zero_add] at counted
      refine ⟨by simp [atGate, counted], s, ?_, by rw [same]⟩
      rw [atGate, counted, List.take_left]
      exact ranBefore

/-- A case that was pushed twice, with two workers: one is past its gate, the other waits there. -/
def contendedRun : List Event :=
  sampleIntake 0 "00000001" 250000 ++
    [.request 0 (.push .failedAfter), .request 0 (.push .delivered), .worker 0 .pop, .worker 0 .load,
     .worker 1 .pop, .worker 1 .load, .worker 0 (.gate 0)]

theorem graph_run_isolated_contended : ∃ s rows before, run (step sampleDeployment) {} contendedRun = some s ∧
    rowsOf (s.workers 0) = some rows ∧
      run (step sampleDeployment) {} (contendedRun.take rows.loadedAt) = some before ∧
        lockedFile rows.case.caseId s.db = lockedFile rows.case.caseId before.db := by
  obtain ⟨s, rows, ran, held⟩ : ∃ s rows, run (step sampleDeployment) {} contendedRun = some s ∧
      rowsOf (s.workers 0) = some rows := ⟨_, _, rfl, rfl⟩
  obtain ⟨_, before, ranGate, frozen⟩ := graph_run_isolated ran held
  exact ⟨s, rows, before, ran, held, ranGate, frozen⟩

/-! ## Waiting -/

/-- A worker with a lock can take its next step, whatever it is answered. -/
theorem locker_enabled (held : lockedBy s w = some caseId) (draws : Draws) :
    ∃ s', step d s (.worker w ((s.workers w).next draws)) = some s' := by
  unfold lockedBy at held
  cases phase : s.workers w with
  | gated | decided | finished =>
    simp only [step, stepWorker, phase, WorkerPhase.next, Option.map_some]
    exact ⟨_, rfl⟩
  | _ => rw [phase] at held; cases held

/-- Every step of a worker that keeps its lock brings it closer to its commit. -/
theorem locker_advances {moved : WorkerEvent} (stepped : WorkerStep d s w moved t)
    (held : lockedBy s w = some caseId) (still : lockedBy t w = some caseId) :
    workerWeight (t.workers w) + 1 ≤ workerWeight (s.workers w) := by
  unfold lockedBy at held still
  cases stepped with
  | pop phase | popLost phase | missing phase | load phase | gate phase | recordFailure phase =>
    rw [phase] at held
    cases held
  | decide phase | finish phase =>
    simp only [set_worker_workers, Function.update_self, phase, workerWeight, le_refl]
  | decideFails | finishFails | persist | persistFails | raise | crash =>
    rw [release_workers, Function.update_self] at still
    cases still

def ofWorker (w : ℕ) : Event → Bool
  | .worker v _ => v = w
  | .request _ _ => false

/-- A lock outlives at most two steps of its holder. -/
theorem lock_given_back (later : run (step d) {} (es ++ fs) = some s')
    (kept : ∀ gs t, gs <+: fs → run (step d) {} (es ++ gs) = some t → lockedBy t w = some caseId) :
    fs.countP (ofWorker w) ≤ 2 := by
  obtain ⟨s, ran⟩ : ∃ s, run (step d) {} es = some s := by
    rw [run_append, Option.bind_eq_some_iff] at later
    exact ⟨later.choose, later.choose_spec.1⟩
  have bounds : ∀ {t}, lockedBy t w = some caseId →
      2 ≤ workerWeight (t.workers w) ∧ workerWeight (t.workers w) ≤ 4 := by
    intro t held
    unfold lockedBy at held
    cases phase : t.workers w with
    | gated | decided | finished => simp [workerWeight]
    | _ => rw [phase] at held; cases held
  have spent : workerWeight (s'.workers w) + fs.countP (ofWorker w) ≤ workerWeight (s.workers w) := by
    induction fs using List.reverseRecOn generalizing s' with
    | nil =>
      rw [List.append_nil, ran] at later
      cases later
      simp
    | append_singleton fs e ih =>
      have all := later
      rw [← List.append_assoc] at later
      obtain ⟨before, ranBefore, stepped⟩ := run_snoc_iff.mp later
      have earlier := ih ranBefore fun gs t inside => kept gs t (inside.trans (List.prefix_append _ _))
      rw [List.countP_append, List.countP_singleton]
      by_cases mine : ofWorker w e = true
      · have held := kept fs before (List.prefix_append _ _) ranBefore
        have still := kept _ s' (List.prefix_refl _) all
        obtain ⟨moved, rfl⟩ : ∃ moved, e = .worker w moved := by
          cases e with
          | request => cases mine
          | worker v moved => exact ⟨moved, by rw [of_decide_eq_true mine]⟩
        cases step_cases stepped with
        | worker moved =>
          have advanced := locker_advances moved held still
          simp only [mine, if_true, tick_workers]
          omega
      · rw [if_neg mine, workers_other stepped fun moved event => mine (by simp [event, ofWorker])]
        omega
  have first := bounds (kept [] s List.nil_prefix (by rw [List.append_nil]; exact ran))
  have last := bounds (kept fs s' (List.prefix_refl _) later)
  omega

/-- A worker that finds its row locked waits for one other worker.  That one can take its next step
whatever it is answered, and keeps the row for at most two of its steps. -/
theorem blocked_waits (ran : run (step d) {} es = some s) (waiting : (s.workers w).waitsFor = some caseId)
    (locked : caseId ∈ s.rowLocks) :
    ∃ v, v ≠ w ∧ (∀ u, lockedBy s u = some caseId ↔ u = v) ∧
      (∀ draws, ∃ s', step d s (.worker v ((s.workers v).next draws)) = some s') ∧
      ∀ fs s', run (step d) {} (es ++ fs) = some s' →
        (∀ gs t, gs <+: fs → run (step d) {} (es ++ gs) = some t → lockedBy t v = some caseId) →
        fs.countP (ofWorker v) ≤ 2 := by
  have exclusive := locks_exclusive ran
  obtain ⟨v, held⟩ := (exclusive.listed caseId).mp locked
  refine ⟨v, ?_, fun u => ⟨fun theirs => exclusive.single u v _ theirs held, ?_⟩, locker_enabled held,
    fun fs s' later kept => lock_given_back later kept⟩
  · rintro rfl
    unfold lockedBy at held
    cases phase : s.workers v with
    | gated | decided | finished => rw [phase] at waiting; cases waiting
    | _ => rw [phase] at held; cases held
  · rintro rfl
    exact held

theorem blocked_waits_contended : ∃ s, run (step sampleDeployment) {} contendedRun = some s ∧
    (s.workers 1).waitsFor = some "REC-00000001" ∧ ∃ v, v ≠ 1 ∧ lockedBy s v = some "REC-00000001" := by
  obtain ⟨s, ran, waiting, locked⟩ : ∃ s, run (step sampleDeployment) {} contendedRun = some s ∧
      (s.workers 1).waitsFor = some "REC-00000001" ∧ "REC-00000001" ∈ s.rowLocks :=
    ⟨_, rfl, rfl, List.mem_singleton_self _⟩
  obtain ⟨v, other, holder, _⟩ := blocked_waits ran waiting locked
  exact ⟨s, ran, waiting, v, other, (holder v).mpr rfl⟩

end RevenueGuard.LockProofs
