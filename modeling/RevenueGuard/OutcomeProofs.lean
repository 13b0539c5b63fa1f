import RevenueGuard.AuditProofs

/-!
What a committed run leaves behind.  The status of the case, the action rows and the
approval rows come from three fields of the final state.  `run_course` reads the three
off the graph; `outcome_trichotomy` says that the committed tables show exactly one of
a pending approval, an executed action and a stop.
-/

namespace RevenueGuard.OutcomeProofs

open Library Library.Runs Library.Raises GraphProofs WorkerProofs SystemProofs TableProofs DeliveryProofs
  AuditProofs

variable {d : Deployment} {s s' : System} {e : Event} {es : List Event} {w v : ℕ} {now : ℤ} {kind : DatabaseKind}
  {caseId : String} {rows : LoadedRows} {loaded : RecoveryCase} {result : RecoveryState} {db db' : Database}

/-! ## The three outcomes -/

def ExactlyOne (p q r : Prop) : Prop := (p ∧ ¬q ∧ ¬r) ∨ (¬p ∧ q ∧ ¬r) ∨ (¬p ∧ ¬q ∧ r)

/-- The committed status of a case. -/
def statusOf (caseId : String) (db : Database) : Option EventStatus :=
  (Keyed.find (·.caseId) caseId db.recoveryCases).map (·.status)

/-- The run asks for an approval of its proposal, and does nothing else. -/
structure ApprovalPending (loaded : RecoveryCase) (result : RecoveryState) (db db' : Database) : Prop where
  asked : ∃ row, db'.recoveryApprovals = db.recoveryApprovals ++ [row] ∧ row.caseId = loaded.caseId ∧
    row.status = .pending ∧ result.action = some row.requestedAction
  idle : result.actions = []
  status : statusOf loaded.caseId db' = some .escalated

/-- What a row of `recovery_actions` has in common with its key. -/
structure OfKey (row : RecoveryAction) : Prop where
  caseId : row.idempotencyKey.caseId = row.caseId
  actionType : row.idempotencyKey.actionType = row.actionType
  channel : row.idempotencyKey.channel = row.channel

/-- The run executes one action, whose key one row has.  The action is what `_execute` makes of the
strategy.  Its row is stored by this run, or was stored by an earlier one for the same case, type
and channel, and is left as it was. -/
structure Executed (loaded : RecoveryCase) (result : RecoveryState) (db db' : Database) : Prop where
  action : ∃ action, result.actions = [action] ∧ action.actionType ≠ .stop ∧
    db'.recoveryActions.countP (fun r => r.idempotencyKey = action.idempotencyKey) = 1 ∧
    statusOf loaded.caseId db' = some (if action.actionType = .escalateHuman then .escalated else .executing)
  made : ∀ action ∈ result.actions, ∃ execution, ActionOf execution result action
  recorded : ∀ action ∈ result.actions, ∀ row ∈ db'.recoveryActions, row.idempotencyKey = action.idempotencyKey →
    row.caseId = loaded.caseId ∧ row.actionType = action.actionType ∧ row.channel = action.channel ∧
      (row ∈ db.recoveryActions ∨ row = { action with caseId := loaded.caseId })
  unasked : db'.recoveryApprovals = db.recoveryApprovals

/-- The run leaves the case alone from now on. -/
structure Stopped (loaded : RecoveryCase) (result : RecoveryState) (db db' : Database) : Prop where
  idle : result.actions = []
  unasked : db'.recoveryApprovals = db.recoveryApprovals
  status : statusOf loaded.caseId db' = some .stopped

theorem pending_alone (pending : ApprovalPending loaded result db db') :
    ExactlyOne (ApprovalPending loaded result db db') (Executed loaded result db db')
      (Stopped loaded result db db') := by
  refine .inl ⟨pending, ?_, ?_⟩
  · intro executed
    obtain ⟨action, one, _⟩ := executed.action
    rw [pending.idle] at one
    cases one
  · intro stopped
    cases pending.status.symm.trans stopped.status

theorem executed_alone (executed : Executed loaded result db db') :
    ExactlyOne (ApprovalPending loaded result db db') (Executed loaded result db db')
      (Stopped loaded result db db') := by
  obtain ⟨action, one, _⟩ := executed.action
  refine .inr (.inl ⟨?_, executed, ?_⟩)
  · intro pending
    rw [pending.idle] at one
    cases one
  · intro stopped
    rw [stopped.idle] at one
    cases one

theorem stopped_alone (stopped : Stopped loaded result db db') :
    ExactlyOne (ApprovalPending loaded result db db') (Executed loaded result db db')
      (Stopped loaded result db db') := by
  refine .inr (.inr ⟨?_, ?_, stopped⟩)
  · intro pending
    cases pending.status.symm.trans stopped.status
  · intro executed
    obtain ⟨action, one, _⟩ := executed.action
    rw [stopped.idle] at one
    cases one

/-! ## The course of a graph run -/

/-- What the three fields say at the end of a graph run. -/
inductive Course (finish : FinishInputs) (result : RecoveryState) : Prop where
  | pending (record : ApprovalRecord) : result.approvalStatus = some .pending →
      result.approvalRecord = some (.requested record) → record.approvalId = finish.approvalId →
      result.action = some record.requestedAction → result.actions = [] → Course finish result
  | stopped : result.approvalStatus ≠ some .pending →
      (∀ record, result.approvalRecord ≠ some (.requested record)) →
      result.action = some .stop → result.actions = [] → Course finish result
  | executed (action : RecoveryAction) : result.approvalStatus ≠ some .pending →
      (∀ record, result.approvalRecord ≠ some (.requested record)) →
      result.action = some action.actionType → action.actionType ≠ .stop → result.actions = [action] →
      ActionOf finish.execution result action → Course finish result

theorem run_course {decision : DecisionInputs} {clock : PolicyClock} {finish : FinishInputs}
    {case : RecoveryCase} {approval : Option RecoveryApproval}
    (ran : (graphRun d decision clock finish case approval).2 = .ok result)
    (approved : ∀ row, approval = some row → row.status = .approved) : Course finish result := by
  obtain ⟨s, proposed, built, ranPropose, finished⟩ := graph_run_ok ran
  have rebuilt := rebuilt_from built ranPropose
  have unasked := unasked_rebuilt rebuilt approved
  obtain ⟨strategy, proposes⟩ := propose_strategy ranPropose
  -- The checked state has a strategy, no actions and at most a loaded approval.
  obtain ⟨actionType, examined⟩ : ∃ actionType,
      (policyCheckNode d.settings clock proposed).action = some actionType := by
    rcases policy_check_node_cases d.settings clock proposed with ⟨_, stops, _⟩ | ⟨_, same, _⟩
    · exact ⟨_, stops⟩
    · exact ⟨strategy.actionType, by rw [RecoveryState.action, same, proposes]; rfl⟩
  have idle : (policyCheckNode d.settings clock proposed).actions = [] := by
    rw [policy_check_actions, rebuilt.actions]
  have status : (policyCheckNode d.settings clock proposed).approvalStatus ≠ some .pending := by
    rw [policy_check_approval_status]
    exact unasked
  have unrequested (record : ApprovalRecord) :
      (policyCheckNode d.settings clock proposed).approvalRecord ≠ some (.requested record) := by
    obtain ⟨_, _, _, frame⟩ := policy_check_node_frame d.settings clock proposed
    rw [frame, rebuilt.approvalRecord]
    cases approval <;> simp [approvalState]
  cases finished with
  | @pending record _ _ drawn _ requested =>
    rw [examined] at requested
    refine .pending record rfl rfl drawn ?_ idle
    rw [requested]
    exact examined
  | stopped route =>
    have stops := (route_stop.mp route).2
    rw [examined, Option.getD_some] at stops
    rw [stops] at examined
    exact .stopped status unrequested examined idle
  | @executed action _ route _ made =>
    obtain ⟨_, moved, moves, notStop⟩ := route_execute.mp route
    have same : action.actionType = moved := by rw [made.actionType, moves]; rfl
    refine .executed action status unrequested ?_ (same ▸ notStop) ?_ ?_
    · rw [same]
      exact moves
    · simp only [logAudit, idle, List.nil_append]
    · obtain ⟨actionId, caseId, actionType, channel, key, outcome⟩ := made
      exact ⟨actionId, caseId, actionType, channel, key, outcome⟩

/-! ## The commit -/

theorem status_committed (known : ∃ case ∈ db.recoveryCases, case.caseId = loaded.caseId)
    (committed : persistResult kind now loaded result db = .ok db') :
    statusOf loaded.caseId db' = some (caseStatus result) := by
  obtain ⟨case, stored, ofCase⟩ := known
  rw [statusOf, (persist_result_ok committed).recoveryCases, find_update]
  cases found : Keyed.find (·.caseId) loaded.caseId db.recoveryCases with
  | none => exact (Keyed.find_none.mp found case stored ofCase).elim
  | some current => rfl

theorem unasked_committed (unasked : result.approvalStatus ≠ some .pending)
    (committed : persistResult kind now loaded result db = .ok db') :
    db'.recoveryApprovals = db.recoveryApprovals := by
  rcases insert_approval_ok (persist_result_ok committed).recoveryApprovals with same | ⟨_, pending, _⟩
  · exact same
  · exact (unasked pending).elim

/-- A key is in one row after the insert of its action. -/
theorem one_row (unique : (db.recoveryActions.map (·.idempotencyKey)).Nodup) {action : RecoveryAction}
    (one : result.actions = [action]) (committed : persistResult kind now loaded result db = .ok db') :
    db'.recoveryActions.countP (fun r => r.idempotencyKey = action.idempotencyKey) = 1 := by
  have counted (rows : List RecoveryAction) :
      rows.countP (fun r => r.idempotencyKey = action.idempotencyKey) =
        (rows.map (·.idempotencyKey)).count action.idempotencyKey := by
    rw [List.count, List.countP_map]
    exact List.countP_congr fun r _ => by simp
  have inserted := (persist_result_ok committed).recoveryActions
  rw [one] at inserted
  rcases insert_one.mp inserted with ⟨⟨r, stored, same⟩, kept⟩ | ⟨fresh, grown⟩
  · rw [kept, counted]
    exact List.count_eq_one_of_mem unique (List.mem_map.mpr ⟨r, stored, same⟩)
  · have absent : action.idempotencyKey ∉ db.recoveryActions.map (·.idempotencyKey) := by
      intro listed
      obtain ⟨r, stored, same⟩ := List.mem_map.mp listed
      exact (fresh r stored).1 same
    rw [grown, counted, List.map_append, List.count_append, List.count_eq_zero_of_not_mem absent]
    simp

/-- The row with the key of a run's action is one for the same case, type and channel. -/
theorem row_recorded {action row : RecoveryAction} (keyed : ∀ row ∈ db.recoveryActions, OfKey row)
    (mine : OfKey { action with caseId := loaded.caseId }) (one : result.actions = [action])
    (committed : persistResult kind now loaded result db = .ok db') (stored : row ∈ db'.recoveryActions)
    (same : row.idempotencyKey = action.idempotencyKey) :
    row.caseId = loaded.caseId ∧ row.actionType = action.actionType ∧ row.channel = action.channel ∧
      (row ∈ db.recoveryActions ∨ row = { action with caseId := loaded.caseId }) := by
  have known (earlier : row ∈ db.recoveryActions) :
      row.caseId = loaded.caseId ∧ row.actionType = action.actionType ∧ row.channel = action.channel := by
    obtain ⟨caseId, actionType, channel⟩ := keyed row earlier
    rw [same] at caseId actionType channel
    exact ⟨caseId.symm.trans mine.caseId, actionType.symm.trans mine.actionType, channel.symm.trans mine.channel⟩
  have inserted := (persist_result_ok committed).recoveryActions
  rw [one] at inserted
  rcases insert_one.mp inserted with ⟨_, kept⟩ | ⟨_, grown⟩
  · have earlier := kept ▸ stored
    obtain ⟨caseId, actionType, channel⟩ := known earlier
    exact ⟨caseId, actionType, channel, .inl earlier⟩
  · rcases List.mem_append.mp (grown ▸ stored) with earlier | new
    · obtain ⟨caseId, actionType, channel⟩ := known earlier
      exact ⟨caseId, actionType, channel, .inl earlier⟩
    · cases List.mem_singleton.mp new
      exact ⟨rfl, rfl, rfl, .inr rfl⟩

/-- A run that is committed to tables with unique keys, and asks under an identifier that
they do not have, comes to exactly one of the three outcomes. -/
theorem committed_outcome {finish : FinishInputs} (course : Course finish result)
    (known : ∃ case ∈ db.recoveryCases, case.caseId = loaded.caseId)
    (unique : (db.recoveryActions.map (·.idempotencyKey)).Nodup) (keyed : ∀ row ∈ db.recoveryActions, OfKey row)
    (mine : ∀ action ∈ result.actions, OfKey { action with caseId := loaded.caseId })
    (fresh : ∀ record, result.approvalRecord = some (.requested record) →
      ∀ row ∈ db.recoveryApprovals, row.approvalId ≠ record.approvalId)
    (committed : persistResult kind now loaded result db = .ok db') :
    ExactlyOne (ApprovalPending loaded result db db') (Executed loaded result db db')
      (Stopped loaded result db db') := by
  have status := status_committed known committed
  cases course with
  | pending record pending requested _ proposes idle =>
    have new : db.recoveryApprovals.any (fun r => r.approvalId = record.approvalId) = false := by
      simpa using fresh record requested
    have inserted := (persist_result_ok committed).recoveryApprovals
    simp only [insertApproval, pending, requested, new, ↓reduceIte, Bool.false_eq_true] at inserted
    refine pending_alone ⟨⟨pendingApproval loaded.caseId record, ?_, rfl, rfl, proposes⟩, idle, ?_⟩
    · exact (Except.ok.inj inserted).symm
    · rw [status, caseStatus, if_pos pending]
  | stopped unasked _ stops idle =>
    refine stopped_alone ⟨idle, unasked_committed unasked committed, ?_⟩
    rw [status, caseStatus, if_neg unasked, stops]
  | executed action unasked _ moves notStop one made =>
    have moved : statusOf loaded.caseId db' =
        some (if action.actionType = .escalateHuman then .escalated else .executing) := by
      rw [status, caseStatus, if_neg unasked, moves]
      cases kind : action.actionType with
      | stop => exact (notStop kind).elim
      | _ => rfl
    have only : ∀ other ∈ result.actions, other = action := by
      intro other executed
      exact List.mem_singleton.mp (one ▸ executed)
    refine executed_alone
      { action := ⟨action, one, notStop, one_row unique one committed, moved⟩
        made := fun other executed => only other executed ▸ ⟨finish.execution, made⟩
        recorded := fun other executed row stored same => ?_
        unasked := unasked_committed unasked committed }
    cases only other executed
    exact row_recorded keyed (mine action executed) one committed stored same

/-! ## Keys and identifiers -/

/-- The unique constraint of `recovery_actions.idempotency_key`, in every reached state. -/
theorem idempotency_keys_unique (ran : run (step d) {} es = some s) :
    (s.db.recoveryActions.map (·.idempotencyKey)).Nodup := by
  refine run_history (P := fun _ s => (s.db.recoveryActions.map (·.idempotencyKey)).Nodup)
    List.nodup_nil ?_ ran
  intro es s e s' ranBefore unique stepped
  rcases recovery_actions_step stepped with same | ⟨w, rows, result, now, _, phase, committed⟩
  · rw [same]
    exact unique
  · have recorded := runs_recorded ranBefore w
    rw [phase] at recorded
    obtain ⟨x, _, rfl, finished⟩ := recorded
    have inserted := (persist_result_ok committed).recoveryActions
    rcases (graph_run_audited finished).2 with nothing | ⟨action, one⟩
    · rw [nothing] at inserted
      rw [← Except.ok.inj inserted]
      exact unique
    · rw [one] at inserted
      rcases insert_one.mp inserted with ⟨_, kept⟩ | ⟨fresh, grown⟩
      · rw [kept]
        exact unique
      · rw [grown]
        exact Keyed.nodup_insert unique fun r stored => (fresh r stored).1

theorem mem_insert_actions {rows rows' actions : List RecoveryAction} {r : RecoveryAction}
    (inserted : insertActions caseId rows actions = .ok rows') (listed : r ∈ rows') :
    r ∈ rows ∨ ∃ action ∈ actions, r = { action with caseId } := by
  induction actions generalizing rows with
  | nil =>
    cases inserted
    exact .inl listed
  | cons action rest ih =>
    simp only [insertActions] at inserted
    split at inserted
    · rcases ih inserted with known | ⟨later, member, made⟩
      · exact .inl known
      · exact .inr ⟨later, List.mem_cons_of_mem _ member, made⟩
    · split at inserted
      · cases inserted
      · rcases ih inserted with known | ⟨later, member, made⟩
        · rcases List.mem_append.mp known with earlier | new
          · exact .inl earlier
          · exact .inr ⟨action, List.mem_cons_self, List.mem_singleton.mp new⟩
        · exact .inr ⟨later, List.mem_cons_of_mem _ member, made⟩

/-- The action of a run has a key of its case, its type and its channel. -/
theorem executed_of_key {decision : DecisionInputs} {clock : PolicyClock} {finish : FinishInputs}
    {case : RecoveryCase} {approval : Option RecoveryApproval} {action : RecoveryAction}
    (ran : (graphRun d decision clock finish case approval).2 = .ok result)
    (executed : action ∈ result.actions) :
    OfKey { action with caseId := case.caseId } := by
  obtain ⟨_, _, _, _, _, made⟩ := executed_from ran executed
  have own := executed_own_key ran executed
  exact ⟨own, by rw [made.idempotencyKey]; rfl, by rw [made.idempotencyKey]; rfl⟩

/-- Every stored action has a key of its case, its type and its channel. -/
theorem rows_of_keys (ran : run (step d) {} es = some s) : ∀ row ∈ s.db.recoveryActions, OfKey row := by
  refine run_history (P := fun _ s => ∀ row ∈ s.db.recoveryActions, OfKey row) (fun _ listed => by cases listed)
    ?_ ran
  intro es s e s' ranBefore keyed stepped row listed
  rcases recovery_actions_step stepped with same | ⟨w, rows, result, now, _, phase, committed⟩
  · exact keyed row (same ▸ listed)
  · have recorded := runs_recorded ranBefore w
    rw [phase] at recorded
    obtain ⟨x, _, rfl, finished⟩ := recorded
    rcases mem_insert_actions (persist_result_ok committed).recoveryActions listed with
      known | ⟨action, executed, rfl⟩
    · exact keyed row known
    · exact executed_of_key finished executed

/-- The identifier that `request_approval_node` draws in a run, should it come to that.  The node
keeps 48 bits of a `uuid4`, so that no draw repeats only by the odds. -/
def drawnApprovalId : Event → Option String
  | .worker _ (.finish inputs) => some inputs.approvalId
  | _ => none

/-- The identifier under which a finished run asks for an approval. -/
def askedUnder : WorkerPhase → Option String
  | .finished _ result =>
    match result.approvalRecord with
    | some (.requested record) => some record.approvalId
    | _ => none
  | _ => none

/-- Stored requests and those about to be stored have identifiers of their own. -/
structure IdentifiersApart (es : List Event) (s : System) : Prop where
  stored : ∀ row ∈ s.db.recoveryApprovals, row.approvalId ∈ es.filterMap drawnApprovalId
  asked : ∀ w, ∀ id ∈ askedUnder (s.workers w), id ∈ es.filterMap drawnApprovalId ∧
    ∀ row ∈ s.db.recoveryApprovals, row.approvalId ≠ id
  apart : ∀ w v, ∀ id ∈ askedUnder (s.workers w), id ∈ askedUnder (s.workers v) → w = v

/-- A finished run asks under the identifier it has drawn. -/
theorem asked_step {id : String} (ran : run (step d) {} es = some s) (stepped : step d s e = some s')
    (asks : id ∈ askedUnder (s'.workers v)) :
    id ∈ askedUnder (s.workers v) ∨ ∃ inputs, e = .worker v (.finish inputs) ∧ id = inputs.approvalId := by
  cases step_cases stepped with
  | request moved => cases moved <;> exact .inl asks
  | @worker w _ _ moved =>
    by_cases same : v = w
    · subst same
      cases moved with
      | popLost => exact .inl asks
      | @finish rows decision clock state finish result phase finished =>
        refine .inr ⟨finish, rfl, ?_⟩
        have decided := runs_recorded ran v
        rw [phase] at decided
        have approved := loaded_approved ran (.inl ⟨v, by rw [phase]; rfl⟩ : RowsIn s rows)
        have outcome : ((⟨rows, decision, clock, finish⟩ : GraphRun).outcome d).2 = .ok result := by
          rw [decided_outcome decided]
          exact finished
        simp only [tick_workers, set_worker_workers, Function.update_self, askedUnder] at asks
        cases run_course outcome approved with
        | pending record _ requested drawn =>
          rw [requested] at asks
          exact (Option.some.inj asks).symm.trans drawn
        | stopped _ unrequested | executed _ _ unrequested =>
          split at asks
          · rename_i record requested
            exact (unrequested record requested).elim
          · cases asks
      | _ => simp [askedUnder] at asks
    · left
      cases moved with
      | popLost => exact asks
      | _ => simpa [Function.update_of_ne same] using asks

/-- A stored request was stored before, or is the one that a worker has just committed. -/
theorem stored_step {row : RecoveryApproval} (stepped : step d s e = some s')
    (stored : row ∈ s'.db.recoveryApprovals) :
    (∃ known ∈ s.db.recoveryApprovals, known.approvalId = row.approvalId) ∨
      ∃ w, row.approvalId ∈ askedUnder (s.workers w) ∧ askedUnder (s'.workers w) = none := by
  rcases recovery_approvals_step stepped with same | ⟨_, _, loaded, _, _, _, _, decided⟩ |
    ⟨w, _, _, _, _, phase, idle, committed⟩
  · exact .inl ⟨row, same ▸ stored, rfl⟩
  · rw [decided] at stored
    rcases Keyed.mem_modify.mp stored with ⟨known, member, _, rfl⟩ | ⟨member, _⟩
    · exact .inl ⟨known, member, rfl⟩
    · exact .inl ⟨row, member, rfl⟩
  · rcases insert_approval_ok (persist_result_ok committed).recoveryApprovals with
      same | ⟨record, _, requested, _, grown⟩
    · exact .inl ⟨row, same ▸ stored, rfl⟩
    · rw [grown] at stored
      rcases List.mem_append.mp stored with known | new
      · exact .inl ⟨row, known, rfl⟩
      · refine .inr ⟨w, ?_, by rw [idle, Function.update_self]; rfl⟩
        rw [List.mem_singleton.mp new, phase]
        simp only [askedUnder, requested]
        rfl

theorem identifiers_step (ran : run (step d) {} es = some s) (before : IdentifiersApart es s)
    (draws : ((es ++ [e]).filterMap drawnApprovalId).Nodup) (stepped : step d s e = some s') :
    IdentifiersApart (es ++ [e]) s' := by
  have grows (id : String) (drawn : id ∈ es.filterMap drawnApprovalId) :
      id ∈ (es ++ [e]).filterMap drawnApprovalId := by
    rw [List.filterMap_append]
    exact List.mem_append_left _ drawn
  -- What this step draws was not drawn before.
  have new {v : ℕ} {inputs : FinishInputs} (draw : e = .worker v (.finish inputs)) :
      inputs.approvalId ∉ es.filterMap drawnApprovalId ∧
        inputs.approvalId ∈ (es ++ [e]).filterMap drawnApprovalId := by
    subst draw
    rw [List.filterMap_append] at draws ⊢
    have apart := (List.nodup_append.mp draws).2.2
    refine ⟨fun drawn => apart _ drawn _ (by simp [drawnApprovalId]) rfl, ?_⟩
    exact List.mem_append_right _ (by simp [drawnApprovalId])
  constructor
  · intro row stored
    rcases stored_step stepped stored with ⟨known, member, same⟩ | ⟨w, asked, _⟩
    · exact grows _ (same ▸ before.stored known member)
    · exact grows _ (before.asked w _ asked).1
  · intro v id asks
    rcases asked_step ran stepped asks with earlier | ⟨inputs, draw, rfl⟩
    · refine ⟨grows _ (before.asked v id earlier).1, ?_⟩
      rintro row stored rfl
      rcases stored_step stepped stored with ⟨known, member, same⟩ | ⟨w, asked, idle⟩
      · exact (before.asked v _ earlier).2 known member same
      · rw [← before.apart w v _ asked earlier, idle] at asks
        cases asks
    · refine ⟨(new draw).2, ?_⟩
      intro row stored same
      have drawn : row.approvalId ∈ es.filterMap drawnApprovalId := by
        rcases stored_step stepped stored with ⟨known, member, ofRow⟩ | ⟨w, asked, _⟩
        · exact ofRow ▸ before.stored known member
        · exact (before.asked w _ asked).1
      exact (new draw).1 (same ▸ drawn)
  · intro v u id asks asksToo
    rcases asked_step ran stepped asks with earlier | ⟨inputs, draw, rfl⟩
    · rcases asked_step ran stepped asksToo with earlierToo | ⟨inputs, draw, rfl⟩
      · exact before.apart v u id earlier earlierToo
      · exact ((new draw).1 (before.asked v _ earlier).1).elim
    · rcases asked_step ran stepped asksToo with earlier | ⟨_, drawToo, _⟩
      · exact ((new draw).1 (before.asked u _ earlier).1).elim
      · cases draw.symm.trans drawToo
        rfl

theorem identifiers_apart (draws : (es.filterMap drawnApprovalId).Nodup)
    (ran : run (step d) {} es = some s) : IdentifiersApart es s := by
  refine run_history (P := fun es s => (es.filterMap drawnApprovalId).Nodup → IdentifiersApart es s)
    (fun _ => ?_) ?_ ran draws
  · exact ⟨fun _ stored => (by cases stored), fun _ _ asks => (by cases asks), fun _ _ _ asks => (by cases asks)⟩
  · intro es s e s' ranBefore apart stepped draws
    have earlier : (es.filterMap drawnApprovalId).Nodup := by
      rw [List.filterMap_append] at draws
      exact (List.nodup_append.mp draws).1
    exact identifiers_step ranBefore (apart earlier) draws stepped

/-! ## Every committed run -/

/-- Where no identifier of an approval is drawn twice, every committed run comes to exactly
one of the three outcomes. -/
theorem outcome_trichotomy (draws : (es.filterMap drawnApprovalId).Nodup) (ran : run (step d) {} es = some s)
    (phase : s.workers w = .finished rows result)
    (committed : persistResult d.database now rows.case result s.db = .ok db') :
    ExactlyOne (ApprovalPending rows.case result s.db db') (Executed rows.case result s.db db')
      (Stopped rows.case result s.db db') := by
  have recorded := runs_recorded ran w
  rw [phase] at recorded
  obtain ⟨x, _, rfl, finished⟩ := recorded
  have approved := loaded_approved ran (.inl ⟨w, by rw [phase]; rfl⟩ : RowsIn s x.rows)
  have known := worked_stored ran w x.rows.case (by rw [phase]; rfl)
  refine committed_outcome (run_course finished approved) known (idempotency_keys_unique ran) (rows_of_keys ran)
    (fun _ executed => executed_of_key finished executed) ?_ committed
  intro record requested row stored
  have asks : record.approvalId ∈ askedUnder (s.workers w) := by
    rw [phase]
    simp only [askedUnder, requested]
    rfl
  exact ((identifiers_apart draws ran).asked w _ asks).2 row stored

/-- A high-value case up to the end of its graph run. -/
def askingRun : List Event :=
  sampleIntake 0 "00000007" 7500000 ++ [.request 0 (.push .delivered)] ++
    (sampleProcess 0 "payment_link" 1788501600000000 "action-1").dropLast

theorem outcome_trichotomy_asking : ∃ s rows result db', run (step sampleDeployment) {} askingRun = some s ∧
    s.workers 0 = .finished rows result ∧ db'.recoveryApprovals.length = 1 ∧
    ExactlyOne (ApprovalPending rows.case result s.db db') (Executed rows.case result s.db db')
      (Stopped rows.case result s.db db') := by
  obtain ⟨s, ran, rows, result, phase, db', committed, one⟩ : ∃ s,
      run (step sampleDeployment) {} askingRun = some s ∧ ∃ rows result, s.workers 0 = .finished rows result ∧
        ∃ db', persistResult .sqlite 1788501600000000 rows.case result s.db = .ok db' ∧
          db'.recoveryApprovals.length = 1 := ⟨_, rfl, _, _, rfl, _, rfl, rfl⟩
  have draws : (askingRun.filterMap drawnApprovalId).Nodup := by decide
  exact ⟨s, rows, result, db', ran, phase, one, outcome_trichotomy draws ran phase committed⟩

end RevenueGuard.OutcomeProofs
