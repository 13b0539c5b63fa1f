import RevenueGuard.DeliveryProofs

/-!
The audit rows of a run against the stored actions.  The audit entry of an
execution carries a fresh action identifier, while the row under the run's
idempotency key may be an earlier one: `audits_stored_iff` says that the entry
points at the row with the key exactly when the two agree in the tables the run
commits to.
-/

namespace RevenueGuard.AuditProofs

open Library Library.Raises GraphProofs WorkerProofs DeliveryProofs

variable {d : Deployment} {kind : DatabaseKind} {now : ℤ} {db : Database} {decision : DecisionInputs}
  {clock : PolicyClock} {finish : FinishInputs} {case loaded : RecoveryCase}
  {approval : Option RecoveryApproval} {result : RecoveryState} {caseId : String}

/-- What a run leaves when it commits: its audit rows point at stored actions, its
execution entry at the row with its idempotency key, and its case has not failed. -/
structure AuditsPoint (loaded : RecoveryCase) (result : RecoveryState) (committed : Database) : Prop where
  referred : auditsRefer committed.recoveryActions result.auditTrail = true
  executed : ∀ action ∈ result.actions, ∃ audit ∈ result.auditTrail, audit.actionId = some action.actionId
  keyed : ∀ action ∈ result.actions,
    (∃ r ∈ committed.recoveryActions, r.idempotencyKey = action.idempotencyKey) ∧
      ∀ r ∈ committed.recoveryActions,
        r.idempotencyKey = action.idempotencyKey ↔ r.actionId = action.actionId
  standing : ∀ row ∈ committed.recoveryCases, row.caseId = loaded.caseId → row.status ≠ .failed

/-- The commit is not rejected, and its audit rows point where they should. -/
def AuditsStored (kind : DatabaseKind) (now : ℤ) (loaded : RecoveryCase) (result : RecoveryState)
    (db : Database) : Prop :=
  ∃ committed, persistResult kind now loaded result db = .ok committed ∧ AuditsPoint loaded result committed

/-- The insert of one action: a stored key is left alone, and anything else needs a
new identifier. -/
theorem insert_one {rows rows' : List RecoveryAction} {action : RecoveryAction} :
    insertActions caseId rows [action] = .ok rows' ↔
      ((∃ r ∈ rows, r.idempotencyKey = action.idempotencyKey) ∧ rows' = rows) ∨
        ((∀ r ∈ rows, r.idempotencyKey ≠ action.idempotencyKey ∧ r.actionId ≠ action.actionId) ∧
          rows' = rows ++ [{ action with caseId }]) := by
  by_cases stored : ∃ r ∈ rows, r.idempotencyKey = action.idempotencyKey
  · have found : (rows.any fun r => r.idempotencyKey = action.idempotencyKey) = true := by simpa using stored
    obtain ⟨r, member, key⟩ := stored
    simp only [insertActions, found, ↓reduceIte, Except.ok.injEq]
    constructor
    · rintro rfl
      exact .inl ⟨⟨r, member, key⟩, rfl⟩
    · rintro (⟨_, rfl⟩ | ⟨fresh, _⟩)
      · rfl
      · exact absurd key (fresh r member).1
  · have missing : (rows.any fun r => r.idempotencyKey = action.idempotencyKey) = false := by simpa using stored
    have others : ∀ r ∈ rows, r.idempotencyKey ≠ action.idempotencyKey :=
      fun r member same => stored ⟨r, member, same⟩
    simp only [insertActions, missing, Bool.false_eq_true, ↓reduceIte, stored, false_and, false_or]
    by_cases taken : ∃ r ∈ rows, r.actionId = action.actionId
    · obtain ⟨r, member, same⟩ := taken
      have found : (rows.any fun r => r.actionId = action.actionId) = true := by simpa using ⟨r, member, same⟩
      simp only [found, ↓reduceIte, reduceCtorEq, false_iff, not_and]
      exact fun fresh _ => (fresh r member).2 same
    · have free : (rows.any fun r => r.actionId = action.actionId) = false := by simpa using taken
      have fresh : ∀ r ∈ rows, r.idempotencyKey ≠ action.idempotencyKey ∧ r.actionId ≠ action.actionId :=
        fun r member => ⟨others r member, fun same => taken ⟨r, member, same⟩⟩
      simp only [free, Bool.false_eq_true, ↓reduceIte, Except.ok.injEq]
      exact ⟨fun same => ⟨fresh, same.symm⟩, fun inserted => inserted.2.symm⟩

/-- Key and identifier of an action agree in a table. -/
def KeysAgree (rows : List RecoveryAction) (action : RecoveryAction) : Prop :=
  ∀ r ∈ rows, r.idempotencyKey = action.idempotencyKey ↔ r.actionId = action.actionId

instance (rows : List RecoveryAction) (action : RecoveryAction) : Decidable (KeysAgree rows action) :=
  inferInstanceAs (Decidable (∀ r ∈ rows, _))

/-- An insert leaves the table in agreement exactly if it finds it so. -/
theorem keys_agree_insert {rows rows' : List RecoveryAction} {action : RecoveryAction}
    (inserted : insertActions caseId rows [action] = .ok rows') :
    KeysAgree rows' action ↔ KeysAgree rows action := by
  rcases insert_one.mp inserted with ⟨_, rfl⟩ | ⟨_, rfl⟩
  · exact Iff.rfl
  · simp [KeysAgree, or_imp, forall_and]

/-- Where key and identifier agree, the table takes the action. -/
theorem agreeing_storable {rows : List RecoveryAction} {action : RecoveryAction}
    (agree : KeysAgree rows action) : storable kind rows action = true := by
  unfold storable
  split
  · rename_i stored
    obtain ⟨r, member, key⟩ : ∃ r ∈ rows, r.idempotencyKey = action.idempotencyKey := by simpa using stored
    have found : (rows.any fun r => r.actionId = action.actionId) = true := by
      simpa using ⟨r, member, (agree r member).mp key⟩
    rw [found, Bool.or_true]
  · rename_i missing
    have others : ∀ r ∈ rows, r.idempotencyKey ≠ action.idempotencyKey := by simpa using missing
    simpa using fun r member => mt (agree r member).mpr (others r member)

theorem case_status_standing (result : RecoveryState) : caseStatus result ≠ .failed := by
  unfold caseStatus
  split
  · decide
  · split <;> decide

/-- A committed run leaves its case standing. -/
theorem committed_standing {committed : Database}
    (returned : persistResult kind now loaded result db = .ok committed) :
    ∀ row ∈ committed.recoveryCases, row.caseId = loaded.caseId → row.status ≠ .failed := by
  intro row stored ofCase
  rw [(persist_result_ok returned).recoveryCases] at stored
  rcases Keyed.mem_modify.mp stored with ⟨old, _, _, rfl⟩ | ⟨_, other⟩
  · exact case_status_standing result
  · exact absurd ofCase other

/-- The commit of a run leaves key and identifier of its action in agreement exactly
if it finds them so. -/
theorem keys_agree_persisted {committed : Database} {action : RecoveryAction}
    (ran : (graphRun d decision clock finish case approval).2 = .ok result)
    (returned : persistResult kind now loaded result db = .ok committed) (executed : action ∈ result.actions) :
    KeysAgree committed.recoveryActions action ↔ KeysAgree db.recoveryActions action := by
  have inserted := (persist_result_ok returned).recoveryActions
  rcases (graph_run_audited ran).2 with nothing | ⟨made, one⟩
  · rw [nothing] at executed
    cases executed
  · rw [one] at inserted executed
    rw [List.mem_singleton.mp executed]
    exact keys_agree_insert inserted

/-- The audit rows of a completed run point at stored actions, its execution entry
at the row with its key, exactly if a row with the key of the executed action has
its identifier, and the other way round. -/
theorem audits_stored_iff (ran : (graphRun d decision clock finish case approval).2 = .ok result)
    (approved : ∀ row, approval = some row → row.status = .approved) :
    AuditsStored kind now loaded result db ↔
      ∀ action ∈ result.actions, KeysAgree db.recoveryActions action := by
  obtain ⟨audited, _⟩ := graph_run_audited ran
  constructor
  · rintro ⟨committed, returned, points⟩ action executed
    exact (keys_agree_persisted ran returned executed).mp (points.keyed action executed).2
  · intro agree
    have returns : ∃ committed, persistResult kind now loaded result db = .ok committed :=
      (persist_returns ran approved).mpr fun action executed => agreeing_storable (agree action executed)
    obtain ⟨committed, returned⟩ := returns
    have entry :
        ∀ action ∈ result.actions, ∃ audit ∈ result.auditTrail, audit.actionId = some action.actionId := by
      intro action executed
      have listed : action.actionId ∈ auditedActions result := by
        rw [audited]
        exact List.mem_map_of_mem executed
      exact List.mem_filterMap.mp listed
    have keyed : ∀ action ∈ result.actions,
        (∃ r ∈ committed.recoveryActions, r.idempotencyKey = action.idempotencyKey) ∧
          KeysAgree committed.recoveryActions action := fun action executed =>
      ⟨(insert_actions_keys (persist_result_ok returned).recoveryActions _).mpr
          (.inr (List.mem_map_of_mem executed)),
        (keys_agree_persisted ran returned executed).mpr (agree action executed)⟩
    refine ⟨committed, returned, ?_, entry, keyed, committed_standing returned⟩
    rw [audits_refer_iff]
    intro actionId listed
    have made : actionId ∈ result.actions.map (·.actionId) := audited ▸ listed
    obtain ⟨action, executed, rfl⟩ := List.mem_map.mp made
    obtain ⟨⟨r, stored, key⟩, agreed⟩ := keyed action executed
    exact ⟨r, stored, (agreed r stored).mp key⟩

/-! ## A deferral, once and twice -/

/-- The treatment case, before any run of it. -/
def treatmentStored : Database := { recoveryCases := [sampleCase "REC-00000007" 250000] }

/-- The tables after a run that found the circuit open. -/
def deferredOnce : Database :=
  processCase sampleDeployment (sampleDecision .open "stop") (sampleVisit 1788501600000000 "action-1")
    "REC-00000007" treatmentStored

theorem audits_stored_first : ∃ result,
    (graphRun sampleDeployment (sampleDecision .open "stop") (sampleClock 1788501600000000)
      (sampleFinish 1788501600000000 "action-1") (sampleCase "REC-00000007" 250000) none).2 = .ok result ∧
      result.actions.length = 1 ∧
      AuditsStored .postgresql 1788501600000000 (sampleCase "REC-00000007" 250000) result treatmentStored := by
  obtain ⟨result, ran, one⟩ : ∃ result,
      (graphRun sampleDeployment (sampleDecision .open "stop") (sampleClock 1788501600000000)
        (sampleFinish 1788501600000000 "action-1") (sampleCase "REC-00000007" 250000) none).2 = .ok result ∧
      result.actions.length = 1 := ⟨_, rfl, rfl⟩
  refine ⟨result, ran, one, (audits_stored_iff ran fun _ loaded => by cases loaded).mpr ?_⟩
  intro action _ r stored
  cases stored

/-- The second deferral of a case at one retry count keeps the row of the first, and
its audit entry points at no action. -/
theorem second_deferral_unreferred :
    ¬ ∀ (d : Deployment) decision clock finish case approval result kind now db,
    (graphRun d decision clock finish case approval).2 = .ok result →
      (∀ row, approval = some row → row.status = .approved) → AuditsStored kind now case result db := by
  intro stored
  obtain ⟨result, ran, keys⟩ : ∃ result,
      (graphRun sampleDeployment (sampleDecision .open "stop") (sampleClock 1788505200000000)
        (sampleFinish 1788505200000000 "action-2") (sampleCase "REC-00000007" 250000) none).2 = .ok result ∧
      ¬ ∀ action ∈ result.actions, KeysAgree deferredOnce.recoveryActions action := ⟨_, rfl, by decide⟩
  obtain ⟨committed, returned, points⟩ := stored _ _ _ _ _ _ _ .sqlite 1788505200000000 deferredOnce ran
    fun _ loaded => by cases loaded
  exact keys fun action executed =>
    (keys_agree_persisted ran returned executed).mp (points.keyed action executed).2

end RevenueGuard.AuditProofs
