import RevenueGuard.AuditProofs
import RevenueGuard.CaseQueries

/-!
The timeline of a case against what happened.  Rows are merged by `created_at`, which the
insert fills in; the actions of a run are inserted before its audit rows, and stand before
them where the readings are the same.  So the timeline is in order exactly if every row was
stamped in time, and an action that was executed never was.
-/

namespace RevenueGuard.TimelineProofs

open Library Datetimes StableSort Raises GraphProofs WorkerProofs AuditProofs

variable {d : Deployment} {caseId : String} {case : RecoveryCase} {actions : List StampedAction}
  {audits : List StampedAudit} {runs : List CaseRun} {run : CaseRun}

/-- The rows behind the items of a timeline. -/
inductive Row where
  | created (case : RecoveryCase)
  | action (row : StampedAction)
  | audit (row : StampedAudit)

namespace Row

def item : Row → TimelineItem
  | created case => .caseCreated (iso (Timestamp.ofInstant? case.createdAt))
  | action row => row.item
  | audit row => row.item

/-- What the sort compares. -/
def text (row : Row) : List Char := row.item.instant.getD []

/-- `created_at`. -/
def time : Row → ℤ
  | created case => case.createdAt
  | action row => row.stamp
  | audit row => row.stamp

/-- The one happened before the other: in an earlier run, or in the same run as an earlier
step, of which `policy_check` is before the action. -/
def HappenedBefore : Row → Row → Prop
  | action x, action y => x.run < y.run
  | action x, audit y => x.run < y.run
  | audit x, action y => x.run < y.run ∨ x.run = y.run ∧ x.audit.step = "policy_check"
  | audit x, audit y => x.run < y.run ∨ x.run = y.run ∧ x.position < y.position
  | _, _ => False

/-- The merge lists the one before the other, or shows the same of both. -/
def ShownBefore (x y : Row) : Prop :=
  x.time < y.time ∨ (x.time = y.time ∧ ∃ row row', x = action row ∧ y = audit row') ∨ x.item = y.item

end Row

open Row

/-- The rows of a case in the order in which `_timeline` takes them. -/
def rows (case : RecoveryCase) (actions : List StampedAction) (audits : List StampedAudit) : List Row :=
  created case :: (actions.map action ++ audits.map audit)

/-- The rows in the order of the timeline. -/
def timelineRows (case : RecoveryCase) (actions : List StampedAction) (audits : List StampedAudit) : List Row :=
  sortedBy text (rows case actions audits)

/-- The items of a timeline are what it shows of the rows. -/
theorem timeline_rows (case : RecoveryCase) (actions : List StampedAction) (audits : List StampedAudit) :
    timeline case actions audits = (timelineRows case actions audits).map item := by
  have items : (rows case actions audits).map item =
      .caseCreated (iso (Timestamp.ofInstant? case.createdAt)) ::
        (actions.map StampedAction.item ++ audits.map StampedAudit.item) := by
    rw [rows, List.map_cons, List.map_append, List.map_map, List.map_map]
    rfl
  rw [timeline, ← items]
  exact (map_sorted_by item _ _).symm

/-- No row is listed before one that happened before it, unless the two show the same. -/
def InOrder (case : RecoveryCase) (actions : List StampedAction) (audits : List StampedAudit) : Prop :=
  (timelineRows case actions audits).Pairwise fun x y => HappenedBefore y x → x.item = y.item

/-! ## The merge -/

/-- The texts of stamped rows are in the order of the stamps. -/
theorem text_lt_iff {x y : Row} (happened : HappenedBefore x y) :
    (x.text < y.text ↔ x.time < y.time) ∧ (y.text < x.text ↔ y.time < x.time) := by
  cases x <;> cases y <;>
    first | exact happened.elim | exact ⟨Timestamp.iso_text_lt_iff, Timestamp.iso_text_lt_iff⟩

theorem happened_apart {x y : Row} (happened : HappenedBefore x y) : x ≠ y := by
  rintro rfl
  cases x <;> simp [HappenedBefore] at happened

/-- The actions are taken before the audit rows. -/
theorem rows_came (case : RecoveryCase) (actions : List StampedAction) (audits : List StampedAudit) :
    (rows case actions audits).Pairwise fun x y => ∀ row row', x = audit row → y ≠ action row' := by
  refine List.pairwise_cons.mpr ⟨?_, List.pairwise_append.mpr ⟨?_, ?_, ?_⟩⟩
  · intro _ _ _ _ same
    cases same
  · refine List.pairwise_of_forall_mem_list fun x listed _ _ row _ same => ?_
    obtain ⟨_, _, rfl⟩ := List.mem_map.mp listed
    cases same
  · refine List.pairwise_of_forall_mem_list fun _ _ y listed _ row' _ same => ?_
    obtain ⟨_, _, rfl⟩ := List.mem_map.mp listed
    cases same
  · intro x listed _ _ _ _ same
    obtain ⟨_, _, rfl⟩ := List.mem_map.mp listed
    cases same

theorem timeline_rows_sorted (case : RecoveryCase) (actions : List StampedAction) (audits : List StampedAudit) :
    (timelineRows case actions audits).Pairwise fun x y =>
      x.text < y.text ∨ x.text = y.text ∧ ∀ row row', x = audit row → y ≠ action row' :=
  sorted_by_stable (rows_came case actions audits)

/-- Rows that are stamped in time are in order, whatever the orders of the queries. -/
theorem in_order_of_shown (shown : ∀ x ∈ rows case actions audits, ∀ y ∈ rows case actions audits,
    HappenedBefore x y → ShownBefore x y) : InOrder case actions audits := by
  refine (timeline_rows_sorted case actions audits).imp_of_mem fun {y x} listed' listed sorted happened => ?_
  obtain ⟨lt, gt⟩ := text_lt_iff happened
  rcases shown x (mem_sorted_by.mp listed) y (mem_sorted_by.mp listed') happened with
    less | ⟨tie, row, row', rfl, rfl⟩ | same
  · rcases sorted with other | ⟨same, _⟩
    · exact absurd (gt.mp other) less.asymm
    · exact absurd (lt.mpr less) same.not_gt
  · rcases sorted with other | ⟨_, apart⟩
    · exact absurd (gt.mp other) tie.not_gt
    · exact absurd rfl (apart row' row rfl)
  · exact same.symm

/-- Two rows in the order of a timeline that is in order show the same where the second happened
before the first. -/
theorem same_of_listed (inOrder : InOrder case actions audits) {x y : Row}
    (listed : [y, x].Sublist (timelineRows case actions audits)) (happened : HappenedBefore x y) :
    x.item = y.item :=
  (List.pairwise_pair.mp (inOrder.sublist listed) happened).symm

theorem mem_rows_action {row : StampedAction} : action row ∈ rows case actions audits ↔ row ∈ actions := by
  simp [rows]

theorem mem_rows_audit {row : StampedAudit} : audit row ∈ rows case actions audits ↔ row ∈ audits := by
  simp [rows]

/-- Rows that come in an order that the texts admit are listed in it. -/
theorem listed_of_actions {x y : StampedAction} (le : (action y).text ≤ (action x).text)
    (came : [y, x].Sublist actions) :
    [action y, action x].Sublist (timelineRows case actions audits) :=
  pair_sorted_by le (((came.map action).trans (List.sublist_append_left _ _)).cons _)

theorem listed_of_audits {x y : StampedAudit} (le : (audit y).text ≤ (audit x).text)
    (came : [y, x].Sublist audits) :
    [audit y, audit x].Sublist (timelineRows case actions audits) :=
  pair_sorted_by le (((came.map audit).trans (List.sublist_append_right _ _)).cons _)

theorem listed_action_first {x : StampedAudit} {y : StampedAction} (le : (action y).text ≤ (audit x).text)
    (listed : y ∈ actions) (listed' : x ∈ audits) :
    [action y, audit x].Sublist (timelineRows case actions audits) := by
  refine pair_sorted_by le (List.Sublist.cons _ ?_)
  exact (List.singleton_sublist.mpr (List.mem_map_of_mem listed)).append
    (List.singleton_sublist.mpr (List.mem_map_of_mem listed'))

/-- A row that was not stamped in time is listed late by some answers of the database. -/
theorem shown_of_in_order
    (inOrder : ∀ xs ys, Ascending StampedAction.stamp actions xs → Ascending StampedAudit.stamp audits ys →
      InOrder case xs ys) :
    ∀ x ∈ rows case actions audits, ∀ y ∈ rows case actions audits, HappenedBefore x y → ShownBefore x y := by
  obtain ⟨xs, someActions⟩ := exists_ascending StampedAction.stamp actions
  obtain ⟨ys, someAudits⟩ := exists_ascending StampedAudit.stamp audits
  intro x listed y listed' happened
  by_contra late
  obtain ⟨lt, gt⟩ := text_lt_iff happened
  have after : y.time ≤ x.time := not_lt.mp fun less => late (.inl less)
  have le : y.text ≤ x.text := not_lt.mp fun less => (lt.mp less).not_ge after
  have differ : x.item ≠ y.item := fun same => late (.inr (.inr same))
  have apart := (happened_apart happened).symm
  cases x with
  | created => exact happened.elim
  | action x =>
    rw [mem_rows_action] at listed
    cases y with
    | created => exact happened.elim
    | action y =>
      rw [mem_rows_action] at listed'
      have differs : y ≠ x := fun same => apart (same ▸ rfl)
      obtain ⟨xs', answer, first⟩ := exists_ascending_pair StampedAction.stamp listed' listed differs after
      exact differ (same_of_listed (inOrder xs' ys answer someAudits) (listed_of_actions le first) happened)
    | audit y =>
      rw [mem_rows_audit] at listed'
      have later : (audit y).time < (action x).time :=
        after.lt_of_ne fun tie => late (.inr (.inl ⟨tie.symm, x, y, rfl, rfl⟩))
      have there : action x ∈ timelineRows case xs ys :=
        mem_sorted_by.mpr (mem_rows_action.mpr (someActions.perm.symm.subset listed))
      have there' : audit y ∈ timelineRows case xs ys :=
        mem_sorted_by.mpr (mem_rows_audit.mpr (someAudits.perm.symm.subset listed'))
      rcases pair_sublist_or there' there apart with first | last
      · exact differ (same_of_listed (inOrder xs ys someActions someAudits) first happened)
      · rcases List.pairwise_pair.mp ((timeline_rows_sorted case xs ys).sublist last) with less | ⟨same, _⟩
        · exact absurd (gt.mpr later) less.asymm
        · exact absurd (gt.mpr later) same.not_gt
  | audit x =>
    rw [mem_rows_audit] at listed
    cases y with
    | created => exact happened.elim
    | action y =>
      rw [mem_rows_action] at listed'
      have first : [action y, audit x].Sublist (timelineRows case xs ys) :=
        listed_action_first le (someActions.perm.symm.subset listed') (someAudits.perm.symm.subset listed)
      exact differ (same_of_listed (inOrder xs ys someActions someAudits) first happened)
    | audit y =>
      rw [mem_rows_audit] at listed'
      have differs : y ≠ x := fun same => apart (same ▸ rfl)
      obtain ⟨ys', answer, first⟩ := exists_ascending_pair StampedAudit.stamp listed' listed differs after
      exact differ (same_of_listed (inOrder xs ys' someActions answer) (listed_of_audits le first) happened)

/-- The timeline of a case is in order, however the database orders rows of one stamp, exactly if
of any two rows of which one happened before the other that one is stamped earlier, or is an
action with the stamp of an audit row, or shows the same. -/
theorem timeline_in_order_iff (d : Deployment) (caseId : String) (case : RecoveryCase) (runs : List CaseRun) :
    (∀ actions audits, Ascending StampedAction.stamp (historyActions d caseId runs) actions →
        Ascending StampedAudit.stamp (historyAudits d caseId runs) audits → InOrder case actions audits) ↔
      ∀ x ∈ rows case (historyActions d caseId runs) (historyAudits d caseId runs),
        ∀ y ∈ rows case (historyActions d caseId runs) (historyAudits d caseId runs),
          HappenedBefore x y → ShownBefore x y := by
  refine ⟨shown_of_in_order, fun shown actions audits ordered ordered' => ?_⟩
  have stored {row : Row} (there : row ∈ rows case actions audits) :
      row ∈ rows case (historyActions d caseId runs) (historyAudits d caseId runs) := by
    cases row with
    | created => simpa [rows] using there
    | action row => exact mem_rows_action.mpr (ordered.perm.subset (mem_rows_action.mp there))
    | audit row => exact mem_rows_audit.mpr (ordered'.perm.subset (mem_rows_audit.mp there))
  exact in_order_of_shown fun x listed y listed' => shown x (stored listed) y (stored listed')

/-! ## A clock that does not step back -/

variable {decision : DecisionInputs} {clock : PolicyClock} {finish : FinishInputs} {s result : RecoveryState}
  {loaded : RecoveryCase} {approval : Option RecoveryApproval} {visit : Visit} {db : Database} {number : ℕ}

theorem policy_check_trail (cfg : Settings) (clock : PolicyClock) (s : RecoveryState) :
    ∃ entry, entry.step = "policy_check" ∧
      (policyCheckNode cfg clock s).auditTrail = s.auditTrail ++ [entry] := by
  unfold policyCheckNode
  split <;> exact ⟨_, rfl, rfl⟩

/-- The nodes after the check only add to the trail. -/
theorem finish_trail (ran : (finishGraph d finish s).2 = .ok result) : s.auditTrail <+: result.auditTrail := by
  unfold finishGraph at ran
  split at ran
  · simp only [bind_ok, pure_ok, requestApprovalNode] at ran
    obtain ⟨_, ⟨_, _, _, _, rfl⟩, rfl⟩ := ran
    exact (List.prefix_append _ _).trans (List.prefix_append _ _)
  · cases ran
    exact List.prefix_append _ _
  · simp only [bind_ok, pure_ok] at ran
    obtain ⟨executed, made, rfl⟩ := ran
    unfold executeAction at made
    split at made
    · cases made
    · simp only [bind_ok, pure_ok] at made
      obtain ⟨_, _, rfl⟩ := made
      exact (List.prefix_append _ _).trans (List.prefix_append _ _)

/-- Every run that returns has gone through the policy check. -/
theorem graph_run_checks (ran : (graphRun d decision clock finish loaded approval).2 = .ok result) :
    ∃ entry ∈ result.auditTrail, entry.step = "policy_check" := by
  obtain ⟨_, proposed, _, _, finished⟩ := graph_run_finishes ran
  obtain ⟨entry, step, trail⟩ := policy_check_trail d.settings clock proposed
  exact ⟨entry, (finish_trail finished).subset (by simp [trail]), step⟩

/-- A run of `process_case` inserts no action, or the audit trail of a graph run. -/
theorem process_case_inserts (d : Deployment) (decision : DecisionInputs) (visit : Visit) (caseId : String)
    (db : Database) : (processCase d decision visit caseId db).recoveryActions = db.recoveryActions ∨
      ∃ loaded result, (visitRun d decision visit loaded db).2 = .ok result ∧
        (processCase d decision visit caseId db).auditLogs =
          db.auditLogs ++ result.auditTrail.map fun audit => { audit with caseId := loaded.caseId } := by
  unfold processCase
  split
  · exact .inl rfl
  · rename_i loaded _
    split
    · exact .inl rfl
    · rename_i committed returned
      obtain ⟨result, ran, persisted⟩ := bind_ok.mp returned
      exact .inr ⟨loaded, result, ran, (persist_result_written persisted).2⟩

theorem inserted_action_checked {row : StampedAction} (listed : row ∈ run.actions d caseId number) :
    ∃ check ∈ run.audits d caseId number, check.run = row.run ∧ check.audit.step = "policy_check" := by
  simp only [CaseRun.actions, CaseRun.committed, List.mem_map] at listed
  obtain ⟨stored, listed, rfl⟩ := listed
  rcases process_case_inserts d run.decision run.visit caseId run.db with none | ⟨loaded, result, ran, audits⟩
  · rw [none, List.drop_length] at listed
    cases listed
  · obtain ⟨entry, there, step⟩ := graph_run_checks ran
    obtain ⟨k, within, here⟩ := List.getElem_of_mem there
    have stored : ({ entry with caseId := loaded.caseId }, k) ∈
        ((run.committed d caseId).auditLogs.drop run.db.auditLogs.length).zipIdx := by
      rw [CaseRun.committed, audits, List.drop_left, List.mk_mem_zipIdx_iff_getElem?, List.getElem?_map,
        List.getElem?_eq_getElem within, here]
      rfl
    exact ⟨_, List.mem_map_of_mem stored, rfl, step⟩

/-- With a clock that does not step back from the one flush of a run to the other, its action is
listed before its policy check. -/
theorem executed_out_of_order (ran : (run, number) ∈ runs.zipIdx) {row : StampedAction}
    (inserted : row ∈ run.actions d caseId number)
    (forward : ∀ i j, (run.flush.actions i).instant ≤ (run.flush.audits j).instant) :
    ¬ ∀ actions audits, Ascending StampedAction.stamp (historyActions d caseId runs) actions →
      Ascending StampedAudit.stamp (historyAudits d caseId runs) audits → InOrder case actions audits := by
  intro inOrder
  obtain ⟨check, listed, same, step⟩ := inserted_action_checked inserted
  have happened : HappenedBefore (audit check) (action row) := .inr ⟨same, step⟩
  have stamped : (action row).time ≤ (audit check).time := by
    obtain ⟨stored, _, rfl⟩ := List.mem_map.mp inserted
    obtain ⟨stored', _, rfl⟩ := List.mem_map.mp listed
    exact forward stored.2 stored'.2
  rcases shown_of_in_order inOrder _ (mem_rows_audit.mpr (List.mem_flatMap.mpr ⟨_, ran, listed⟩)) _
      (mem_rows_action.mpr (List.mem_flatMap.mpr ⟨_, ran, inserted⟩)) happened with
    less | ⟨_, _, _, other, _⟩ | shown
  · exact absurd stamped less.not_ge
  · cases other
  · cases shown

/-- What an item is of. -/
def label : TimelineItem → String
  | .caseCreated _ => "case_created"
  | .action actionType _ => actionType
  | .audit step _ => step

/-- A second and some microseconds after the run of the sample case. -/
def reading (microseconds : ℕ) : Timestamp where
  instant := 1788501601000000 + min microseconds 999
  range := by
    unfold Representable earliest Instant.latest
    omega

/-- A run that defers the sample case, with the readings of a clock that steps on. -/
def deferringRun : CaseRun where
  db := treatmentStored
  decision := sampleDecision .open "stop"
  visit := sampleVisit 1788501600000000 "action-1"
  flush := { actions := fun _ => reading 0, audits := fun position => reading (position + 1) }

/-- The deferral is listed first of all steps of its run. -/
theorem deferral_listed_first :
    (timeline (sampleCase "REC-00000007" 250000) (historyActions sampleDeployment "REC-00000007" [deferringRun])
        (historyAudits sampleDeployment "REC-00000007" [deferringRun])).map label =
      ["case_created", "defer", "enrich_ml", "enrich_health", "assign_experiment", "agent_diagnose",
        "agent_strategize", "policy_check", "execute_action", "log_audit"] ∧
      ¬ ∀ actions audits,
        Ascending StampedAction.stamp (historyActions sampleDeployment "REC-00000007" [deferringRun]) actions →
        Ascending StampedAudit.stamp (historyAudits sampleDeployment "REC-00000007" [deferringRun]) audits →
        InOrder (sampleCase "REC-00000007" 250000) actions audits := by
  refine ⟨by decide +kernel, ?_⟩
  have inserted : 0 < (deferringRun.actions sampleDeployment "REC-00000007" 0).length := by decide +kernel
  obtain ⟨row, there⟩ := List.exists_mem_of_length_pos inserted
  refine executed_out_of_order (List.mem_singleton.mpr rfl) there fun i j => ?_
  simp only [deferringRun, reading]
  omega

end RevenueGuard.TimelineProofs
