import RevenueGuard.CasePage
import RevenueGuard.PassageProofs

/-!
The page of a case, while the workers go on.  Its five queries may find five states of the tables, and
in no state need the tables be as the page has them.  The queries of the rows come after the query of the
case, and rows are never taken back, so whatever the page says of the case it has the rows for.
-/

namespace RevenueGuard.CasePageProofs

open Library Library.Runs GraphProofs WorkerProofs SystemProofs TableProofs OutcomeProofs CaseFileProofs
  PassageProofs

variable {d : Deployment} {s s' : System} {es fs : List Event} {caseId : String} {file file' : CaseFile}
  {reads : CaseReads} {answers : CaseAnswers} {page : CasePage}

/-! ## Files -/

/-- What a file has rows for. -/
structure Backed (file : CaseFile) : Prop where
  audited : ∀ action ∈ file.actions, ∃ audit ∈ file.audits, audit.actionId = some action.actionId
  processed : ∀ case, file.case = some case → case.status ≠ .detected → file.audits ≠ []
  executing : ∀ case, file.case = some case → case.status = .executing → file.actions ≠ []
  monitored : ∀ case, file.case = some case → case.gatewayHealthState ≠ none → file.snapshots ≠ []

/-- An action that was executed has a row, its own or one under its key. -/
theorem insert_actions_ne_nil {rows rows' : List RecoveryAction} {action : RecoveryAction}
    (inserted : insertActions caseId rows [action] = .ok rows') : rows' ≠ [] := by
  simp only [insertActions] at inserted
  split at inserted
  · rename_i stored
    cases inserted
    obtain ⟨row, listed, _⟩ := List.any_eq_true.mp stored
    exact List.ne_nil_of_mem listed
  · split at inserted
    · cases inserted
    · cases inserted
      simp

theorem trail_ne_nil {result : RecoveryState} {passage : Passage} (came : CameBy d caseId passage result) :
    result.auditTrail ≠ [] := by
  intro empty
  have steps := came.steps
  rw [stepsOf, empty, passage_steps] at steps
  simp at steps

theorem backed_step (held : Backed file) (moved : FileStep d caseId file file') : Backed file' := by
  cases moved with
  | @opened case _ fresh =>
    have detected : case.status = .detected := by rw [← fresh]; rfl
    have unmonitored : case.gatewayHealthState = none := by rw [← fresh]; rfl
    refine ⟨fun _ listed => absurd listed List.not_mem_nil, fun _ same processed => ?_, fun _ same executing => ?_,
      fun _ same monitored => ?_⟩
    · cases same
      exact absurd detected processed
    · cases same
      cases detected.symm.trans executing
    · cases same
      exact absurd unmonitored monitored
  | @worked _ stored x result now actions approvals found _ _ _ approved ran inserted =>
    obtain ⟨passage, came⟩ := graph_run_passage ran approved
    obtain ⟨snapshot, health⟩ := came.health
    have audited := (graph_run_audited ran).1
    have trail : (file.worked now x.rows.case result actions approvals).audits ≠ [] := by
      simp [CaseFile.worked, trail_ne_nil came]
    refine ⟨fun action listed => ?_, fun _ _ _ => trail, fun case same executing => ?_, fun _ _ _ => ?_⟩
    · rcases mem_insert_actions inserted listed with known | ⟨executed, made, rfl⟩
      · obtain ⟨audit, known, refers⟩ := held.audited action known
        exact ⟨audit, List.mem_append_left _ known, refers⟩
      · have referred : executed.actionId ∈ auditedActions result := audited ▸ List.mem_map_of_mem made
        obtain ⟨audit, entered, refers⟩ := List.mem_filterMap.mp referred
        exact ⟨_, List.mem_append_right _ (List.mem_map_of_mem entered), refers⟩
    · obtain ⟨before, _, rfl⟩ := Option.map_eq_some_iff.mp same
      have acted : passage.route = .execute := by
        have status := came.status
        rw [show caseStatus result = .executing from executing] at status
        cases route : passage.route <;> simp [Passage.statuses, route] at status
        rfl
      have actions := came.actions
      rw [if_pos acted] at actions
      obtain ⟨action, executed⟩ := actions
      rw [executed] at inserted
      exact insert_actions_ne_nil inserted
    · simp [CaseFile.worked, health]
  | failed =>
    refine ⟨fun action listed => ?_, fun _ _ _ => by simp [CaseFile.failed], ?_, ?_⟩
    · obtain ⟨audit, known, refers⟩ := held.audited action listed
      exact ⟨audit, List.mem_append_left _ known, refers⟩
    · intro case same executing
      obtain ⟨before, _, rfl⟩ := Option.map_eq_some_iff.mp same
      cases executing
    · intro case same monitored
      obtain ⟨before, found, rfl⟩ := Option.map_eq_some_iff.mp same
      exact held.monitored before found monitored
  | decided => exact ⟨held.audited, held.processed, held.executing, held.monitored⟩

theorem backed (ran : run (step d) {} es = some s) (caseId : String) : Backed (fileOf caseId s.db) := by
  refine files_invariant (P := fun _ file => Backed file) (fun _ => ?_) (fun _ _ _ => backed_step) ran caseId
  exact ⟨fun _ listed => absurd listed List.not_mem_nil, fun _ none_ => (by cases none_),
    fun _ none_ => (by cases none_), fun _ none_ => (by cases none_)⟩

/-! ## Rows stay -/

/-- A later file has the rows of an earlier one. -/
structure Keeps (file file' : CaseFile) : Prop where
  actions : file.actions ⊆ file'.actions
  audits : file.audits ⊆ file'.audits
  snapshots : file.snapshots ⊆ file'.snapshots

theorem keeps_step (moved : FileStep d caseId file file') : Keeps file file' := by
  cases moved with
  | opened => exact ⟨List.Subset.refl _, List.Subset.refl _, List.Subset.refl _⟩
  | worked _ _ _ _ _ _ inserted =>
    exact ⟨(HistoryProofs.insert_actions_prefix inserted).subset, List.subset_append_left _ _,
      List.subset_append_left _ _⟩
  | failed => exact ⟨List.Subset.refl _, List.subset_append_left _ _, List.Subset.refl _⟩
  | decided => exact ⟨List.Subset.refl _, List.Subset.refl _, List.Subset.refl _⟩

theorem keeps_path (path : FilePath d caseId file file') : Keeps file file' := by
  induction path with
  | refl => exact ⟨List.Subset.refl _, List.Subset.refl _, List.Subset.refl _⟩
  | tail _ moved ih =>
    have kept := keeps_step moved
    exact ⟨List.Subset.trans ih.actions kept.actions, List.Subset.trans ih.audits kept.audits,
      List.Subset.trans ih.snapshots kept.snapshots⟩

/-! ## The page -/

/-- The tables at one moment of a run. -/
def ReadAt (d : Deployment) (es : List Event) (n : ℕ) (db : Database) : Prop :=
  ∃ s, run (step d) {} (es.take n) = some s ∧ s.db = db

/-- The queries of a request come one after the other. -/
def ReadInOrder (d : Deployment) (es : List Event) (reads : CaseReads) : Prop :=
  ∃ n₁ n₂ n₃ n₄ n₅, n₁ ≤ n₂ ∧ n₂ ≤ n₃ ∧ n₃ ≤ n₄ ∧ n₄ ≤ n₅ ∧ ReadAt d es n₁ reads.case ∧
    ReadAt d es n₂ reads.actions ∧ ReadAt d es n₃ reads.audits ∧ ReadAt d es n₄ reads.approvals ∧
    ReadAt d es n₅ reads.records

theorem reads_keep {n m : ℕ} {db db' : Database} (earlier : ReadAt d es n db) (later : ReadAt d es m db')
    (ordered : n ≤ m) (caseId : String) : Keeps (fileOf caseId db) (fileOf caseId db') := by
  obtain ⟨s, ran, rfl⟩ := earlier
  obtain ⟨s', ran', rfl⟩ := later
  obtain ⟨rest, continued⟩ := List.take_prefix_take_left (l := es) ordered
  rw [← continued] at ran'
  exact keeps_path (file_path ran ran' caseId)

theorem backed_at {n : ℕ} {db : Database} (read : ReadAt d es n db) (caseId : String) :
    Backed (fileOf caseId db) := by
  obtain ⟨s, ran, rfl⟩ := read
  exact backed ran caseId

theorem event_status_value_inj : Function.Injective EventStatus.value := by
  intro status status' same
  cases status <;> cases status' <;> first | rfl | exact absurd same (by decide)

theorem case_gateway_health_some {records : List GatewayHealthRecord}
    (recorded : ∃ record ∈ records, record.caseId = caseId) : caseGatewayHealth caseId records ≠ none := by
  obtain ⟨record, listed, ofCase⟩ := recorded
  have found : (records.find? fun record => record.caseId = caseId).isSome = true :=
    List.find?_isSome.mpr ⟨record, listed, decide_eq_true ofCase⟩
  obtain ⟨first, same⟩ := Option.isSome_iff_exists.mp found
  simp [caseGatewayHealth, same]

/-- A page has the rows for what it says: an audit entry of each action, the trail of a case that has been
processed, an action of one that is executing, and the gateway of one that has a state of it. -/
structure PageBacked (page : CasePage) : Prop where
  audited : ∀ action ∈ page.actions, ∃ audit ∈ page.auditTrail, audit.actionId = some action.actionId
  processed : page.case.summary.status ≠ "detected" → page.auditTrail ≠ []
  executing : page.case.summary.status = "executing" → page.actions ≠ []
  monitored : page.case.gatewayHealthState ≠ none → page.gatewayHealth ≠ none

/-- Whatever is committed between its queries, every page is backed. -/
theorem page_backed (ordered : ReadInOrder d es reads) (answered : answers.Of caseId reads)
    (shown : getCase caseId answers = .ok page) : PageBacked page := by
  obtain ⟨n₁, n₂, n₃, n₄, n₅, first, second, third, fourth, readCase, readActions, readAudits, _, readRecords⟩ :=
    ordered
  have shownFrom := backed_at readCase caseId
  have actionsFrom := backed_at readActions caseId
  have rows := reads_keep readCase readActions first caseId
  have trail := reads_keep readCase readAudits (first.trans second) caseId
  have records := reads_keep readCase readRecords (by omega) caseId
  have after := reads_keep readActions readAudits second caseId
  unfold getCase at shown
  cases found : answers.case with
  | none =>
    rw [found] at shown
    cases shown
  | some case =>
    rw [found] at shown
    cases shown
    have stored := answered.case.symm.trans found
    constructor
    case audited =>
      intro action listed
      obtain ⟨audit, known, refers⟩ := actionsFrom.audited action (answered.actions.mem_iff.mp listed)
      exact ⟨audit, answered.audits.mem_iff.mpr (after.audits known), refers⟩
    case processed =>
      intro processed
      have moved : case.status ≠ .detected := fun same => processed (congrArg EventStatus.value same)
      obtain ⟨audit, known⟩ := List.exists_mem_of_ne_nil _ (shownFrom.processed case stored moved)
      exact List.ne_nil_of_mem (answered.audits.mem_iff.mpr (trail.audits known))
    case executing =>
      intro executing
      have executes : case.status = .executing := event_status_value_inj executing
      obtain ⟨action, known⟩ := List.exists_mem_of_ne_nil _ (shownFrom.executing case stored executes)
      exact List.ne_nil_of_mem (answered.actions.mem_iff.mpr (rows.actions known))
    case monitored =>
      intro monitored
      obtain ⟨record, known⟩ := List.exists_mem_of_ne_nil _ (shownFrom.monitored case stored monitored)
      obtain ⟨listed, ofCase⟩ := List.mem_filter.mp (records.snapshots known)
      exact case_gateway_health_some ⟨record, answered.records.mem_iff.mpr listed, of_decide_eq_true ofCase⟩

/-- The case is read when it has been processed, and everything else after that. -/
theorem page_backed_processed : ∃ s page, run (step sampleDeployment) {} processedRun = some s ∧
    getCase "REC-00000001" ⟨(fileOf "REC-00000001" s.db).case, (fileOf "REC-00000001" s.db).actions,
      (fileOf "REC-00000001" s.db).audits, (fileOf "REC-00000001" s.db).approvals, s.db.gatewayHealthSnapshots⟩ =
      .ok page ∧ page.case.summary.status = "executing" ∧ PageBacked page := by
  obtain ⟨s, ran, status⟩ : ∃ s, run (step sampleDeployment) {} processedRun = some s ∧
      (fileOf "REC-00000001" s.db).case.map (fun case => (caseSummary case).status) = some "executing" :=
    ⟨_, rfl, rfl⟩
  obtain ⟨case, found, executing⟩ := Option.map_eq_some_iff.mp status
  have read : ReadAt sampleDeployment processedRun processedRun.length s.db :=
    ⟨s, by rw [List.take_length]; exact ran, rfl⟩
  have ordered : ReadInOrder sampleDeployment processedRun ⟨s.db, s.db, s.db, s.db, s.db⟩ :=
    ⟨_, _, _, _, _, le_rfl, le_rfl, le_rfl, le_rfl, read, read, read, read, read⟩
  obtain ⟨page, shown, summary⟩ : ∃ page, getCase "REC-00000001" ⟨(fileOf "REC-00000001" s.db).case,
      (fileOf "REC-00000001" s.db).actions, (fileOf "REC-00000001" s.db).audits,
      (fileOf "REC-00000001" s.db).approvals, s.db.gatewayHealthSnapshots⟩ = .ok page ∧
        page.case.summary = caseSummary case := by
    rw [found]
    exact ⟨_, rfl, rfl⟩
  refine ⟨s, page, ran, shown, summary ▸ executing, page_backed ordered ?_ shown⟩
  exact ⟨rfl, .refl _, .refl _, .refl _, .refl _⟩

end RevenueGuard.CasePageProofs
