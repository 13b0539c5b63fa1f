import RevenueGuard.Deadlines
import RevenueGuard.GraphProofs
import RevenueGuard.WorkerProofs

/-!
The expiry of approvals.  The worker looks at the approval that was granted last, and
the policy at when that one expires; an earlier one that is still valid goes unseen.
The endpoint that grants a request and the policy then read the same expiry, each in its
own way, and differ at the instant itself.
-/

namespace RevenueGuard.ExpiryProofs

open Library Library.Datetimes Library.Raises GraphProofs WorkerProofs

variable {db : Database} {case : RecoveryCase} {caseId : String} {t : ℤ} {r : RecoveryApproval}
  {state : RecoveryState} {approval : Option RecoveryApproval} {pick : ℕ}

/-! ## The approval that is looked at -/

/-- A row of the case that was approved. -/
def Approved (db : Database) (caseId : String) (r : RecoveryApproval) : Prop :=
  r ∈ db.recoveryApprovals ∧ r.caseId = caseId ∧ r.status = .approved

/-- What the query orders the rows by.  Where a row has no such time it comes first or last,
depending on the database. -/
def grantedAt (r : RecoveryApproval) : ℤ := r.approvedAt.getD 0

/-- `approve` writes the time with the status. -/
def Dated (db : Database) (caseId : String) : Prop := ∀ r, Approved db caseId r → r.approvedAt.isSome

def GrantedBefore (r r' : RecoveryApproval) : Prop := ∃ t ∈ r.approvedAt, ∃ t' ∈ r'.approvedAt, t < t'

/-- The state built for the case has a valid approval at `t` exactly if some row is one,
whichever of several rows granted together the query returns. -/
def FindsLive (case : RecoveryCase) (db : Database) (t : ℤ) : Prop :=
  ∀ pick state, buildState case (activeApproval pick db case.caseId) = .ok state →
    (PolicyEngine.hasValidApproval t state = true ↔ ∃ live, Approved db case.caseId live ∧ t < live.expiresAt)

/-- Where an approved row is live, every approved row that has expired was granted before
one that is. -/
def ExpiredGrantedBefore (db : Database) (caseId : String) (t : ℤ) : Prop :=
  (∃ live, Approved db caseId live ∧ t < live.expiresAt) →
    ∀ expired, Approved db caseId expired → expired.expiresAt ≤ t →
      ∃ live, Approved db caseId live ∧ t < live.expiresAt ∧ GrantedBefore expired live

theorem granted_before_iff {r' : RecoveryApproval} (dated : r.approvedAt.isSome)
    (dated' : r'.approvedAt.isSome) :
    grantedAt r < grantedAt r' ↔ GrantedBefore r r' := by
  obtain ⟨t, written⟩ := Option.isSome_iff_exists.mp dated
  obtain ⟨t', written'⟩ := Option.isSome_iff_exists.mp dated'
  simp [grantedAt, GrantedBefore, written, written']

/-- The approved rows of the case, as the query filters them. -/
def approvedRows (db : Database) (caseId : String) : List RecoveryApproval :=
  db.recoveryApprovals.filter fun r => r.caseId = caseId && r.status = .approved

theorem mem_approved_rows : r ∈ approvedRows db caseId ↔ Approved db caseId r := by
  simp [approvedRows, Approved]

theorem active_approvals_last (db : Database) (caseId : String) :
    activeApprovals db caseId = Keyed.last grantedAt (approvedRows db caseId) := rfl

/-- Any of the last rows may be the one that the query returns. -/
theorem active_approval_any (listed : r ∈ activeApprovals db caseId) :
    ∃ pick, activeApproval pick db caseId = some r := by
  obtain ⟨pick, within, there⟩ := List.getElem_of_mem listed
  refine ⟨pick, ?_⟩
  rw [activeApproval, Nat.mod_eq_of_lt within, List.getElem?_eq_getElem within, there]

theorem active_approval_exists (pick : ℕ) (approved : Approved db caseId r) :
    ∃ active ∈ activeApprovals db caseId, activeApproval pick db caseId = some active := by
  obtain ⟨last, listed⟩ : ∃ last, last ∈ activeApprovals db caseId :=
    Keyed.exists_last (List.ne_nil_of_mem (mem_approved_rows.mpr approved))
  exact active_approval_mem pick listed

/-- The policy tests the expiry of the row that the state was built from. -/
theorem valid_built (built : buildState case approval = .ok state) :
    PolicyEngine.hasValidApproval t state = true ↔
      ∃ r, approval = some r ∧ r.status = .approved ∧ t < r.expiresAt := by
  obtain ⟨context, _, rfl⟩ := bind_pure_ok.mp built
  cases approval with
  | none => simp [PolicyEngine.hasValidApproval]
  | some r =>
    by_cases approved : r.status = .approved
    · simp [PolicyEngine.hasValidApproval, approvalState, ApprovalData.expiresAt, approved]
    · simp [PolicyEngine.hasValidApproval, approved]

theorem builds (context : ∃ fields, (case.customerData.getD contextKey (.obj [])).asDict = .ok fields)
    (approval : Option RecoveryApproval) : ∃ state, buildState case approval = .ok state := by
  obtain ⟨fields, context⟩ := context
  exact ⟨_, bind_pure_ok.mpr ⟨fields, context, rfl⟩⟩

/-- The policy finds a live approval whenever there is one if and only if no approved row that
has expired was granted as late as all that are live. -/
theorem finds_live_iff (context : ∃ fields, (case.customerData.getD contextKey (.obj [])).asDict = .ok fields)
    (dated : Dated db case.caseId) (t : ℤ) : FindsLive case db t ↔ ExpiredGrantedBefore db case.caseId t := by
  have ranked : (∀ r ∈ activeApprovals db case.caseId, t < r.expiresAt) ↔
      ∀ r, Approved db case.caseId r → r.expiresAt ≤ t →
        ∃ live, Approved db case.caseId live ∧ t < live.expiresAt ∧ GrantedBefore r live := by
    rw [active_approvals_last, Keyed.last_all_iff]
    simp only [mem_approved_rows, not_lt]
    refine forall_congr' fun r => forall₂_congr fun approved _ => exists_congr fun live =>
      and_congr_right fun approved' => and_congr_right fun _ => ?_
    exact granted_before_iff (dated r approved) (dated live approved')
  constructor
  · intro finds live
    refine ranked.mp fun r listed => ?_
    obtain ⟨pick, active⟩ := active_approval_any listed
    obtain ⟨state, built⟩ := builds context (activeApproval pick db case.caseId)
    obtain ⟨r', found, _, valid⟩ := (valid_built built).mp ((finds pick state built).mpr live)
    cases found.symm.trans active
    exact valid
  · intro inOrder pick state built
    rw [valid_built built]
    constructor
    · rintro ⟨r, found, approved, valid⟩
      obtain ⟨stored, sameCase, _⟩ := active_approval_some found
      exact ⟨r, ⟨stored, sameCase, approved⟩, valid⟩
    · rintro ⟨live, approved, valid⟩
      obtain ⟨active, listed, found⟩ := active_approval_exists pick approved
      obtain ⟨_, _, granted, _⟩ := active_approval_some found
      exact ⟨active, found, granted, ranked.mpr (inOrder ⟨live, approved, valid⟩) active listed⟩

/-- So many minutes after the sample case came in. -/
def minute (n : ℤ) : ℤ := 1788500000000000 + Instant.seconds (60 * n)

/-- A request for the sample case, which expires two hours later. -/
def grantedRow (approvalId : String) (requested granted : ℤ) : RecoveryApproval :=
  { approvalId
    caseId := "REC-00000001"
    paymentId := "pay_1"
    amountPaise := 2500000
    requestedAction := .smartRetry
    agentRecommendation := "retry"
    status := .approved
    requestedAt := minute requested
    expiresAt := minute requested + Instant.hours 2
    approvedAt := some (minute granted) }

def grantedOnce : Database := { recoveryApprovals := [grantedRow "APR-000000000001" 0 60] }

theorem finds_live_iff_granted_once :
    FindsLive (sampleCase "REC-00000001" 2500000) grantedOnce (minute 60) := by
  have once : ∀ r, Approved grantedOnce "REC-00000001" r → r = grantedRow "APR-000000000001" 0 60 :=
    fun r approved => List.mem_singleton.mp approved.1
  refine (finds_live_iff ⟨[], rfl⟩ (fun r approved => ?_) (minute 60)).mpr fun _ expired approved late => ?_
  · rw [once r approved]
    rfl
  · rw [once expired approved] at late
    exact absurd late (by decide)

/-- The later of two requests is granted first, and the earlier one expires first. -/
def grantedOutOfOrder : Database :=
  { recoveryApprovals := [grantedRow "APR-000000000001" 60 120, grantedRow "APR-000000000002" 90 105] }

/-- Between the two expiries the approval that is still valid goes unseen. -/
theorem live_approval_unseen :
    (∃ live, Approved grantedOutOfOrder "REC-00000001" live ∧ minute 192 < live.expiresAt) ∧
      ¬ FindsLive (sampleCase "REC-00000001" 2500000) grantedOutOfOrder (minute 192) := by
  have live : ∃ live, Approved grantedOutOfOrder "REC-00000001" live ∧ minute 192 < live.expiresAt :=
    ⟨grantedRow "APR-000000000002" 90 105, ⟨by decide, rfl, rfl⟩, by decide⟩
  refine ⟨live, fun finds => ?_⟩
  obtain ⟨state, built⟩ : ∃ state, buildState (sampleCase "REC-00000001" 2500000)
      (activeApproval 0 grantedOutOfOrder "REC-00000001") = .ok state := ⟨_, rfl⟩
  obtain ⟨r, found, _, valid⟩ := (valid_built built).mp ((finds 0 state built).mpr live)
  have active : activeApproval 0 grantedOutOfOrder "REC-00000001" =
      some (grantedRow "APR-000000000001" 60 120) := by
    decide
  cases found.symm.trans active
  exact absurd valid (by decide)

/-! ## The expiry as two readers see it -/

open PolicyEngine

variable {d stored : Datetime} {record : ExpiresAt} {now : ℤ}

/-- The ways a record may give a datetime: itself, or a text of it, which ends in `Z` where the
datetime is in UTC, and has the microseconds where there are any or where they are asked for. -/
inductive Written (d : Datetime) : ExpiresAt → Prop where
  | datetime : Written d (.datetime d)
  | isoFormat (always : Bool) : Written d (.text (String.ofList (d.isoFormat always)))
  | zulu (always : Bool) (inUtc : d.offset = some utc) :
      Written d (.text (String.ofList (zuluText always d.date d.clock)))

/-- `datetime.now(timezone.utc)`. -/
def utcNow (date : Date) (clock : Clock) : Datetime := { date, clock, offset := some utc }

/-- The endpoint accepts the request exactly if the policy takes it for valid once it is
approved. -/
def Agree (stored : Datetime) (record : ExpiresAt) (now : ℤ) : Prop :=
  isExpiredDatetime stored now = false ↔ hasValidApprovalRecord (some .approved) record now = .ok true

theorem iso_text_truthy {date rest : List Char} {c : Char} :
    ExpiresAt.truthy (.text (String.ofList (date ++ c :: rest))) = true := by
  simp [ExpiresAt.truthy]

theorem written_truthy (written : Written d record) : record.truthy = true := by
  cases written with
  | datetime => rfl
  | isoFormat => exact iso_text_truthy
  | zulu => exact iso_text_truthy

/-- The policy reads the datetime back from each of its texts. -/
theorem parse_written (written : Written d record) : parseDatetime record = (toUtc d).map some := by
  cases written with
  | datetime => rfl
  | isoFormat always =>
    rw [parseDatetime, String.toList_ofList, replace_z_iso_format, from_iso_format]
  | zulu always inUtc =>
    have same : ({ date := d.date, clock := d.clock, offset := some utc } : Datetime) = d := by
      rw [← inUtc]
    rw [parseDatetime, String.toList_ofList, replace_z_zulu, same, from_iso_format]

/-- `astimezone` keeps the instant, where the calendar has it. -/
theorem to_utc_ok {expiry : ℤ} :
    toUtc d = .ok expiry ↔ (earliest ≤ d.instant ∧ d.instant ≤ Instant.latest) ∧ expiry = d.instant := by
  unfold toUtc
  cases offset : d.offset with
  | none =>
    have shown := instant_local (.inl offset)
    have range := local_range d
    rw [← shown] at range ⊢
    simp [range, eq_comm]
  | some _ =>
    dsimp only
    split
    · rename_i range
      simp [range, eq_comm]
    · rename_i outside
      simp [outside]

theorem valid_written (written : Written d record) (now : ℤ) :
    hasValidApprovalRecord (some .approved) record now = .ok true ↔
      (earliest ≤ d.instant ∧ d.instant ≤ Instant.latest) ∧ now < d.instant := by
  have read : hasValidApprovalRecord (some .approved) record now =
      (toUtc d).map fun expiry => decide (expiry > now) := by
    rw [hasValidApprovalRecord, written_truthy written, parse_written written]
    cases toUtc d <;> rfl
  rw [read]
  cases converted : toUtc d with
  | error e =>
    have outside : ¬ (earliest ≤ d.instant ∧ d.instant ≤ Instant.latest) := by
      intro range
      cases converted.symm.trans (to_utc_ok.mpr ⟨range, rfl⟩)
    simp [Except.map, outside]
  | ok expiry =>
    obtain ⟨range, rfl⟩ := to_utc_ok.mp converted
    simp [Except.map, range]

/-- The two readers agree on an expiry, however it is given to either, if and only if the clock
does not show the expiry itself, and no offset carries it past the end of the calendar. -/
theorem agree_iff (written : Written d record) (same : stored.instant = d.instant) (date : Date)
    (clock : Clock) :
    Agree stored record (utcNow date clock).instant ↔
      (utcNow date clock).instant ≠ d.instant ∧ d.instant ≤ Instant.latest := by
  have shown :=
    instant_local (.inr rfl : (utcNow date clock).offset = none ∨ (utcNow date clock).offset = some utc)
  obtain ⟨earliest_now, _⟩ := local_range (utcNow date clock)
  rw [← shown] at earliest_now
  have accepted : isExpiredDatetime stored (utcNow date clock).instant = false ↔
      (utcNow date clock).instant ≤ d.instant := by
    rw [isExpiredDatetime, same, decide_eq_false_iff_not, not_lt]
  rw [Agree, accepted, valid_written written]
  constructor
  · intro agree
    refine ⟨fun boundary => ?_, ?_⟩
    · exact absurd (agree.mp boundary.le).2 (by omega)
    · by_contra late
      exact absurd (agree.mp (by omega)).1.2 late
  · rintro ⟨apart, within⟩
    constructor
    · intro before
      exact ⟨⟨by omega, within⟩, by omega⟩
    · rintro ⟨_, before⟩
      exact before.le

/-- Noon in India on the first day of a year, and what the clock shows an hour before. -/
def noonInIndia : Datetime :=
  { date := { year := 2026, month := 1, day := 1, valid := by decide }
    clock := { hour := 12, minute := 0, second := 0, microsecond := 0, valid := by decide }
    offset := some
      { behind := false, size := { hour := 5, minute := 30, second := 0, microsecond := 0, valid := by decide } } }

def newYear : Date := { year := 2026, month := 1, day := 1, valid := by decide }

def halfPast (hour : ℕ) (valid : hour < 24) : Clock :=
  { hour, minute := 30, second := 0, microsecond := 0, valid := ⟨valid, by decide⟩ }

theorem agree_iff_noon : Agree noonInIndia (.text (String.ofList (noonInIndia.isoFormat false)))
    (utcNow newYear (halfPast 5 (by decide))).instant :=
  (agree_iff (.isoFormat false) rfl newYear (halfPast 5 (by decide))).mpr ⟨by decide, by decide⟩

/-- At noon itself the endpoint still accepts the request, and the policy refuses it. -/
theorem noon_disagrees :
    String.ofList (noonInIndia.isoFormat false) = "2026-01-01T12:00:00+05:30" ∧
      isExpiredDatetime noonInIndia (utcNow newYear (halfPast 6 (by decide))).instant = false ∧
      hasValidApprovalRecord (some .approved) (.text "2026-01-01T12:00:00+05:30")
        (utcNow newYear (halfPast 6 (by decide))).instant = .ok false ∧
      ¬ Agree noonInIndia (.text (String.ofList (noonInIndia.isoFormat false)))
        (utcNow newYear (halfPast 6 (by decide))).instant := by
  have text : String.ofList (noonInIndia.isoFormat false) = "2026-01-01T12:00:00+05:30" := by decide
  have accepted : isExpiredDatetime noonInIndia (utcNow newYear (halfPast 6 (by decide))).instant = false := by
    decide
  have refused : hasValidApprovalRecord (some .approved) (.text "2026-01-01T12:00:00+05:30")
      (utcNow newYear (halfPast 6 (by decide))).instant = .ok false := by
    rw [← text, hasValidApprovalRecord, written_truthy (.isoFormat false), parse_written (.isoFormat false)]
    decide
  refine ⟨text, accepted, refused, fun agree => ?_⟩
  rw [text] at agree
  cases refused.symm.trans (agree.mp accepted)

/-- On the text that the worker writes of a row's expiry, which the column gives in UTC, the
record is as good as the instant. -/
theorem valid_record_instant {s : RecoveryState} {approval : ApprovalData} (inUtc : d.offset = some utc)
    (held : s.approvalRecord = some approval) (expires : approval.expiresAt = d.instant) (now : ℤ) :
    hasValidApprovalRecord s.approvalStatus (.text (String.ofList (d.isoFormat false))) now =
      .ok (hasValidApproval now s) := by
  by_cases approved : s.approvalStatus = some .approved
  · have range := local_range d
    rw [← instant_local (.inr inUtc)] at range
    have converted : toUtc d = .ok d.instant := to_utc_ok.mpr ⟨range, rfl⟩
    rw [hasValidApprovalRecord, written_truthy (.isoFormat false), parse_written (.isoFormat false), converted]
    simp [hasValidApproval, approved, held, expires, Except.map, ok_bind, pure, Except.pure]
  · simp [hasValidApprovalRecord, hasValidApproval, approved, pure, Except.pure]

end RevenueGuard.ExpiryProofs
