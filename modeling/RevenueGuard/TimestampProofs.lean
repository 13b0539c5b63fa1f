import RevenueGuard.ExpiryProofs

/-!
Deadlines through the columns of `db/types.py`, which have no offset.  What is bound is
what the clock in UTC shows, so a column gives the instant back and keeps the order of
instants; the expiry of a request for approval reaches the policy two hours after the
request, by way of the dump of the state, the worker, the row and the text of a later run.
-/

namespace RevenueGuard.TimestampProofs

open Library Library.Datetimes Library.Raises UTCDateTime ExpiryProofs

variable {v w stored stored' expiresAt now : Datetime} {column : Option Datetime} {t : ℤ}

/-! ## One column -/

/-- A value after the way into a column and out of it again. -/
def readBack (v : Datetime) : Except String (Option Datetime) := do
  processResultValue (← processBindParam (some v))

/-- What is bound has no offset, and its clock shows the instant. -/
theorem bind_spec (bound : processBindParam (some v) = .ok column) :
    Representable v.instant ∧
      ∃ stored, column = some stored ∧ stored.offset = none ∧ stored.local = v.instant := by
  cases offset : v.offset with
  | none =>
    have shown : v.instant = v.local := instant_local (.inl offset)
    simp only [processBindParam, offset, Except.ok.injEq] at bound
    exact ⟨shown ▸ local_range v, v, bound.symm, offset, shown.symm⟩
  | some _ =>
    simp only [processBindParam, offset, bind_pure_ok] at bound
    obtain ⟨converted, inUtc, rfl⟩ := bound
    obtain ⟨range, rfl⟩ := astimezone_utc_ok.mp inUtc
    exact ⟨range, _, rfl, rfl, of_local_local range (some utc)⟩

/-- Binding cannot fail on a value whose instant the calendar has. -/
theorem bind_returns (range : Representable v.instant) : ∃ column, processBindParam (some v) = .ok column := by
  cases offset : v.offset with
  | none => exact ⟨some v, by simp only [processBindParam, offset]⟩
  | some _ =>
    refine ⟨some { utcOf v.instant range with offset := none }, ?_⟩
    simp only [processBindParam, offset]
    exact bind_pure_ok.mpr ⟨_, astimezone_utc_ok.mpr ⟨range, rfl⟩, rfl⟩

/-- A column that was bound reads as UTC. -/
theorem result_bound (plain : stored.offset = none) :
    processResultValue (some stored) = .ok (some { stored with offset := some utc }) := by
  simp only [processResultValue, plain]

/-- What comes back is aware, in UTC, and the same instant. -/
theorem read_back (range : Representable v.instant) :
    ∃ back, readBack v = .ok (some back) ∧ back.offset = some utc ∧ back.instant = v.instant := by
  obtain ⟨column, bound⟩ := bind_returns range
  obtain ⟨_, stored, rfl, plain, shown⟩ := bind_spec bound
  refine ⟨{ stored with offset := some utc }, bind_ok.mpr ⟨_, bound, result_bound plain⟩, rfl, ?_⟩
  rw [instant_local (.inr rfl)]
  exact shown

/-- A value without an offset is read as that time in UTC. -/
theorem read_back_naive (naive : v.offset = none) : readBack v = .ok (some { v with offset := some utc }) := by
  have bound : processBindParam (some v) = .ok (some v) := by
    simp only [processBindParam, naive]
  exact bind_ok.mpr ⟨_, bound, result_bound naive⟩

/-- The database orders what it holds as the instants are ordered. -/
theorem bind_mono (bound : processBindParam (some v) = .ok (some stored))
    (bound' : processBindParam (some w) = .ok (some stored')) :
    v.instant < w.instant ↔ stored.fields < stored'.fields := by
  obtain ⟨_, _, same, _, shown⟩ := bind_spec bound
  obtain ⟨_, _, same', _, shown'⟩ := bind_spec bound'
  cases same
  cases same'
  rw [← shown, ← shown', local_lt_iff]

/-! ## The expiry of a request -/

theorem requested_expiry_ok (requested : requestedExpiry now = .ok expiresAt) :
    expiresAt.offset = now.offset ∧ expiresAt.local = now.local + Instant.hours 2 := by
  unfold requestedExpiry at requested
  split at requested
  · rename_i range
    cases requested
    exact ⟨rfl, of_local_local range now.offset⟩
  · cases requested

/-- A request has an expiry unless the calendar ends before it. -/
theorem requested_expiry_returns (inUtc : now.offset = some utc)
    (range : Representable (now.instant + Instant.hours 2)) :
    ∃ expiresAt, requestedExpiry now = .ok expiresAt := by
  rw [instant_local (.inr inUtc)] at range
  exact ⟨_, dif_pos range⟩

/-- The text in the dump of a state, and the worker's reading of it. -/
theorem worker_reads (expiresAt : Datetime) : Worker.parseDatetime (jsonText expiresAt) = .ok expiresAt := by
  have read : fromIsoFormat (replaceZ (jsonText expiresAt)) = some expiresAt := by
    unfold jsonText
    split
    · rename_i inUtc
      have same : { date := expiresAt.date, clock := expiresAt.clock, offset := some utc } = expiresAt := by
        rw [← inUtc]
      rw [replace_z_zulu, same, from_iso_format]
    · rw [replace_z_iso_format, from_iso_format]
  rw [Worker.parseDatetime, read]

/-- The policy's reading of a column, by way of the text that the worker writes of it. -/
theorem policy_reads (inUtc : v.offset = some utc) :
    (expiryState (some v) >>= PolicyEngine.parseDatetime) = .ok (some v.instant) := by
  have range := local_range v
  rw [← instant_local (.inr inUtc)] at range
  rw [expiryState, ok_bind, parse_written (.isoFormat false), to_utc_ok.mpr ⟨range, rfl⟩]
  rfl

/-- Whatever the offset that an expiry is given with, the policy reads its instant. -/
theorem stored_expiry (range : Representable expiresAt.instant) :
    storedExpiry expiresAt = .ok (some expiresAt.instant) := by
  obtain ⟨back, read, inUtc, same⟩ := read_back range
  obtain ⟨column, bound, result⟩ := bind_ok.mp read
  rw [storedExpiry, worker_reads, ok_bind, bound, ok_bind, result, ok_bind, policy_reads inUtc, same]

/-- A request at a time in UTC expires two hours later, to the policy of a later run as well. -/
theorem requested_expiry_stored (inUtc : now.offset = some utc)
    (requested : requestedExpiry now = .ok expiresAt) :
    storedExpiry expiresAt = .ok (some (now.instant + Instant.hours 2)) := by
  obtain ⟨offset, shown⟩ := requested_expiry_ok requested
  have plain : expiresAt.instant = expiresAt.local := instant_local (.inr (offset.trans inUtc))
  have range : Representable expiresAt.instant := plain ▸ local_range expiresAt
  rw [stored_expiry range, plain, shown, instant_local (.inr inUtc)]

/-- A request that the node for the approval has made: its record expires two hours later, and so
does the row that is stored of it and the approval that a later run makes of that row. -/
structure Expires (now : Datetime) (record : ApprovalRecord) (s' : RecoveryState) : Prop where
  requested : s'.approvalRecord = some (.requested record)
  twoHours : record.expiresAt = now.instant + Instant.hours 2
  read : ∃ expiresAt, requestedExpiry now = .ok expiresAt ∧ expiresAt.instant = record.expiresAt ∧
    storedExpiry expiresAt = .ok (some record.expiresAt)
  stored : ∀ caseId rows, (∀ r ∈ rows, r.approvalId ≠ record.approvalId) → ∃ row,
    insertApproval caseId s' rows = .ok (rows ++ [row]) ∧ row.approvalId = record.approvalId ∧
      row.expiresAt = record.expiresAt ∧ (approvalState row).expiresAt = record.expiresAt

theorem request_expires {approvalId : String} {notify : Except String Unit} {s s' : RecoveryState}
    (inUtc : now.offset = some utc) (ran : requestApprovalNode approvalId now.instant notify s = .ok s') :
    ∃ record, Expires now record s' := by
  simp only [requestApprovalNode, bind_ok, pure_ok, Instant.addSeconds_ok] at ran
  obtain ⟨_, ⟨_, within, rfl⟩, _, _, rfl⟩ := ran
  have shown : now.instant = now.local := instant_local (.inr inUtc)
  have range : Representable (now.local + Instant.hours 2) := by
    refine ⟨(local_range now).1.trans ?_, shown ▸ within⟩
    unfold Instant.hours Instant.seconds
    omega
  have requested : requestedExpiry now = .ok (ofLocal (now.local + Instant.hours 2) range now.offset) :=
    dif_pos range
  have plain : (ofLocal (now.local + Instant.hours 2) range now.offset).instant = _ :=
    instant_local (.inr inUtc)
  refine ⟨_, rfl, rfl, ⟨_, requested, ?_, requested_expiry_stored inUtc requested⟩, fun caseId rows fresh => ?_⟩
  · rw [plain, of_local_local, ← shown]
    rfl
  · have unknown : rows.any (fun r => r.approvalId = approvalId) = false := by
      simpa using fresh
    exact ⟨_, (if_pos rfl).trans (if_neg (Bool.eq_false_iff.mp unknown)), rfl, rfl, rfl⟩

/-! ## Both together -/

/-- A column gives every instant back in UTC, takes a value without an offset for one in UTC
and holds instants in their order, and the expiry of a request for approval comes through all its
forms, from the node to the policy of a later run, unshifted. -/
theorem deadlines_survive :
    (∀ v : Datetime, v.offset ≠ none → Representable v.instant →
        ∃ back, readBack v = .ok (some back) ∧ back.offset = some utc ∧ back.instant = v.instant) ∧
      (∀ v : Datetime, v.offset = none → readBack v = .ok (some { v with offset := some utc })) ∧
      (∀ v w stored stored' : Datetime, processBindParam (some v) = .ok (some stored) →
        processBindParam (some w) = .ok (some stored') → (v.instant < w.instant ↔ stored.fields < stored'.fields)) ∧
      ∀ (date : Date) (clock : Clock),
        (Representable ((utcNow date clock).instant + Instant.hours 2) →
          ∃ expiresAt, requestedExpiry (utcNow date clock) = .ok expiresAt) ∧
        (∀ expiresAt, requestedExpiry (utcNow date clock) = .ok expiresAt →
          storedExpiry expiresAt = .ok (some ((utcNow date clock).instant + Instant.hours 2))) ∧
        ∀ approvalId notify s s',
          requestApprovalNode approvalId (utcNow date clock).instant notify s = .ok s' →
          ∃ record, Expires (utcNow date clock) record s' := by
  refine ⟨?aware, ?naive, ?order, ?expiry⟩
  case aware =>
    intro v _ range
    exact read_back range
  case naive =>
    intro v naive
    exact read_back_naive naive
  case order =>
    intro v w stored stored' bound bound'
    exact bind_mono bound bound'
  case expiry =>
    intro date clock
    refine ⟨fun range => requested_expiry_returns rfl range, fun expiresAt requested => ?_,
      fun approvalId notify s s' ran => request_expires rfl ran⟩
    exact requested_expiry_stored rfl requested

/-- A request on New Year's Day. -/
theorem deadlines_survive_new_year : ∃ s s' record,
    requestApprovalNode "APR-000000000001" (utcNow newYear (halfPast 6 (by decide))).instant (.ok ()) s = .ok s' ∧
      Expires (utcNow newYear (halfPast 6 (by decide))) record s' := by
  obtain ⟨s, built⟩ : ∃ s, buildState (GraphProofs.sampleCase "REC-00000001" 6000000) none = .ok s := ⟨_, rfl⟩
  obtain ⟨_, due⟩ : ∃ due,
      Instant.addSeconds (utcNow newYear (halfPast 6 (by decide))).instant 7200 = .ok due :=
    ⟨_, Instant.addSeconds_ok.mpr ⟨by decide, by decide, rfl⟩⟩
  obtain ⟨s', ran⟩ : ∃ s', requestApprovalNode "APR-000000000001"
      (utcNow newYear (halfPast 6 (by decide))).instant (.ok ()) s = .ok s' :=
    ⟨_, bind_ok.mpr ⟨_, due, rfl⟩⟩
  obtain ⟨record, expires⟩ := (deadlines_survive.2.2.2 newYear (halfPast 6 (by decide))).2.2 _ _ s s' ran
  exact ⟨s, s', record, ran, expires⟩

/-- Half past nine in India is four in UTC. -/
example : readBack { noonInIndia with clock := halfPast 9 (by decide) } =
    .ok (some (utcNow newYear { hour := 4, minute := 0, second := 0, microsecond := 0, valid := by decide })) := by
  decide +kernel

end RevenueGuard.TimestampProofs
