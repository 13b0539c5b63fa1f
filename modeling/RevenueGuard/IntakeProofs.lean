import RevenueGuard.Library.DoubleEntry
import RevenueGuard.TableProofs

/-!
Exactly-once intake over whole runs of the service.

`intake_exactly_once` says of every reached state that an event identifier has at
most one row; that the failures on record and the cases that came in by webhook
stand in a one-to-one correspondence, transaction by transaction; that a handler
that fails leaves the tables as they were; and that a redelivery of an event that
is not on record is accepted, whatever the other parties do meanwhile.
-/

namespace RevenueGuard.IntakeProofs

open Library Library.Runs Library.Raises Library.DoubleEntry GraphProofs WorkerProofs SystemProofs TableProofs

variable {d : Deployment} {s s' t : System} {db : Database} {e : Event} {es fs : List Event}
  {i j : ℕ} {kind : DatabaseKind}

/-! ## The rows of one webhook -/

/-- The transaction of a failure on record. -/
def failureOf (record : WebhookEvent) : Option ℕ :=
  if record.eventType = "payment.failed" then some record.insertedBy else none

/-- The transaction of a case that came in by a webhook. -/
def webhookOf (case : RecoveryCase) : Option ℕ :=
  match case.origin with
  | .webhook transaction => some transaction
  | .batch _ => none

theorem failure_of_number (record : WebhookEvent) (transaction : ℕ)
    (marked : failureOf record = some transaction) : record.insertedBy = transaction := by
  unfold failureOf at marked
  split at marked
  · exact Option.some.inj marked
  · cases marked

theorem webhook_of_eq {case : RecoveryCase} {transaction : ℕ} :
    webhookOf case = some transaction ↔ case.origin = .webhook transaction := by
  unfold webhookOf
  cases case.origin <;> simp

/-- The stored event type is the text of a failure only where the delivered one
is. -/
theorem bind_text_failed {value : Json} {text : String} (bound : bindText kind value = .ok text) :
    text = "payment.failed" ↔ isPaymentFailed value = true := by
  have numeral_differs : ∀ other : String, other.toList.all isNumeralChar = true →
      other ≠ "payment.failed" := by
    intro other numeral same
    rw [same] at numeral
    exact absurd numeral (by decide)
  cases value with
  | str delivered =>
    cases bound
    simp [isPaymentFailed]
  | int i =>
    cases kind with
    | sqlite =>
      cases bound
      simpa [isPaymentFailed] using numeral_differs _ (int_text_numeral i)
    | postgresql => cases bound
  | bool b =>
    cases kind with
    | sqlite =>
      cases bound
      cases b <;> decide
    | postgresql => cases bound
  | float delivered value =>
    cases kind with
    | sqlite =>
      simp only [bindText] at bound
      split at bound
      · cases bound
      · cases bound
        simpa [isPaymentFailed] using numeral_differs _ delivered.numeral
    | postgresql => cases bound
  | null => cases bound
  | arr => cases bound
  | obj => cases bound

theorem webhook_record_ok {eventId : String} {event : Dict} {record : WebhookEvent}
    (made : webhookRecord kind i eventId event = .ok record) :
    record.razorpayEventId = eventId ∧ record.insertedBy = i ∧ record.rawPayload = event ∧
      bindText kind (event.getD "event" (.str "unknown")) = .ok record.eventType := by
  simp only [webhookRecord, bind_ok, pure_ok] at made
  obtain ⟨_, _, _, _, _, _, eventType, bound, _, _, _, _, rfl⟩ := made
  exact ⟨rfl, rfl, rfl, bound⟩

/-- A handler adds the row of its event, and with it a case exactly if the event
is a failure. -/
theorem webhook_rows_ok {caseHex customerHex eventId : String} {now : ℤ} {event : Dict}
    {record : WebhookEvent} {case : Option RecoveryCase}
    (made : webhookRows kind i caseHex customerHex now eventId event = .ok (record, case)) :
    record.razorpayEventId = eventId ∧ record.insertedBy = i ∧
      Reconciled failureOf webhookOf [record] case.toList := by
  obtain ⟨record', madeRecord, made⟩ := bind_ok.mp made
  obtain ⟨sameId, inserted, _, bound⟩ := webhook_record_ok madeRecord
  split at made
  · rename_i failed
    obtain ⟨normalized, _, shape⟩ := bind_ok.mp made
    cases pure_ok.mp shape
    have stored := (bind_text_failed bound).mpr failed
    refine ⟨sameId, inserted, ?_⟩
    simp [Reconciled, failureOf, stored, inserted, webhookOf, webhookCase]
  · rename_i other
    cases pure_ok.mp made
    have stored : record.eventType ≠ "payment.failed" := mt (bind_text_failed bound).mp other
    refine ⟨sameId, inserted, ?_⟩
    simp [Reconciled, failureOf, stored]

theorem batch_rows_ok {now : ℤ} {events : List (String × SimulatedEvent)} {cases : List RecoveryCase}
    (made : batchRows i now events = .ok cases) : Reconciled failureOf webhookOf [] cases := by
  have untagged : ∀ case ∈ cases, webhookOf case = none := by
    refine map_m_ok (P := fun case => webhookOf case = none) ?_ made
    rintro ⟨hex, event⟩ case simulated
    obtain ⟨category, _, shape⟩ := bind_ok.mp simulated
    cases pure_ok.mp shape
    rfl
  exact List.filterMap_eq_nil_iff.mpr untagged

/-! ## Requests before their commit -/

/-- A request that may still commit rows. -/
def uncommitted : RequestPhase → Bool
  | .enqueueing _ _ | .answered | .failed _ => false
  | _ => true

theorem uncommitted_enqueueing (caseIds : List String) : uncommitted (enqueueing caseIds) = false := by
  cases caseIds <;> rfl

/-- The rows a request holds belong together, under its own number. -/
def Owned (i : ℕ) : RequestPhase → Prop
  | .webhookAdded record case =>
    record.insertedBy = i ∧ Reconciled failureOf webhookOf [record] case.toList
  | .batchAdded cases => Reconciled failureOf webhookOf [] cases
  | _ => True

theorem owned_enqueueing (caseIds : List String) : Owned i (enqueueing caseIds) := by
  cases caseIds <;> trivial

/-- Where a request comes from, if it has not committed yet, and what it holds. -/
theorem request_phase_step {e : RequestEvent} (moved : RequestStep d s i e t) :
    (uncommitted (t.requests i) = true → uncommitted (s.requests i) = true) ∧ Owned i (t.requests i) := by
  cases moved with
  | receive phase =>
    simp only [set_request_requests, Function.update_self, phase]
    refine ⟨fun _ => rfl, ?_⟩
    unfold afterLookup
    split <;> trivial
  | simulate phase =>
    simp only [set_request_requests, Function.update_self, phase]
    refine ⟨fun _ => rfl, ?_⟩
    unfold afterBatch
    split
    · trivial
    · rename_i made
      exact batch_rows_ok made
  | decide phase =>
    simp only [set_request_requests, Function.update_self, phase]
    refine ⟨fun _ => rfl, ?_⟩
    unfold afterAccept
    split <;> trivial
  | addRows phase =>
    simp only [set_request_requests, Function.update_self, phase]
    refine ⟨fun _ => rfl, ?_⟩
    unfold afterRows
    split
    · trivial
    · rename_i made
      obtain ⟨_, inserted, reconciled⟩ := webhook_rows_ok made
      exact ⟨inserted, reconciled⟩
  | committed =>
    simp only [set_request_requests, Function.update_self, uncommitted_enqueueing]
    exact ⟨fun opened => absurd opened Bool.false_ne_true, owned_enqueueing _⟩
  | push =>
    simp only [set_request_requests, Function.update_self, afterPush]
    split
    · rw [uncommitted_enqueueing]
      exact ⟨fun opened => absurd opened Bool.false_ne_true, owned_enqueueing _⟩
    · exact ⟨fun opened => absurd opened Bool.false_ne_true, trivial⟩
  | refused | noClient | abort =>
    simp only [set_request_requests, Function.update_self]
    exact ⟨fun opened => absurd opened Bool.false_ne_true, trivial⟩

/-! ## The intake invariant -/

/-- What the intake keeps true of the tables and of the open requests. -/
structure Intake (s : System) : Prop where
  owned : ∀ i, Owned i (s.requests i)
  fresh : ∀ i, uncommitted (s.requests i) = true → ∀ record ∈ s.db.webhookEvents, record.insertedBy ≠ i
  eventIds : (s.db.webhookEvents.map (·.razorpayEventId)).Nodup
  transactions : (s.db.webhookEvents.map (·.insertedBy)).Nodup
  reconciled : Reconciled failureOf webhookOf s.db.webhookEvents s.db.recoveryCases

/-- A step commits the rows of one webhook, or leaves the intake as it was. -/
theorem intake_tables_step (owned : ∀ i, Owned i (s.requests i)) (stepped : step d s e = some s') :
    (s'.db.webhookEvents = s.db.webhookEvents ∧
        s'.db.recoveryCases.filterMap webhookOf = s.db.recoveryCases.filterMap webhookOf) ∨
      ∃ i record case, s.requests i = .webhookAdded record case ∧
        commitWebhook record case s.db = .ok s'.db ∧
        s'.requests i = enqueueing (case.map (·.caseId)).toList := by
  cases step_commit stepped with
  | nothing same =>
    rw [same]
    exact .inl ⟨rfl, rfl⟩
  | webhook phase committed next => exact .inr ⟨_, _, _, phase, committed, next⟩
  | @batch i _ cases _ phase committed =>
    left
    obtain ⟨_, written⟩ := commit_batch_ok committed
    have untagged : Owned i (.batchAdded cases) := phase ▸ owned i
    rw [written]
    refine ⟨rfl, ?_⟩
    rw [List.filterMap_append, untagged, List.filterMap_nil, List.append_nil]
  | verdict _ written =>
    rw [written]
    exact .inl ⟨rfl, rfl⟩
  | persist _ committed =>
    have persisted := persist_result_ok committed
    refine .inl ⟨persisted.webhookEvents, ?_⟩
    rw [persisted.recoveryCases]
    exact Keyed.filter_map_modify fun _ => rfl
  | recordFailure _ written =>
    rw [written]
    exact .inl ⟨rfl, Keyed.filter_map_modify fun _ => rfl⟩

theorem owned_step (owned : ∀ i, Owned i (s.requests i)) (stepped : step d s e = some s') (j : ℕ) :
    Owned j (s'.requests j) := by
  by_cases mine : ∃ moved, e = .request j moved
  · obtain ⟨moved, rfl⟩ := mine
    cases step_cases stepped with
    | request moved => exact (request_phase_step moved).2
  · rw [requests_other stepped fun moved same => mine ⟨moved, same⟩]
    exact owned j

/-- The rows a request holds belong together in every reached state. -/
theorem owned_requests (ran : run (step d) {} es = some s) : ∀ i, Owned i (s.requests i) := by
  have start : ∀ i, Owned i (({} : System).requests i) := fun _ => trivial
  exact run_invariant (P := fun s => ∀ i, Owned i (s.requests i))
    (fun _ _ _ owned stepped => owned_step owned stepped) start ran

theorem uncommitted_step (stepped : step d s e = some s') (open_ : uncommitted (s'.requests j) = true) :
    uncommitted (s.requests j) = true := by
  by_cases mine : ∃ moved, e = .request j moved
  · obtain ⟨moved, rfl⟩ := mine
    cases step_cases stepped with
    | request moved => exact (request_phase_step moved).1 open_
  · rwa [requests_other stepped fun moved same => mine ⟨moved, same⟩] at open_

theorem intake_step (known : Intake s) (stepped : step d s e = some s') : Intake s' := by
  rcases intake_tables_step known.owned stepped with
    ⟨sameEvents, sameCases⟩ | ⟨i, record, case, phase, committed, closed⟩
  · refine
      { owned := owned_step known.owned stepped
        fresh := fun j open_ => ?_
        eventIds := by rw [sameEvents]; exact known.eventIds
        transactions := by rw [sameEvents]; exact known.transactions
        reconciled := ?_ }
    · rw [sameEvents]
      exact known.fresh j (uncommitted_step stepped open_)
    · unfold Reconciled
      rw [sameEvents, sameCases]
      exact known.reconciled
  · obtain ⟨inserted, posted⟩ : Owned i (.webhookAdded record case) := phase ▸ known.owned i
    have unposted := known.fresh i (by rw [phase]; rfl)
    obtain ⟨freshEvent, _, shape⟩ := commit_webhook_ok committed
    have events : s'.db.webhookEvents = s.db.webhookEvents ++ [record] := by rw [shape]
    have cases' : s'.db.recoveryCases = s.db.recoveryCases ++ case.toList := by rw [shape]
    refine
      { owned := owned_step known.owned stepped
        fresh := fun j open_ => ?_
        eventIds := ?_
        transactions := ?_
        reconciled := ?_ }
    · rw [events]
      intro other listed
      rcases List.mem_append.mp listed with earlier | new
      · exact known.fresh j (uncommitted_step stepped open_) other earlier
      · rw [List.mem_singleton.mp new, inserted]
        rintro rfl
        rw [closed, uncommitted_enqueueing] at open_
        cases open_
    · rw [events]
      exact Keyed.nodup_insert known.eventIds freshEvent
    · rw [events]
      exact Keyed.nodup_insert known.transactions (inserted.symm ▸ unposted)
    · rw [events, cases']
      exact reconciled_append known.reconciled posted

theorem intake_invariant (ran : run (step d) {} es = some s) : Intake s := by
  have start : Intake {} :=
    { owned := fun _ => trivial
      fresh := fun _ _ record listed => by cases listed
      eventIds := List.nodup_nil
      transactions := List.nodup_nil
      reconciled := reconciled_nil }
  exact run_invariant (fun _ _ _ known stepped => intake_step known stepped) start ran

/-! ## What a request holds -/

/-- A request has received an event, under the identifier that its row will have. -/
def Received (d : Deployment) (es : List Event) (i : ℕ) (eventId : String) (event : Dict) : Prop :=
  ∃ delivery, .request i (.receive delivery) ∈ es ∧
    receiveWebhook d.settings.razorpayWebhookSecret delivery = .ok (.inr (.obj event)) ∧
    bindText d.database (razorpayEventId delivery event) = .ok eventId

/-- What a request is about to insert is made of what it got from outside. -/
def Sourced (d : Deployment) (es : List Event) (i : ℕ) : RequestPhase → Prop
  | .webhookMissed eventId event => Received d es i eventId event
  | .webhookAdded record case => ∃ caseHex customerHex now eventId event, Received d es i eventId event ∧
      webhookRows d.database i caseHex customerHex now eventId event = .ok (record, case)
  | .batchAdded cases => ∃ now events, .request i (.simulate now events) ∈ es ∧
      batchRows i now events = .ok cases
  | _ => True

theorem received_later {eventId : String} {event : Dict} (received : Received d es i eventId event) :
    Received d (es ++ fs) i eventId event := by
  obtain ⟨delivery, sent, taken⟩ := received
  exact ⟨delivery, List.mem_append_left _ sent, taken⟩

theorem sourced_later {phase : RequestPhase} (sourced : Sourced d es i phase) :
    Sourced d (es ++ fs) i phase := by
  cases phase with
  | webhookMissed => exact received_later sourced
  | webhookAdded =>
    obtain ⟨caseHex, customerHex, now, eventId, event, received, made⟩ := sourced
    exact ⟨caseHex, customerHex, now, eventId, event, received_later received, made⟩
  | batchAdded =>
    obtain ⟨now, events, sent, made⟩ := sourced
    exact ⟨now, events, List.mem_append_left _ sent, made⟩
  | _ => trivial

theorem sourced_enqueueing (caseIds : List String) : Sourced d es i (enqueueing caseIds) := by
  cases caseIds <;> trivial

/-- A delivery that is not on record yet leaves the handler with its event. -/
theorem lookup_received {delivery : Delivery} {db : Database} (sent : .request i (.receive delivery) ∈ es) :
    Sourced d es i (afterLookup (lookupWebhook d.database d.settings.razorpayWebhookSecret delivery db)) := by
  unfold afterLookup
  split
  · trivial
  · trivial
  rename_i eventId event missed
  simp only [lookupWebhook, bind_ok] at missed
  obtain ⟨response | body, taken, missed⟩ := missed
  · cases missed
  obtain ⟨fields, isDict, missed⟩ := bind_ok.mp missed
  obtain ⟨text, identified, missed⟩ := bind_ok.mp missed
  split at missed
  · cases missed
  cases missed
  cases body with
  | obj =>
    cases isDict
    exact ⟨delivery, sent, taken, identified⟩
  | _ => cases isDict

theorem sourced_request_step {moved : RequestEvent} (known : Sourced d es i (s.requests i))
    (sent : .request i moved ∈ fs) (past : ∀ e ∈ es, e ∈ fs) (stepped : RequestStep d s i moved t) :
    Sourced d fs i (t.requests i) := by
  cases stepped with
  | receive =>
    simp only [set_request_requests, Function.update_self]
    exact lookup_received sent
  | @simulate now events =>
    simp only [set_request_requests, Function.update_self, afterBatch]
    split
    · trivial
    · rename_i made
      exact ⟨now, events, sent, made⟩
  | decide =>
    simp only [set_request_requests, Function.update_self, afterAccept]
    split <;> trivial
  | @addRows eventId event caseHex customerHex now missed =>
    simp only [set_request_requests, Function.update_self, afterRows]
    split
    · trivial
    · rename_i made
      rw [missed] at known
      obtain ⟨delivery, received, taken⟩ := known
      exact ⟨caseHex, customerHex, now, eventId, event, ⟨delivery, past _ received, taken⟩, made⟩
  | committed =>
    simp only [set_request_requests, Function.update_self]
    exact sourced_enqueueing _
  | push =>
    simp only [set_request_requests, Function.update_self, afterPush]
    split
    · exact sourced_enqueueing _
    · trivial
  | refused | noClient | abort =>
    simp only [set_request_requests, Function.update_self]
    trivial

theorem sourced_requests (ran : run (step d) {} es = some s) : ∀ i, Sourced d es i (s.requests i) := by
  refine run_history (P := fun es s => ∀ i, Sourced d es i (s.requests i)) (fun _ => by trivial) ?_ ran
  intro es s e s' _ known stepped j
  by_cases mine : ∃ moved, e = .request j moved
  · obtain ⟨moved, rfl⟩ := mine
    cases step_cases stepped with
    | request moved =>
      have sourced := sourced_request_step (known j) (List.mem_append_right es (List.mem_singleton_self _))
        (fun _ => List.mem_append_left _) moved
      exact sourced
  · rw [requests_other stepped fun moved same => mine ⟨moved, same⟩]
    exact sourced_later (known j)

/-! ## The event behind a row -/

/-- The row of an event that its request received: identifier, type and payload are the event's. -/
structure RecordedFor (d : Deployment) (es : List Event) (record : WebhookEvent) : Prop where
  received : Received d es record.insertedBy record.razorpayEventId record.rawPayload
  eventType : bindText d.database (record.rawPayload.getD "event" (.str "unknown")) = .ok record.eventType

/-- The case that the normalizer makes of the event on record, in the columns that a case comes in
with. -/
def OpenedBy (record : WebhookEvent) (case : RecoveryCase) : Prop :=
  ∃ caseHex customerHex now normalized,
    normalizeRazorpayEvent caseHex customerHex record.rawPayload = .ok normalized ∧
      intakePart case = webhookCase record.insertedBy now normalized

/-- The rows of the webhooks are those of the events that were delivered. -/
structure RowsDelivered (d : Deployment) (es : List Event) (db : Database) : Prop where
  records : ∀ record ∈ db.webhookEvents, RecordedFor d es record
  cases : ∀ case ∈ db.recoveryCases, ∀ transaction, case.origin = .webhook transaction →
    ∃ record ∈ db.webhookEvents, record.insertedBy = transaction ∧ OpenedBy record case

theorem rows_delivered {caseHex customerHex eventId : String} {now : ℤ} {event : Dict} {record : WebhookEvent}
    {added : Option RecoveryCase} (received : Received d es i eventId event)
    (made : webhookRows d.database i caseHex customerHex now eventId event = .ok (record, added)) :
    RecordedFor d es record ∧ ∀ case ∈ added, case.origin = .webhook record.insertedBy ∧
      OpenedBy record case := by
  obtain ⟨record', recorded, made⟩ := bind_ok.mp made
  obtain ⟨sameId, inserted, payload, bound⟩ := webhook_record_ok recorded
  have recordedFor : RecordedFor d es record' :=
    ⟨by rw [inserted, sameId, payload]; exact received, payload ▸ bound⟩
  split at made
  · obtain ⟨normalized, taken, shape⟩ := bind_ok.mp made
    cases pure_ok.mp shape
    refine ⟨recordedFor, fun case listed => ?_⟩
    cases listed
    unfold OpenedBy
    rw [inserted, payload]
    exact ⟨rfl, caseHex, customerHex, now, normalized, taken, rfl⟩
  · cases pure_ok.mp made
    exact ⟨recordedFor, fun case listed => by cases listed⟩

theorem recorded_later {record : WebhookEvent} (recorded : RecordedFor d es record) :
    RecordedFor d (es ++ fs) record :=
  ⟨received_later recorded.received, recorded.eventType⟩

theorem delivered_step (ran : run (step d) {} es = some s) (known : RowsDelivered d es s.db)
    (stepped : step d s e = some s') : RowsDelivered d (es ++ [e]) s'.db := by
  have records : ∀ record ∈ s.db.webhookEvents, RecordedFor d (es ++ [e]) record :=
    fun record listed => recorded_later (known.records record listed)
  -- An update changes neither where a case comes from nor what it came in with.
  have updated {caseId : String} {f : RecoveryCase → RecoveryCase} {case : RecoveryCase} {transaction : ℕ}
      (kept : ∀ case, intakePart (f case) = intakePart case)
      (listed : case ∈ Keyed.modify (·.caseId) caseId f s.db.recoveryCases)
      (tagged : case.origin = .webhook transaction) :
      ∃ record ∈ s.db.webhookEvents, record.insertedBy = transaction ∧ OpenedBy record case := by
    rcases Keyed.mem_modify.mp listed with ⟨old, there, _, rfl⟩ | ⟨there, _⟩
    · have origin : (f old).origin = old.origin := congrArg (·.origin) (kept old)
      obtain ⟨record, stored, inserted, opened⟩ := known.cases old there transaction (origin ▸ tagged)
      obtain ⟨caseHex, customerHex, now, normalized, taken, same⟩ := opened
      exact ⟨record, stored, inserted, caseHex, customerHex, now, normalized, taken, (kept old).trans same⟩
    · exact known.cases case there transaction tagged
  cases step_commit stepped with
  | nothing same => exact ⟨same ▸ records, same ▸ known.cases⟩
  | @webhook i now record added _ phase committed =>
    have held := sourced_requests ran i
    rw [phase] at held
    obtain ⟨caseHex, customerHex, now, eventId, event, received, made⟩ := held
    obtain ⟨recorded, opened⟩ := rows_delivered (received_later received) made
    obtain ⟨_, _, written⟩ := commit_webhook_ok committed
    rw [written]
    constructor
    · intro row listed
      rcases List.mem_append.mp listed with old | new
      · exact records row old
      · cases List.mem_singleton.mp new
        exact recorded
    · intro case listed transaction tagged
      rcases List.mem_append.mp listed with old | new
      · obtain ⟨row, stored, same⟩ := known.cases case old transaction tagged
        exact ⟨row, List.mem_append_left _ stored, same⟩
      · obtain ⟨origin, openedBy⟩ := opened case (Option.mem_toList.mp new)
        cases origin.symm.trans tagged
        exact ⟨record, List.mem_append_right _ (List.mem_singleton_self _), rfl, openedBy⟩
  | @batch i now added _ phase committed =>
    have untagged : Owned i (.batchAdded added) := phase ▸ (owned_requests ran i)
    obtain ⟨_, written⟩ := commit_batch_ok committed
    rw [written]
    refine ⟨records, fun case listed transaction tagged => ?_⟩
    rcases List.mem_append.mp listed with old | new
    · exact known.cases case old transaction tagged
    · cases (List.filterMap_eq_nil_iff.mp untagged case new).symm.trans (webhook_of_eq.mpr tagged)
  | verdict _ written => rw [written]; exact ⟨records, known.cases⟩
  | persist _ committed =>
    have persisted := persist_result_ok committed
    refine ⟨persisted.webhookEvents ▸ records, fun case listed transaction tagged => ?_⟩
    rw [persisted.recoveryCases] at listed
    rw [persisted.webhookEvents]
    exact updated (f := updateCase _ _ _) (fun _ => rfl) listed tagged
  | recordFailure _ written =>
    rw [written]
    refine ⟨records, fun case listed transaction tagged => ?_⟩
    unfold recordFailure at listed
    exact updated (fun _ => by rfl) listed tagged

theorem delivered_run (ran : run (step d) {} es = some s) : RowsDelivered d es s.db :=
  run_history (P := fun es s => RowsDelivered d es s.db)
    ⟨fun _ listed => (by cases listed), fun _ listed => (by cases listed)⟩
    (fun _ _ _ _ ranBefore known stepped => delivered_step ranBefore known stepped) ran

/-! ## Exactly-once intake -/

/-- What the two tables say of every delivery: an event has one row at most, which is that of the
event as it was delivered, and a failure on record has one case, which is what the normalizer makes
of it. -/
structure ExactlyOnce (d : Deployment) (es : List Event) (db : Database) : Prop where
  eventIds : (db.webhookEvents.map (·.razorpayEventId)).Nodup
  transactions : (db.webhookEvents.map (·.insertedBy)).Nodup
  delivered : ∀ record ∈ db.webhookEvents, RecordedFor d es record
  failures : ∀ record ∈ db.webhookEvents, record.eventType = "payment.failed" →
    ∃! case, case ∈ db.recoveryCases ∧ case.origin = .webhook record.insertedBy
  cases : ∀ case ∈ db.recoveryCases, ∀ transaction, case.origin = .webhook transaction →
    ∃ record ∈ db.webhookEvents, record.insertedBy = transaction ∧ record.eventType = "payment.failed" ∧
      OpenedBy record case

theorem exactly_once_of_intake (known : Intake s) (delivered : RowsDelivered d es s.db) :
    ExactlyOnce d es s.db where
  eventIds := known.eventIds
  transactions := known.transactions
  delivered := delivered.records
  failures := by
    intro record stored failed
    have marked : failureOf record = some record.insertedBy := if_pos failed
    have only := reconciled_right known.reconciled failure_of_number known.transactions stored marked
    simpa only [webhook_of_eq] using only
  cases := by
    intro case stored transaction tagged
    obtain ⟨record, written, marked⟩ := reconciled_left known.reconciled stored (webhook_of_eq.mpr tagged)
    have inserted := failure_of_number record transaction marked
    obtain ⟨record', written', inserted', opened⟩ := delivered.cases case stored transaction tagged
    cases List.inj_on_of_nodup_map known.transactions written written' (inserted.trans inserted'.symm)
    refine ⟨record, written, inserted, ?_, opened⟩
    by_contra other
    rw [failureOf, if_neg other] at marked
    cases marked

/-- A request that fails before its commit leaves the tables as they were, and
nothing of its own in them. -/
def FailsCleanly (d : Deployment) (s : System) : Prop :=
  ∀ i e s' exc, uncommitted (s.requests i) = true → step d s (.request i e) = some s' →
    s'.requests i = .failed exc →
      s'.db = s.db ∧ (∀ record ∈ s'.db.webhookEvents, record.insertedBy ≠ i) ∧
        ∀ case ∈ s'.db.recoveryCases, case.origin ≠ .webhook i

theorem fails_cleanly (known : Intake s) (delivered : RowsDelivered d es s.db) : FailsCleanly d s := by
  intro i e s' exc open_ stepped failed
  have unchanged : s'.db = s.db := by
    cases step_cases stepped with
    | request moved =>
      cases moved with
      | @committed _ caseIds =>
        simp only [tick_requests, set_request_requests, Function.update_self] at failed
        cases caseIds <;> cases failed
      | _ => rfl
  rw [unchanged]
  have unposted := known.fresh i open_
  refine ⟨rfl, unposted, ?_⟩
  intro case stored tagged
  obtain ⟨record, written, inserted, _⟩ := (exactly_once_of_intake known delivered).cases case stored i tagged
  exact unposted record written inserted

/-! ## Redelivery -/

theorem webhook_event_step {record : WebhookEvent} (stepped : DbStep d s db)
    (stored : record ∈ s.db.webhookEvents) : record ∈ db.webhookEvents := by
  cases stepped with
  | webhook _ committed =>
    obtain ⟨_, _, rfl⟩ := commit_webhook_ok committed
    exact List.mem_append_left _ stored
  | batch _ committed =>
    obtain ⟨_, rfl⟩ := commit_batch_ok committed
    exact stored
  | persist _ committed =>
    rw [(persist_result_ok committed).webhookEvents]
    exact stored
  | _ => exact stored

/-- An event on record stays on record. -/
theorem webhook_event_kept {record : WebhookEvent} (ran : run (step d) s es = some s')
    (stored : record ∈ s.db.webhookEvents) : record ∈ s'.db.webhookEvents :=
  run_invariant (P := fun s => record ∈ s.db.webhookEvents)
    (fun _ _ _ stored stepped => webhook_event_step (step_db stepped) stored) stored ran

/-- A delivery that the handler can turn into rows. -/
structure Delivers (d : Deployment) (j : ℕ) (delivery : Delivery) (eventId caseHex customerHex : String)
    (event : Dict) (now : ℤ) (record : WebhookEvent) (case : Option RecoveryCase) : Prop where
  received : receiveWebhook d.settings.razorpayWebhookSecret delivery = .ok (.inr (.obj event))
  identified : bindText d.database (razorpayEventId delivery event) = .ok eventId
  rows : webhookRows d.database j caseHex customerHex now eventId event = .ok (record, case)

/-- A delivery by a fresh request, under an identifier and for a case that are
not on record when it commits, is committed, whatever other parties do between
its steps. -/
def AcceptsRedelivery (d : Deployment) (s : System) : Prop :=
  ∀ j delivery eventId caseHex customerHex event now later record case first second t,
    Delivers d j delivery eventId caseHex customerHex event now record case →
    s.requests j = .idle →
    (∀ e ∈ first ++ second, ∀ moved, e ≠ .request j moved) →
    run (step d) s (.request j (.receive delivery) :: first ++
      .request j (.addRows caseHex customerHex now) :: second) = some t →
    (∀ other ∈ t.db.webhookEvents, other.razorpayEventId ≠ eventId) →
    (∀ new ∈ case, ∀ other ∈ t.db.recoveryCases, other.caseId ≠ new.caseId) →
    ∃ t', step d t (.request j (.commit later)) = some t' ∧
      t'.db = { t.db with
        webhookEvents := t.db.webhookEvents ++ [record]
        recoveryCases := t.db.recoveryCases ++ case.toList } ∧
      t'.requests j = enqueueing (case.map (·.caseId)).toList

theorem lookup_misses {delivery : Delivery} {secret eventId : String} {event : Dict}
    (received : receiveWebhook secret delivery = .ok (.inr (.obj event)))
    (identified : bindText kind (razorpayEventId delivery event) = .ok eventId)
    (absent : ∀ other ∈ db.webhookEvents, other.razorpayEventId ≠ eventId) :
    lookupWebhook kind secret delivery db = .ok (.inr (eventId, event)) := by
  have missed : ¬ (db.webhookEvents.any fun r => r.razorpayEventId = eventId) := by
    simpa using absent
  unfold lookupWebhook
  rw [received]
  refine bind_ok.mpr ⟨.inr (.obj event), rfl, bind_ok.mpr ⟨event, rfl, ?_⟩⟩
  refine bind_ok.mpr ⟨eventId, identified, ?_⟩
  rw [if_neg missed]
  rfl

theorem commit_webhook_fresh {record : WebhookEvent} {case : Option RecoveryCase}
    (absent : ∀ other ∈ db.webhookEvents, other.razorpayEventId ≠ record.razorpayEventId)
    (fresh : ∀ new ∈ case, ∀ other ∈ db.recoveryCases, other.caseId ≠ new.caseId) :
    commitWebhook record case db = .ok { db with
      webhookEvents := db.webhookEvents ++ [record]
      recoveryCases := db.recoveryCases ++ case.toList } := by
  have missed : ¬ (db.webhookEvents.any fun r => r.razorpayEventId = record.razorpayEventId) := by
    simpa using absent
  unfold commitWebhook
  rw [if_neg missed]
  cases case with
  | none => simp
  | some new =>
    have unused : ¬ (db.recoveryCases.any fun r => r.caseId = new.caseId) := by
      simpa using fresh new rfl
    simp [unused]

theorem accepts_redelivery : AcceptsRedelivery d s := by
  intro j delivery eventId caseHex customerHex event now later record case first second t delivers idle
    others ran absent fresh
  rw [run_append, Option.bind_eq_some_iff] at ran
  obtain ⟨s₂, ran₁, ran₂⟩ := ran
  obtain ⟨s₁, received, ran₁⟩ := Option.bind_eq_some_iff.mp ran₁
  obtain ⟨s₃, added, ran₂⟩ := Option.bind_eq_some_iff.mp ran₂
  have absentBefore : ∀ other ∈ s.db.webhookEvents, other.razorpayEventId ≠ eventId := by
    intro other stored
    have kept₁ := webhook_event_step (step_db received) stored
    have kept₂ := webhook_event_kept ran₁ kept₁
    have kept₃ := webhook_event_step (step_db added) kept₂
    exact absent other (webhook_event_kept ran₂ kept₃)
  have missed : s₁.requests j = .webhookMissed eventId event := by
    simp only [step, stepRequest, idle, Option.map_some, Option.some.injEq] at received
    rw [← received, lookup_misses delivers.received delivers.identified absentBefore]
    simp [afterLookup]
  have stillMissed : s₂.requests j = .webhookMissed eventId event :=
    (run_requests_other ran₁ fun e listed => others e (List.mem_append_left _ listed)).trans missed
  have rows : s₃.requests j = .webhookAdded record case := by
    simp only [step, stepRequest, stillMissed, Option.map_some, Option.some.injEq] at added
    rw [← added, delivers.rows]
    simp [afterRows]
  have stillRows : t.requests j = .webhookAdded record case :=
    (run_requests_other ran₂ fun e listed => others e (List.mem_append_right _ listed)).trans rows
  obtain ⟨sameId, _, _⟩ := webhook_rows_ok delivers.rows
  have committed := commit_webhook_fresh (sameId.symm ▸ absent) fresh
  have stepped : step d t (.request j (.commit later)) =
      some ((t.commitRequest j (case.map (·.caseId)).toList (commitWebhook record case t.db)).tick) := by
    simp only [step, stepRequest, stillRows, Option.map_some]
  rw [committed] at stepped
  exact ⟨_, stepped, rfl, by simp [System.commitRequest]⟩

/-- Whatever the order of deliveries and of the handlers' steps, intake happens
exactly once. -/
theorem intake_exactly_once (ran : run (step d) {} es = some s) :
    ExactlyOnce d es s.db ∧ FailsCleanly d s ∧ AcceptsRedelivery d s := by
  have known := intake_invariant ran
  have delivered := delivered_run ran
  exact ⟨exactly_once_of_intake known delivered, fails_cleanly known delivered, accepts_redelivery⟩

/-- Two deliveries of one failure miss each other in the lookup, and the second to
commit runs into the unique constraint. -/
def raceRun : List Event :=
  [.request 0 (.receive (sampleDelivery 250000)), .request 1 (.receive (sampleDelivery 250000)),
   .request 0 (.addRows "00000001" "A1B2C3" 1788500000000000),
   .request 1 (.addRows "00000007" "A1B2C3" 1788500000000000),
   .request 1 (.commit 1788500000000000), .request 0 (.commit 1788500000000000)]

theorem intake_exactly_once_race : ∃ s, run (step sampleDeployment) {} raceRun = some s ∧
    ∃ record case, s.db.webhookEvents = [record] ∧ s.db.recoveryCases = [case] ∧
      RecordedFor sampleDeployment raceRun record ∧ OpenedBy record case := by
  obtain ⟨s, record, case, ran, records, cases, tagged⟩ : ∃ s record case,
      run (step sampleDeployment) {} raceRun = some s ∧ s.db.webhookEvents = [record] ∧
        s.db.recoveryCases = [case] ∧ case.origin = .webhook 1 := ⟨_, _, _, rfl, rfl, rfl, rfl⟩
  obtain ⟨once, _⟩ := intake_exactly_once ran
  obtain ⟨row, stored, _, _, opened⟩ := once.cases case (cases ▸ List.mem_singleton_self case) 1 tagged
  cases List.mem_singleton.mp (records ▸ stored)
  exact ⟨s, ran, record, case, records, cases, once.delivered record stored, opened⟩

end RevenueGuard.IntakeProofs
