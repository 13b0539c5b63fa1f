import RevenueGuard.CaseFileProofs
import RevenueGuard.IntakeProofs

/-!
Where the rows and the money come from.

With a webhook secret configured, `intake_signed` says that every event on record is the body of a
delivery whose signature was verified, received by the request that inserted it, and that every
case is what the normalizer makes of such a body, or an event of a simulated batch.  `links_traced`
takes this to the payment links: whatever a graph run asks Razorpay for, and whether or not its
writes are ever committed, the amount and the payer are those of a failure that came in that way.
-/

namespace RevenueGuard.ProvenanceProofs

open Library Library.Runs Library.Raises GraphProofs WorkerProofs SystemProofs TableProofs CaseFileProofs
  IntakeProofs

variable {d : Deployment} {s s' t : System} {e : Event} {es fs : List Event} {i j : ℕ}

/-! ## What came in -/

/-- A request has received an event from a delivery whose signature was there and was verified. -/
def Signed (d : Deployment) (es : List Event) (i : ℕ) (eventId : String) (event : Dict) : Prop :=
  ∃ delivery, .request i (.receive delivery) ∈ es ∧ delivery.signature ≠ "" ∧
    delivery.signatureValid = true ∧ delivery.body = .ok (some (.obj event)) ∧
    bindText d.database (razorpayEventId delivery event) = .ok eventId

/-- Behind the checks of the handler there is only what was signed. -/
theorem received_signed (configured : d.settings.razorpayWebhookSecret ≠ "") {eventId : String} {event : Dict}
    (received : Received d es i eventId event) : Signed d es i eventId event := by
  obtain ⟨delivery, sent, taken, identified⟩ := received
  obtain ⟨body, decoded, taken⟩ := bind_ok.mp taken
  split at taken
  · cases taken
  split at taken
  · cases taken
  rename_i valid unsigned
  have signature : delivery.signature ≠ "" := fun missing => unsigned ⟨configured, missing⟩
  have verified : delivery.signatureValid = true := by
    by_contra refused
    exact valid ⟨configured, signature, by simpa using refused⟩
  cases body with
  | none => cases taken
  | some event =>
    cases taken
    exact ⟨delivery, sent, signature, verified, decoded, identified⟩

/-! ## What is stored -/

/-- The failure that a case was opened for: a signed event, or an event of a batch. -/
inductive OpenedFor (d : Deployment) (es : List Event) (case : RecoveryCase) : Prop where
  | webhook {i : ℕ} {eventId caseHex customerHex : String} {event : Dict} {now : ℤ}
      {normalized : NormalizedFailureEvent} : Signed d es i eventId event →
      event.get "event" = .str "payment.failed" →
      normalizeRazorpayEvent caseHex customerHex event = .ok normalized →
      intakePart case = webhookCase i now normalized → OpenedFor d es case
  | batch {i : ℕ} {hex : String} {event : SimulatedEvent} {now : ℤ} {events : List (String × SimulatedEvent)}
      {fresh : RecoveryCase} : .request i (.simulate now events) ∈ es → (hex, event) ∈ events →
      simulatedCase i now hex event = .ok fresh → intakePart case = fresh → OpenedFor d es case

/-- The event that a row was written for, by the request that received it. -/
def RecordOf (d : Deployment) (es : List Event) (record : WebhookEvent) : Prop :=
  Signed d es record.insertedBy record.razorpayEventId record.rawPayload

theorem signed_later {eventId : String} {event : Dict} (signed : Signed d es i eventId event) :
    Signed d (es ++ fs) i eventId event := by
  obtain ⟨delivery, sent, signed⟩ := signed
  exact ⟨delivery, List.mem_append_left _ sent, signed⟩

theorem opened_later {case later : RecoveryCase} (opened : OpenedFor d es case)
    (same : intakePart later = intakePart case) : OpenedFor d (es ++ fs) later := by
  cases opened with
  | webhook signed failed normalized made =>
    exact .webhook (signed_later signed) failed normalized (same.trans made)
  | batch sent listed made shape => exact .batch (List.mem_append_left _ sent) listed made (same.trans shape)

theorem payment_failed_event {event : Dict}
    (failed : isPaymentFailed (event.getD "event" (.str "unknown")) = true) :
    event.get "event" = .str "payment.failed" := by
  unfold isPaymentFailed at failed
  split at failed
  · rename_i text found
    rw [Dict.getD] at found
    rw [Dict.get]
    cases held : event.lookup "event" with
    | none =>
      rw [held] at found
      cases found
      simp at failed
    | some value =>
      rw [held] at found
      cases found
      rw [Option.getD_some, of_decide_eq_true failed]
  · cases failed

/-- The rows of a handler are made of the event that it received. -/
theorem rows_opened {caseHex customerHex eventId : String} {now : ℤ} {event : Dict} {record : WebhookEvent}
    {added : Option RecoveryCase} (signed : Signed d es i eventId event)
    (made : webhookRows d.database i caseHex customerHex now eventId event = .ok (record, added)) :
    RecordOf d es record ∧ ∀ case ∈ added, OpenedFor d es case := by
  obtain ⟨record', recorded, made⟩ := bind_ok.mp made
  obtain ⟨sameId, inserted, payload, _⟩ := webhook_record_ok recorded
  have recorded : RecordOf d es record' := by rw [RecordOf, sameId, inserted, payload]; exact signed
  split at made
  · rename_i failed
    obtain ⟨normalized, taken, shape⟩ := bind_ok.mp made
    cases pure_ok.mp shape
    refine ⟨recorded, fun case listed => ?_⟩
    cases listed
    exact .webhook signed (payment_failed_event failed) taken rfl
  · cases pure_ok.mp made
    exact ⟨recorded, fun case listed => by cases listed⟩

theorem batch_opened {now : ℤ} {events : List (String × SimulatedEvent)} {cases : List RecoveryCase}
    (sent : .request i (.simulate now events) ∈ es) (made : batchRows i now events = .ok cases) :
    ∀ case ∈ cases, OpenedFor d es case := by
  have staged := batch_rows_intake made
  intro case listed
  obtain ⟨⟨hex, event⟩, there, simulated⟩ := map_m_mem made case listed
  exact .batch sent there simulated (staged case listed)

/-- What is on record stems from what was signed, or was simulated. -/
structure Traced (d : Deployment) (es : List Event) (s : System) : Prop where
  records : ∀ record ∈ s.db.webhookEvents, RecordOf d es record
  cases : ∀ case ∈ s.db.recoveryCases, OpenedFor d es case

theorem traced_step (configured : d.settings.razorpayWebhookSecret ≠ "") (ran : run (step d) {} es = some s)
    (known : Traced d es s) (stepped : step d s e = some s') : Traced d (es ++ [e]) s' := by
  have records : ∀ record ∈ s.db.webhookEvents, RecordOf d (es ++ [e]) record :=
    fun record listed => signed_later (known.records record listed)
  have opened : ∀ case ∈ s.db.recoveryCases, OpenedFor d (es ++ [e]) case :=
    fun case listed => opened_later (known.cases case listed) rfl
  have sourced := sourced_requests ran
  cases step_commit stepped with
  | nothing same => exact ⟨same ▸ records, same ▸ opened⟩
  | @webhook i now record added _ phase committed =>
    have held := sourced i
    rw [phase] at held
    obtain ⟨caseHex, customerHex, now, eventId, event, received, made⟩ := held
    obtain ⟨recorded, fresh⟩ := rows_opened (signed_later (received_signed configured received)) made
    obtain ⟨_, _, written⟩ := commit_webhook_ok committed
    constructor <;> rw [written] <;> intro row listed <;> rcases List.mem_append.mp listed with old | new
    · exact records row old
    · cases List.mem_singleton.mp new
      exact recorded
    · exact opened row old
    · exact fresh row (Option.mem_toList.mp new)
  | @batch i now added _ phase committed =>
    have held := sourced i
    rw [phase] at held
    obtain ⟨now, events, sent, made⟩ := held
    obtain ⟨_, written⟩ := commit_batch_ok committed
    constructor <;> rw [written]
    · exact records
    · intro row listed
      rcases List.mem_append.mp listed with old | new
      · exact opened row old
      · exact batch_opened (List.mem_append_left _ sent) made row new
  | verdict _ written =>
    constructor <;> rw [written]
    · exact records
    · exact opened
  | persist _ committed =>
    have persisted := persist_result_ok committed
    constructor
    · rw [persisted.webhookEvents]
      exact records
    · rw [persisted.recoveryCases]
      intro row listed
      rcases Keyed.mem_modify.mp listed with ⟨old, there, _, rfl⟩ | ⟨there, _⟩
      · exact opened_later (known.cases old there) (intake_part_update ..)
      · exact opened row there
  | recordFailure _ written =>
    constructor <;> rw [written]
    · exact records
    · intro row listed
      rcases Keyed.mem_modify.mp listed with ⟨old, there, _, rfl⟩ | ⟨there, _⟩
      · exact opened_later (known.cases old there) rfl
      · exact opened row there

theorem traced_run (configured : d.settings.razorpayWebhookSecret ≠ "") (ran : run (step d) {} es = some s) :
    Traced d es s :=
  run_history (P := Traced d) ⟨fun _ listed => (by cases listed), fun _ listed => (by cases listed)⟩
    (fun _ _ _ _ ranBefore known stepped => traced_step configured ranBefore known stepped) ran

/-- With a secret, every event on record is what a verified delivery to the request of its row said,
and every case was opened for such an event, or for an event of a simulated batch. -/
theorem intake_signed (configured : d.settings.razorpayWebhookSecret ≠ "") (ran : run (step d) {} es = some s) :
    (∀ record ∈ s.db.webhookEvents, RecordOf d es record) ∧
      ∀ case ∈ s.db.recoveryCases, OpenedFor d es case := by
  have traced := traced_run configured ran
  exact ⟨traced.records, traced.cases⟩

/-- The sample deployment with a secret. -/
def securedDeployment : Deployment :=
  { sampleDeployment with settings := { sampleDeployment.settings with razorpayWebhookSecret := "whsec_1" } }

/-- A signed failure comes in and is answered by a payment link; a forged one is turned away. -/
def securedRun : List Event :=
  .request 1 (.receive { sampleDelivery 99000000 with signature := "00", signatureValid := false }) ::
    .request 0 (.receive { sampleDelivery 250000 with signature := "ab", signatureValid := true }) ::
    (sampleIntake 0 "00000007" 250000).drop 1 ++ [.request 0 (.push .delivered)] ++
      sampleProcess 0 "payment_link" 1788501600000000 "action-1"

theorem intake_signed_secured : ∃ s, run (step securedDeployment) {} securedRun = some s ∧
    s.db.webhookEvents.length = 1 ∧ s.db.recoveryCases.length = 1 ∧
      (∀ record ∈ s.db.webhookEvents, RecordOf securedDeployment securedRun record) ∧
      ∀ case ∈ s.db.recoveryCases, OpenedFor securedDeployment securedRun case := by
  obtain ⟨s, ran, records, opened⟩ : ∃ s, run (step securedDeployment) {} securedRun = some s ∧
      s.db.webhookEvents.length = 1 ∧ s.db.recoveryCases.length = 1 := ⟨_, rfl, rfl, rfl⟩
  have traced := intake_signed (d := securedDeployment) (by decide) ran
  exact ⟨s, ran, records, opened, traced.1, traced.2⟩

/-! ## Payment links -/

/-- The payment that a link asks for, and whom it is sent to. -/
structure Payment where
  caseId : String
  amountPaise : ℤ
  name : String
  email : String
  phone : String

/-- What a call asks Razorpay for. -/
def asked (call : PaymentLinkCall) : Payment :=
  { caseId := call.noteCaseId
    amountPaise := call.amountPaise
    name := call.customerName
    email := call.customerEmail
    phone := call.customerPhone }

/-- The payment that failed. -/
def failedPayment (normalized : NormalizedFailureEvent) : Payment :=
  { caseId := normalized.caseId
    amountPaise := normalized.amountPaise
    name := normalized.customer.name
    email := normalized.customer.email
    phone := normalized.customer.phone }

/-- The payment of a simulated event. -/
def simulatedPayment (hex : String) (event : SimulatedEvent) : Payment :=
  { caseId := "REC-SIM-" ++ hex
    amountPaise := event.amountPaise
    name := (event.customer.getD "name" (.str "Customer")).pyStr
    email := (event.customer.getD "email" (.str "unknown@example.com")).pyStr
    phone := (event.customer.getD "phone" (.str "+910000000000")).pyStr }

/-- A payment that failed, as a signed event or an event of a batch tells it. -/
inductive FailedBefore (d : Deployment) (es : List Event) (payment : Payment) : Prop where
  | webhook {i : ℕ} {eventId caseHex customerHex : String} {event : Dict} {normalized : NormalizedFailureEvent} :
      Signed d es i eventId event → event.get "event" = .str "payment.failed" →
      normalizeRazorpayEvent caseHex customerHex event = .ok normalized → payment = failedPayment normalized →
      FailedBefore d es payment
  | batch {i : ℕ} {hex : String} {event : SimulatedEvent} {now : ℤ} {events : List (String × SimulatedEvent)} :
      .request i (.simulate now events) ∈ es → (hex, event) ∈ events → payment = simulatedPayment hex event →
      FailedBefore d es payment

/-- The payment of a stored case. -/
def paymentOf (case : RecoveryCase) : Payment :=
  { caseId := case.caseId
    amountPaise := case.amountPaise
    name := (case.customerData.getD "name" (.str "Customer")).pyStr
    email := (case.customerData.getD "email" (.str "unknown@example.com")).pyStr
    phone := (case.customerData.getD "phone" (.str "+910000000000")).pyStr }

theorem payment_of_intake (case : RecoveryCase) : paymentOf case = paymentOf (intakePart case) := rfl

theorem get_d_erase {data : Dict} {key : String} {default : Json} (apart : key ≠ contextKey) :
    (data.erase contextKey).getD key default = data.getD key default := by
  rw [Dict.getD, Dict.lookup_erase apart, Dict.getD]

theorem get_d_append {data : Dict} {key : String} {value default : Json} (apart : key ≠ contextKey) :
    (data ++ [(contextKey, value)]).getD key default = data.getD key default := by
  have other : (key == contextKey) = false := beq_false_of_ne apart
  simp [Dict.getD, List.lookup_append, List.lookup_cons, other]

/-- A graph run asks for the payment of the case that it was started on. -/
theorem asked_payment {x : GraphRun} {call : PaymentLinkCall} (called : call ∈ (x.outcome d).1) :
    asked call = paymentOf x.rows.case := by
  obtain ⟨built, proposed, rebuilding, proposing, _, rfl⟩ := called_from called
  have rebuilt := rebuilt_from rebuilding proposing
  have noted : proposed.caseData.caseId = x.rows.case.caseId := by
    obtain ⟨_, _, rfl⟩ := bind_pure_ok.mp rebuilding
    exact congrArg (·.caseId) (propose_ok proposing).1.caseData
  simp only [asked, paymentLinkCall, rebuilt.amount, rebuilt.customer, noted, paymentOf,
    get_d_erase (show "name" ≠ contextKey by decide), get_d_erase (show "email" ≠ contextKey by decide),
    get_d_erase (show "phone" ≠ contextKey by decide)]

theorem opened_payment {case : RecoveryCase} (opened : OpenedFor d es case) :
    FailedBefore d es (paymentOf case) := by
  cases opened with
  | webhook signed failed taken made =>
    refine .webhook signed failed taken ?_
    rw [payment_of_intake, made]
    rfl
  | batch sent listed made shape =>
    refine .batch sent listed ?_
    obtain ⟨category, _, rfl⟩ := bind_pure_ok.mp made
    rw [payment_of_intake, shape]
    simp only [paymentOf, simulatedPayment, get_d_append (show "name" ≠ contextKey by decide),
      get_d_append (show "email" ≠ contextKey by decide), get_d_append (show "phone" ≠ contextKey by decide)]

/-- With a secret, every payment link that any graph run asks for is for the amount and the payer of a
failure that came in signed, or in a simulated batch. -/
theorem links_traced (configured : d.settings.razorpayWebhookSecret ≠ "") (ran : run (step d) {} es = some s)
    {x : GraphRun} (recorded : x ∈ s.runs) : ∀ call ∈ (x.outcome d).1, FailedBefore d es (asked call) := by
  intro call called
  rw [asked_payment called]
  obtain ⟨_, before, w, _, ranBefore, loaded, _⟩ := rows_loaded_at ran (.inr ⟨x, recorded, rfl⟩)
  obtain ⟨stored, listed, same⟩ := worked_intake ranBefore w x.rows.case (by rw [loaded]; rfl)
  have opened := (traced_run configured ranBefore).cases stored listed
  rw [payment_of_intake, same, ← payment_of_intake, ← List.take_append_drop x.rows.loadedAt es]
  exact opened_payment (opened_later opened rfl)

theorem links_traced_secured : ∃ s x, run (step securedDeployment) {} securedRun = some s ∧ s.runs = [x] ∧
    (x.outcome securedDeployment).1.map (·.amountPaise) = [250000] ∧
      ∀ call ∈ (x.outcome securedDeployment).1, FailedBefore securedDeployment securedRun (asked call) := by
  obtain ⟨s, x, ran, only, amounts⟩ : ∃ s x, run (step securedDeployment) {} securedRun = some s ∧
      s.runs = [x] ∧ (x.outcome securedDeployment).1.map (·.amountPaise) = [250000] := ⟨_, _, rfl, rfl, rfl⟩
  exact ⟨s, x, ran, only, amounts,
    links_traced (d := securedDeployment) (by decide) ran (by rw [only]; exact List.mem_singleton_self x)⟩

end RevenueGuard.ProvenanceProofs
