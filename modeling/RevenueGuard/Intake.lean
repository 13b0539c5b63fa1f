import RevenueGuard.Worker

/-!
The producers of recovery cases: `integrations/normalizer.py`,
`webhooks/razorpay_handler.py` and `api/main.py::simulate_batch`, as far as
they compute the rows that one transaction of theirs inserts.  The steps
between a handler, the database and the queue are in `System`.
-/

namespace RevenueGuard

open Library

/-! ## The normalizer -/

/-- `text.lower() if text else ""`. -/
def lowerOrEmpty (value : Json) : Except String String :=
  match value with
  | .str text => .ok (lower text)
  | other => if other.truthy then .error "object has no attribute 'lower'" else .ok ""

/-- `_BANK_SYSTEMIC_REASONS`. -/
def bankSystemicReasons : List String := ["payment_failed", "gateway_error", "server_error"]

/-- `_BANK_CUSTOMER_REASONS`. -/
def bankCustomerReasons : List String := ["insufficient_funds", "incorrect_pin", "card_expired"]

/-- `_classify_failure`. -/
def classifyFailure (errorSource errorReason : Json) : Except String FailureCategory := do
  let reasonLower ← lowerOrEmpty errorReason
  let sourceLower ← lowerOrEmpty errorSource
  return if sourceLower = "bank" ∧ reasonLower ∈ bankSystemicReasons then .systemic
    else if sourceLower = "bank" ∧ reasonLower ∈ bankCustomerReasons then .customer
    else if sourceLower = "customer" then .customer
    else if sourceLower ∈ ["gateway", "network"] then .systemic
    else if sourceLower = "business" then .business
    else .unknown

/-- `_map_source`. -/
def mapSource (errorSource : Json) : Except String FailureSource := do
  return match ← lowerOrEmpty errorSource with
    | "customer" => .customer
    | "bank" => .bank
    | "gateway" => .gateway
    | "network" => .network
    | "business" => .business
    | _ => .unknown

/-- `_map_event_type`: a list or an object cannot be looked up. -/
def mapEventType (eventName : Json) : Except String EventType :=
  match eventName with
  | .str "subscription.halted" => .ok .subscriptionHalted
  | .str "subscription.pending" => .ok .subscriptionPending
  | .str "checkout.abandoned" => .ok .checkoutAbandoned
  | .str "invoice.expired" => .ok .invoiceExpired
  | .str "invoice.overdue" => .ok .invoiceOverdue
  | .arr _ => .error "unhashable type: 'list'"
  | .obj _ => .error "unhashable type: 'dict'"
  | _ => .ok .paymentFailed

/-- `schemas.py::CustomerProfile`. -/
structure CustomerProfile where
  customerId : String
  name : String
  email : String
  phone : String
  upiId : Option String := none
  preferredLanguage : String := "en"
  lifetimeValuePaise : ℤ := 0
  totalTransactions : ℤ := 0
  failedTransactions : ℤ := 0
  lastPaymentDate : Option String := none
  optedOut : Bool := false

/-- A field annotated `str | None`, dumped. -/
def dumpText : Option String → Json
  | none => .null
  | some text => .str text

/-- `customer.model_dump(mode="json")`. -/
def CustomerProfile.modelDump (customer : CustomerProfile) : Dict :=
  [("customer_id", .str customer.customerId), ("name", .str customer.name),
   ("email", .str customer.email), ("phone", .str customer.phone),
   ("upi_id", dumpText customer.upiId), ("preferred_language", .str customer.preferredLanguage),
   ("lifetime_value_paise", .int customer.lifetimeValuePaise),
   ("total_transactions", .int customer.totalTransactions),
   ("failed_transactions", .int customer.failedTransactions),
   ("last_payment_date", dumpText customer.lastPaymentDate), ("opted_out", .bool customer.optedOut)]

/-- `schemas.py::NormalizedFailureEvent`, less the fields nothing reads. -/
structure NormalizedFailureEvent where
  caseId : String
  eventType : EventType
  externalPaymentId : String
  externalOrderId : Option String
  amountPaise : ℤ
  currency : String
  category : FailureCategory
  source : FailureSource
  stage : String
  reason : String
  errorCode : String
  errorDescription : String
  customer : CustomerProfile
  merchantId : String
  metadata : Dict

/-- The entity `normalize_razorpay_event` reads.  The handler has taken `.get`
of the payload before, so it is an object. -/
def normalizedEntity (payload : Dict) : Except String Dict :=
  match payload.lookup "payment", payload.lookup "subscription", payload.lookup "invoice" with
  | some holder, _, _ => do ((← holder.asDict).getD "entity" (.obj [])).asDict
  | none, some holder, _ => do ((← holder.asDict).getD "entity" (.obj [])).asDict
  | none, none, some holder => do ((← holder.asDict).getD "entity" (.obj [])).asDict
  | none, none, none => .ok []

/-- `normalize_razorpay_event`, with the two random suffixes it draws. -/
def normalizeRazorpayEvent (caseHex customerHex : String) (rawEvent : Dict) :
    Except String NormalizedFailureEvent := do
  let eventName := rawEvent.getD "event" (.str "payment.failed")
  let paymentEntity ← normalizedEntity (← (rawEvent.getD "payload" (.obj [])).asDict)
  let errorSource := paymentEntity.getD "error_source" (.str "unknown")
  let errorReason := paymentEntity.getD "error_reason" (.str "unknown")
  let errorStep := paymentEntity.getD "error_step" (.str "payment_authorization")
  let errorCode := paymentEntity.getD "error_code" (.str "UNKNOWN_ERROR")
  let errorDescription := paymentEntity.getD "error_description" (.str "Payment failed")
  let contact := paymentEntity.getD "contact" (.str "+910000000000")
  let email := paymentEntity.getD "email" (.str "unknown@example.com")
  let notes ← (paymentEntity.getD "notes" (.obj [])).asDict
  let customer : CustomerProfile :=
    { customerId := ← (notes.getD "customer_id" (.str ("CUST-" ++ customerHex))).strField
      name := ← (notes.getD "customer_name" (.str "Unknown Customer")).strField
      email := ← email.strField
      phone := ← contact.strField
      upiId := ← (paymentEntity.get "vpa").optionalField Json.strField }
  return {
    caseId := "REC-" ++ caseHex
    eventType := ← mapEventType eventName
    externalPaymentId := ← (paymentEntity.getD "id" (.str "")).strField
    externalOrderId := ← (paymentEntity.get "order_id").optionalField Json.strField
    amountPaise := ← (paymentEntity.getD "amount" (.int 0)).intField
    currency := ← (paymentEntity.getD "currency" (.str "INR")).strField
    category := ← classifyFailure errorSource errorReason
    source := ← mapSource errorSource
    stage := ← errorStep.strField
    reason := ← errorReason.strField
    errorCode := ← errorCode.strField
    errorDescription := ← errorDescription.strField
    customer
    merchantId := ← (notes.getD "merchant_id" (.str "default_merchant")).strField
    metadata :=
      [("payment_method", paymentEntity.getD "method" (.str "unknown")),
       ("bank_name", paymentEntity.getD "bank" (.str "unknown")),
       ("card_network", paymentEntity.get "network"), ("wallet", paymentEntity.get "wallet"),
       ("vpa", paymentEntity.get "vpa")] }

/-! ## The webhook handler -/

/-- A request to `handle_razorpay_webhook`: its headers, what the verification
of its signature finds, its decoded body, where that is JSON at all, and the
identifier drawn for an event that brings none. -/
structure Delivery where
  signature : String
  signatureValid : Bool
  body : Except String (Option Json)
  eventIdHeader : Option String
  uuid : String

/-- What the handler answers. -/
inductive WebhookResponse where
  | ok | duplicate | invalidSignature | missingSignature | invalidJson
  deriving DecidableEq, Repr

/-- The handler up to the parsed event: an answer of its own, or the event. -/
def receiveWebhook (secret : String) (delivery : Delivery) : Except String (WebhookResponse ⊕ Json) := do
  let body ← delivery.body
  if secret ≠ "" ∧ delivery.signature ≠ "" ∧ !delivery.signatureValid then
    return .inl .invalidSignature
  else if secret ≠ "" ∧ delivery.signature = "" then return .inl .missingSignature
  else match body with
    | none => return .inl .invalidJson
    | some event => return .inr event

/-- A value bound to a text column that may not be null.  SQLite keeps a number
as its text, and NaN as null; asyncpg takes strings only. -/
def bindText (kind : DatabaseKind) : Json → Except String String
  | .str text => .ok text
  | .null => .error "NOT NULL constraint failed"
  | .int i =>
    match kind with
    | .sqlite => .ok (toString i)
    | .postgresql => .error "invalid input for query argument: expected str, got int"
  | .bool b =>
    match kind with
    | .sqlite => .ok (if b then "1" else "0")
    | .postgresql => .error "invalid input for query argument: expected str, got bool"
  | .float text value =>
    match kind with
    | .sqlite => if value = .nan then .error "NOT NULL constraint failed" else .ok text.stored
    | .postgresql => .error "invalid input for query argument: expected str, got float"
  | .arr _ => .error "invalid input for query argument: expected str, got list"
  | .obj _ => .error "invalid input for query argument: expected str, got dict"

/-- A value bound to a nullable text column. -/
def bindNullable (kind : DatabaseKind) : Json → Except String (Option String)
  | .null => .ok none
  | .float text .nan =>
    match kind with
    | .sqlite => .ok none
    | .postgresql => (bindText kind (.float text .nan)).map some
  | value => (bindText kind value).map some

/-- `razorpay_event_id`: from the body, or the header, or drawn. -/
def razorpayEventId (delivery : Delivery) (event : Dict) : Json :=
  (event.get "event_id").orElse
    (match delivery.eventIdHeader with
      | none => .str delivery.uuid
      | some header => (Json.str header).orElse (.str delivery.uuid))

/-- The handler up to and with the duplicate lookup: an answer of its own, or the
event that the table does not have. -/
def lookupWebhook (kind : DatabaseKind) (secret : String) (delivery : Delivery) (db : Database) :
    Except String (WebhookResponse ⊕ String × Dict) := do
  match ← receiveWebhook secret delivery with
  | .inl response => return .inl response
  | .inr body =>
    let event ← body.asDict
    let eventId ← bindText kind (razorpayEventId delivery event)
    if db.webhookEvents.any fun r => r.razorpayEventId = eventId then return .inl .duplicate
    else return .inr (eventId, event)

/-- The row of the webhook's own event. -/
def webhookRecord (kind : DatabaseKind) (transaction : ℕ) (eventId : String)
    (event : Dict) : Except String WebhookEvent := do
  let eventType := event.getD "event" (.str "unknown")
  let payload ← (event.getD "payload" (.obj [])).asDict
  let payment ← (payload.getD "payment" (.obj [])).asDict
  let paymentEntity ← (payment.getD "entity" (.obj [])).asDict
  return {
    razorpayEventId := eventId
    eventType := ← bindText kind eventType
    paymentId := ← bindNullable kind (paymentEntity.get "id")
    orderId := ← bindNullable kind (paymentEntity.get "order_id")
    rawPayload := event
    insertedBy := transaction }

/-- The case of a normalized failure.  `customer_data` carries what has no
column of its own. -/
def webhookCase (transaction : ℕ) (now : ℤ) (normalized : NormalizedFailureEvent) : RecoveryCase :=
  { caseId := normalized.caseId
    eventType := normalized.eventType
    status := .detected
    externalPaymentId := normalized.externalPaymentId
    externalOrderId := normalized.externalOrderId
    amountPaise := normalized.amountPaise
    currency := normalized.currency
    failureCategory := normalized.category.value
    failureSource := normalized.source.value
    failureReason := normalized.reason
    errorCode := normalized.errorCode
    customerId := normalized.customer.customerId
    customerData := normalized.customer.modelDump ++
      [(contextKey, .obj
        [("metadata", .obj normalized.metadata), ("error_description", .str normalized.errorDescription)])]
    merchantId := normalized.merchantId
    createdAt := now
    origin := .webhook transaction }

/-- `event_type == "payment.failed"`. -/
def isPaymentFailed (eventType : Json) : Bool :=
  match eventType with
  | .str text => text = "payment.failed"
  | _ => false

/-- The rows the handler adds to its session, between the lookup and the commit. -/
def webhookRows (kind : DatabaseKind) (transaction : ℕ) (caseHex customerHex : String) (now : ℤ)
    (eventId : String) (event : Dict) : Except String (WebhookEvent × Option RecoveryCase) := do
  let record ← webhookRecord kind transaction eventId event
  if isPaymentFailed (event.getD "event" (.str "unknown")) then
    let normalized ← normalizeRazorpayEvent caseHex customerHex event
    return (record, some (webhookCase transaction now normalized))
  else return (record, none)

/-- The commit of the handler's transaction, under the unique constraints of
`razorpay_event_id` and `case_id`. -/
def commitWebhook (record : WebhookEvent) (case : Option RecoveryCase) (db : Database) :
    Except String Database :=
  if db.webhookEvents.any fun r => r.razorpayEventId = record.razorpayEventId then
    .error "UNIQUE constraint failed: webhook_events.razorpay_event_id"
  else match case with
    | none => .ok { db with webhookEvents := db.webhookEvents ++ [record] }
    | some case =>
      if db.recoveryCases.any fun r => r.caseId = case.caseId then
        .error "UNIQUE constraint failed: recovery_cases.case_id"
      else .ok { db with
        webhookEvents := db.webhookEvents ++ [record]
        recoveryCases := db.recoveryCases ++ [case] }

/-! ## The batch simulation -/

/-- An event of `SyntheticDataGenerator.generate_batch`, as far as
`simulate_batch` reads it. -/
structure SimulatedEvent where
  eventType : EventType
  razorpayPaymentId : String
  razorpayOrderId : Option String
  amountPaise : ℤ
  currency : String
  errorSource : String
  errorReason : String
  errorCode : String
  errorDescription : String
  customerId : String
  customer : Dict
  merchantId : String
  metadata : Dict

/-- The case `simulate_batch` adds for an event, under a random suffix. -/
def simulatedCase (transaction : ℕ) (now : ℤ) (hex : String) (event : SimulatedEvent) :
    Except String RecoveryCase := do
  let category ← classifyFailure (.str event.errorSource) (.str event.errorReason)
  return {
    caseId := "REC-SIM-" ++ hex
    eventType := event.eventType
    status := .detected
    externalPaymentId := event.razorpayPaymentId
    externalOrderId := event.razorpayOrderId
    amountPaise := event.amountPaise
    currency := event.currency
    failureCategory := category.value
    failureSource := event.errorSource
    failureReason := event.errorReason
    errorCode := event.errorCode
    customerId := event.customerId
    customerData := event.customer ++
      [(contextKey, .obj
        [("metadata", .obj event.metadata), ("error_description", .str event.errorDescription)])]
    merchantId := event.merchantId
    createdAt := now
    origin := .batch transaction }

/-- The rows of one call of `simulate_batch`. -/
def batchRows (transaction : ℕ) (now : ℤ) (events : List (String × SimulatedEvent)) :
    Except String (List RecoveryCase) :=
  events.mapM fun (hex, event) => simulatedCase transaction now hex event

/-- The commit of `simulate_batch`, under the unique constraint of `case_id`. -/
def commitBatch (cases : List RecoveryCase) (db : Database) : Except String Database :=
  if ((db.recoveryCases ++ cases).map (·.caseId)).Nodup then
    .ok { db with recoveryCases := db.recoveryCases ++ cases }
  else .error "UNIQUE constraint failed: recovery_cases.case_id"

end RevenueGuard
