import RevenueGuard.BatchEvaluator
import RevenueGuard.Intake
import RevenueGuard.Library.Draws

/-!
`data/generator.py`: the synthetic failures that `simulate_batch` turns into cases, that the
evaluator is run on and that the triage model is trained on.  What `random`, Faker, `uuid4` and the
clock give is a choice of the environment, `EventDraws`.
-/

namespace RevenueGuard.SyntheticDataGenerator

open Library Library.Draws BatchEvaluator

/-! ## The tables -/

/-- A row of the failure tables. -/
structure Scenario where
  errorSource : String
  errorStep : String
  errorReason : String
  errorCode : String
  errorDescription : String
  deriving DecidableEq, Repr

/-- The values of `BANKS`. -/
def banks : List String :=
  ["SBI", "HDFC", "ICICI", "Axis", "Kotak", "PNB", "BOB", "Canara", "Union Bank", "IDFC First", "Yes Bank",
   "Federal Bank"]

/-- The values of `PAYMENT_METHODS`. -/
def paymentMethods : List String := ["upi", "card", "netbanking", "wallet"]

/-- The values of `CARD_NETWORKS`. -/
def cardNetworks : List String := ["Visa", "Mastercard", "RuPay"]

/-- The values of `LANGUAGES`. -/
def languages : List String := ["en", "hi", "hinglish"]

/-- `UPI_HANDLES`. -/
def upiHandles : List String := ["sbi", "hdfc", "icici", "axisbank", "kotak", "paytm", "okhdfcbank", "ybl"]

/-- `EMAIL_DOMAINS`. -/
def emailDomains : List String := ["gmail.com", "yahoo.com", "outlook.com", "rediffmail.com"]

/-- `SYSTEMIC_FAILURES`. -/
def systemicFailures : List Scenario :=
  [⟨"bank", "payment_authorization", "payment_failed", "BAD_REQUEST_ERROR",
      "Payment failed at the bank due to a temporary issue"⟩,
   ⟨"bank", "payment_authorization", "gateway_error", "GATEWAY_ERROR",
      "The bank gateway was temporarily unavailable"⟩,
   ⟨"bank", "payment_authorization", "server_error", "SERVER_ERROR", "The bank server did not respond in time"⟩,
   ⟨"network", "payment_authorization", "timeout", "SERVER_ERROR",
      "UPI payment timed out before authorization completed"⟩,
   ⟨"gateway", "payment_authorization", "gateway_error", "GATEWAY_ERROR",
      "The payment gateway returned a temporary error"⟩]

/-- `CUSTOMER_FAILURES`. -/
def customerFailures : List Scenario :=
  [⟨"bank", "payment_authorization", "insufficient_funds", "BAD_REQUEST_ERROR",
      "Payment failed because the account has insufficient funds"⟩,
   ⟨"bank", "payment_authentication", "incorrect_pin", "BAD_REQUEST_ERROR",
      "Payment failed because an incorrect PIN was entered"⟩,
   ⟨"bank", "payment_authentication", "card_expired", "BAD_REQUEST_ERROR",
      "Payment failed because the card has expired"⟩,
   ⟨"customer", "payment_authentication", "authentication_failed", "BAD_REQUEST_ERROR",
      "Payment authentication failed"⟩]

/-- `SUBSCRIPTION_FAILURES`. -/
def subscriptionFailures : List Scenario :=
  [⟨"customer", "payment_authentication", "mandate_revoked", "BAD_REQUEST_ERROR",
      "The customer revoked the recurring payment mandate"⟩,
   ⟨"bank", "payment_authorization", "insufficient_funds", "BAD_REQUEST_ERROR",
      "Recurring payment failed because the account has insufficient funds"⟩,
   ⟨"gateway", "payment_authorization", "gateway_error", "GATEWAY_ERROR",
      "Recurring payment failed due to a temporary gateway error"⟩]

/-- `INVOICE_CHECKOUT_FAILURES`. -/
def invoiceCheckoutFailures : List Scenario :=
  [⟨"customer", "payment_authentication", "authentication_failed", "BAD_REQUEST_ERROR",
      "Customer did not complete payment authentication"⟩,
   ⟨"business", "payment_authorization", "business_rule_violation", "BAD_REQUEST_ERROR",
      "Transaction was blocked by merchant business rules"⟩,
   ⟨"gateway", "payment_authorization", "gateway_error", "GATEWAY_ERROR",
      "Checkout payment failed due to a gateway error"⟩]

/-! ## Events -/

/-- What the environment gives for one event.  A number stands for a draw of `randint`, `choice` or
`choices`. -/
structure EventDraws where
  eventType : ℕ
  scenario : ℕ
  highAmount : Fraction
  /-- `int(random.lognormvariate(…))`. -/
  amount : ℤ
  paymentMethod : ℕ
  bank : ℕ
  firstName : String
  lastName : String
  phoneStart : ℕ
  upiHandle : ℕ
  totalTransactions : ℕ
  failedTransactions : ℕ
  customerSuffix : String
  emailDomain : ℕ
  phone : ℕ
  language : ℕ
  lifetimeValue : ℕ
  optedOut : Fraction
  cardNetwork : ℕ
  eventId : String
  paymentSuffix : String
  orderSuffix : String
  merchantSuffix : String
  /-- What `_generate_timestamp` returns. -/
  timestamp : String
  recoverable : Fraction

/-- `_generate_amount_paise`. -/
def generateAmountPaise (draws : EventDraws) : ℤ :=
  if draws.highAmount.value < 30 / 100 then max 500000 (min 50000000 draws.amount)
  else max 10000 (min 1000000 draws.amount)

structure Customer where
  customerId : String
  name : String
  email : String
  phone : String
  upiId : Option String
  preferredLanguage : String
  lifetimeValuePaise : ℤ
  totalTransactions : ℤ
  failedTransactions : ℤ
  optedOut : Bool
  deriving DecidableEq, Repr

/-- `_generate_customer`. -/
def generateCustomer (paymentMethod : String) (draws : EventDraws) : Customer :=
  let localPart := (lower (draws.firstName ++ "." ++ draws.lastName)).replace " " ""
  let phoneStart := choice ["6", "7", "8", "9"] (by decide) draws.phoneStart
  let upiId := if paymentMethod = "upi" then
    some (localPart ++ "@" ++ choice upiHandles (by decide) draws.upiHandle) else none
  let totalTransactions := randint 1 240 draws.totalTransactions
  { customerId := "cust_" ++ draws.customerSuffix
    name := draws.firstName ++ " " ++ draws.lastName
    email := localPart ++ "@" ++ choice emailDomains (by decide) draws.emailDomain
    phone := "+91" ++ phoneStart ++ toString (randint 100000000 999999999 draws.phone)
    upiId
    preferredLanguage := choice languages (by decide) draws.language
    lifetimeValuePaise := randint 20000 20000000 draws.lifetimeValue
    totalTransactions
    failedTransactions := randint 0 (min 24 totalTransactions) draws.failedTransactions
    optedOut := draws.optedOut.value < 2 / 100 }

/-- The customer of a payment that timed out, which was one over UPI. -/
def Customer.withUpi (customer : Customer) : Customer :=
  { customer with
    upiId := some ((customer.upiId.filter (· ≠ "")).getD ((lower customer.name).replace " " "." ++ "@ybl")) }

inductive Bucket where
  | systemic | customer | subscription | invoiceCheckout
  deriving DecidableEq, Repr

/-- `_scenario_for_bucket`. -/
def scenarioForBucket (draws : EventDraws) : Bucket → EventType × Scenario × Bool
  | .systemic => (.paymentFailed, choice systemicFailures (by decide) draws.scenario, true)
  | .customer => (.paymentFailed, choice customerFailures (by decide) draws.scenario, false)
  | .subscription =>
    (choice [.subscriptionHalted, .subscriptionPending] (by decide) draws.eventType,
      choice subscriptionFailures (by decide) draws.scenario, false)
  | .invoiceCheckout =>
    (choice [.invoiceExpired, .invoiceOverdue, .checkoutAbandoned] (by decide) draws.eventType,
      choice invoiceCheckoutFailures (by decide) draws.scenario, false)

structure GeneratedEvent where
  eventId : String
  eventType : EventType
  razorpayPaymentId : String
  razorpayOrderId : String
  amountPaise : ℤ
  scenario : Scenario
  customer : Customer
  merchantId : String
  timestamp : String
  paymentMethod : String
  cardNetwork : Option String
  bankName : String
  groundTruth : Dict

/-- One turn of the loop of `generate_batch`. -/
def generateEvent (bucket : Bucket) (draws : EventDraws) : GeneratedEvent :=
  let (eventType, scenario, isSystemicBucket) := scenarioForBucket draws bucket
  let paymentMethod := choice paymentMethods (by decide) draws.paymentMethod
  let customer := generateCustomer paymentMethod draws
  let timedOut := scenario.errorReason = "timeout"
  let paymentMethod := if timedOut then "upi" else paymentMethod
  let customer := if timedOut then customer.withUpi else customer
  { eventId := draws.eventId
    eventType
    razorpayPaymentId := "pay_" ++ draws.paymentSuffix
    razorpayOrderId := "order_" ++ draws.orderSuffix
    amountPaise := generateAmountPaise draws
    scenario
    customer
    merchantId := "merch_" ++ lower draws.merchantSuffix
    timestamp := draws.timestamp
    paymentMethod
    cardNetwork :=
      if paymentMethod = "card" then some (choice cardNetworks (by decide) draws.cardNetwork) else none
    bankName := choice banks (by decide) draws.bank
    groundTruth := BatchEvaluator.groundTruth scenario.errorSource scenario.errorReason paymentMethod
      isSystemicBucket customer.optedOut draws.recoverable.value }

/-! ## Batches -/

/-- The `counts` of `generate_batch`.  The products with 0.40, 0.25 and 0.20 are cut to whole
numbers, and the float products fall on the same side of them as the exact ones. -/
def bucketCounts (numEvents : ℕ) : List (Bucket × ℕ) :=
  let systemic := numEvents * 40 / 100
  let customer := numEvents * 25 / 100
  let subscription := numEvents * 20 / 100
  [(.systemic, systemic), (.customer, customer), (.subscription, subscription),
   (.invoiceCheckout, numEvents - (systemic + customer + subscription))]

/-- What the environment gives for a batch: for every bucket the draws of its turns, and the draws
of the shuffle. -/
structure BatchDraws where
  events : Bucket → ℕ → EventDraws
  shuffle : ℕ → ℕ

/-- The events of a batch in the order of their buckets. -/
def orderedBatch (numEvents : ℕ) (draws : BatchDraws) : List GeneratedEvent :=
  (bucketCounts numEvents).flatMap fun (bucket, count) =>
    (List.range count).map fun turn => generateEvent bucket (draws.events bucket turn)

/-- `generate_batch`. -/
def generateBatch (numEvents : ℕ) (draws : BatchDraws) : List GeneratedEvent :=
  shuffle draws.shuffle (orderedBatch numEvents draws)

/-- `generate_for_training`: the events to train on and those to test on. -/
def generateForTraining (draws : BatchDraws) : List GeneratedEvent × List GeneratedEvent :=
  let events := generateBatch 2000 draws
  let splitAt := events.length * 80 / 100
  (events.take splitAt, events.drop splitAt)

/-! ## The dictionaries -/

def optionalText (text : Option String) : Json := (text.map Json.str).getD .null

def Customer.toDict (customer : Customer) : Dict :=
  [("customer_id", .str customer.customerId), ("name", .str customer.name), ("email", .str customer.email),
   ("phone", .str customer.phone), ("upi_id", optionalText customer.upiId),
   ("preferred_language", .str customer.preferredLanguage),
   ("lifetime_value_paise", .int customer.lifetimeValuePaise),
   ("total_transactions", .int customer.totalTransactions),
   ("failed_transactions", .int customer.failedTransactions), ("opted_out", .bool customer.optedOut)]

def GeneratedEvent.metadata (event : GeneratedEvent) : Dict :=
  [("payment_method", .str event.paymentMethod), ("card_network", optionalText event.cardNetwork),
   ("bank_name", .str event.bankName)]

/-- The dictionary that `generate_batch` makes of an event. -/
def GeneratedEvent.toDict (event : GeneratedEvent) : Dict :=
  [("event_id", .str event.eventId), ("event_type", .str event.eventType.value),
   ("razorpay_payment_id", .str event.razorpayPaymentId), ("razorpay_order_id", .str event.razorpayOrderId),
   ("amount_paise", .int event.amountPaise), ("currency", .str "INR"),
   ("error_source", .str event.scenario.errorSource), ("error_step", .str event.scenario.errorStep),
   ("error_reason", .str event.scenario.errorReason), ("error_code", .str event.scenario.errorCode),
   ("error_description", .str event.scenario.errorDescription), ("customer", .obj event.customer.toDict),
   ("merchant_id", .str event.merchantId), ("timestamp", .str event.timestamp),
   ("metadata", .obj event.metadata), ("ground_truth", .obj event.groundTruth)]

/-- What `simulate_batch` reads of an event. -/
def GeneratedEvent.simulated (event : GeneratedEvent) : SimulatedEvent :=
  { eventType := event.eventType
    razorpayPaymentId := event.razorpayPaymentId
    razorpayOrderId := some event.razorpayOrderId
    amountPaise := event.amountPaise
    currency := "INR"
    errorSource := event.scenario.errorSource
    errorReason := event.scenario.errorReason
    errorCode := event.scenario.errorCode
    errorDescription := event.scenario.errorDescription
    customerId := event.customer.customerId
    customer := event.customer.toDict
    merchantId := event.merchantId
    metadata := event.metadata }

end RevenueGuard.SyntheticDataGenerator
