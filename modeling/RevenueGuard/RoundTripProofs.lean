import RevenueGuard.CaseData
import RevenueGuard.IntakeProofs

/-!
The round trip of a failure through its row.  Everything the webhook handler normalizes
comes back in `case_data`, the customer without the envelope, except the step at which the
payment failed: no column has it, and the diagnosis looks it up in vain.
-/

namespace RevenueGuard.RoundTripProofs

open Library Library.Raises Objects GraphProofs SystemProofs IntakeProofs

variable {kind : DatabaseKind} {i : ℕ} {caseHex customerHex eventId : String} {now : ℤ} {event : Dict}
  {normalized : NormalizedFailureEvent} {record : WebhookEvent} {row : RecoveryCase}
  {approval : Option RecoveryApproval} {built : RecoveryState} {heap : Heap} {address : ℕ}

/-- `case_data` carries what was normalized, the step apart. -/
structure Carries (normalized : NormalizedFailureEvent) (case : CaseData) : Prop where
  eventType : case.eventType = normalized.eventType
  externalPaymentId : case.externalPaymentId = normalized.externalPaymentId
  externalOrderId : case.externalOrderId = normalized.externalOrderId
  amountPaise : case.amountPaise = normalized.amountPaise
  currency : case.currency = normalized.currency
  category : case.category = normalized.category.value
  source : case.source = normalized.source.value
  reason : case.reason = normalized.reason
  errorCode : case.errorCode = normalized.errorCode
  errorDescription : case.errorDescription = .str normalized.errorDescription
  merchantId : case.merchantId = normalized.merchantId
  metadata : case.metadata = .obj normalized.metadata
  customer : case.customer = normalized.customer.modelDump

/-- `case_data` carries the step too, under a name that the diagnosis knows it by. -/
structure RoundTrip (normalized : NormalizedFailureEvent) (case : CaseData) : Prop extends
    Carries normalized case where
  stage : firstValue case.toDict stepNames = some (.str normalized.stage)

/-- What the diagnosis would say of a normalized failure. -/
def promptOf (normalized : NormalizedFailureEvent) : FailurePrompt :=
  { errorSource := .str normalized.source.value
    errorStep := .str normalized.stage
    errorReason := .str normalized.reason
    description := .str normalized.errorDescription
    paymentMethod := normalized.metadata.getD "payment_method" (.str "unknown")
    bank := normalized.metadata.getD "bank_name" (.str "unknown") }

/-- No `case_data` has the step. -/
theorem no_step (case : CaseData) : firstValue case.toDict stepNames = none := rfl

/-- The diagnosis finds what `case_data` carries, and leaves the step blank. -/
theorem failure_prompt {case : CaseData} (carries : Carries normalized case) :
    failurePrompt case.toDict = { promptOf normalized with errorStep := .str "" } := by
  have metadata : (case.toDict.get "metadata").dictOrEmpty = normalized.metadata :=
    congrArg Json.dictOrEmpty carries.metadata
  simp only [failurePrompt, promptOf, metadata, ← carries.source, ← carries.reason, ← carries.errorDescription]
  rfl

/-! ## The stored row -/

/-- The envelope comes off again, and nothing else does. -/
theorem erase_context (customer : CustomerProfile) (envelope : Json) :
    (customer.modelDump ++ [(contextKey, envelope)]).erase contextKey = customer.modelDump := by
  have bare : ∀ entry ∈ customer.modelDump, entry.1 ≠ contextKey := by
    simp [CustomerProfile.modelDump, contextKey]
  rw [Dict.erase, List.filter_append, List.filter_eq_self.mpr (by simpa using bare)]
  simp

/-- On its copy of `customer_data`, `_build_state` rebuilds the same state, and adds one
object to those that there are. -/
theorem build_state_from (stored : entries heap address = row.customerData)
    (rebuilt : buildState row approval = .ok built) :
    ∃ made, (buildStateFrom address row approval).run heap = .ok (built, heap ++ [made]) := by
  obtain ⟨context, found, assembled⟩ := bind_pure_ok.mp rebuilt
  refine ⟨row.customerData.erase contextKey, ?_⟩
  simp only [buildStateFrom, StateT.run_bind, copy_run, stored, ok_bind, pop_run_last, found,
    StateT.run_monadLift, monadLift_self, pure_bind, read_run_last, assembled]
  rfl

theorem webhook_case_carries (normalized : NormalizedFailureEvent) (approval : Option RecoveryApproval) :
    ∃ built, buildState (webhookCase i now normalized) approval = .ok built ∧
      Carries normalized built.caseData := by
  refine ⟨_, rfl, ?_⟩
  constructor
  case customer => exact erase_context _ _
  all_goals rfl

/-- The handler writes the case of what it has normalized. -/
theorem webhook_rows_case (accepted : normalizeRazorpayEvent caseHex customerHex event = .ok normalized)
    (written : webhookRows kind i caseHex customerHex now eventId event = .ok (record, some row)) :
    row = webhookCase i now normalized := by
  obtain ⟨_, _, made⟩ := bind_ok.mp written
  split at made
  · rw [accepted, ok_bind] at made
    cases pure_ok.mp made
    rfl
  · cases pure_ok.mp made

/-- Of every accepted failure, the rebuilt state carries all that was normalized but the
step, which is never found; the stored objects are left as they were. -/
theorem step_lost (accepted : normalizeRazorpayEvent caseHex customerHex event = .ok normalized)
    (written : webhookRows kind i caseHex customerHex now eventId event = .ok (record, some row))
    (stored : entries heap address = row.customerData) (approval : Option RecoveryApproval) :
    ∃ built made, (buildStateFrom address row approval).run heap = .ok (built, heap ++ [made]) ∧
      Carries normalized built.caseData ∧
      failurePrompt built.caseData.toDict = { promptOf normalized with errorStep := .str "" } ∧
      ¬ RoundTrip normalized built.caseData := by
  cases webhook_rows_case accepted written
  obtain ⟨built, rebuilt, carries⟩ := webhook_case_carries normalized approval
  obtain ⟨made, ran⟩ := build_state_from stored rebuilt
  refine ⟨built, made, ran, carries, failure_prompt carries, fun whole => ?_⟩
  cases (no_step built.caseData).symm.trans whole.stage

/-- A payment that failed when the customer was to authenticate it. -/
def unauthenticated : Dict :=
  [("event", .str "payment.failed"), ("payload", .obj [("payment", .obj [("entity", .obj
    [("id", .str "pay_1"), ("amount", .int 250000), ("error_source", .str "customer"),
     ("error_step", .str "payment_authentication"), ("error_reason", .str "authentication_failed"),
     ("contact", .str "+919900000000"), ("email", .str "payer@example.com")])])])]

theorem step_lost_unauthenticated : ∃ normalized row built made,
    normalizeRazorpayEvent "00000007" "A1B2C3" unauthenticated = .ok normalized ∧
      normalized.stage = "payment_authentication" ∧
      (buildStateFrom 0 row none).run [row.customerData] = .ok (built, [row.customerData, made]) ∧
      Carries normalized built.caseData ∧ ¬ RoundTrip normalized built.caseData := by
  obtain ⟨normalized, record, row, accepted, stage, written⟩ : ∃ normalized record row,
      normalizeRazorpayEvent "00000007" "A1B2C3" unauthenticated = .ok normalized ∧
        normalized.stage = "payment_authentication" ∧
        webhookRows .sqlite 0 "00000007" "A1B2C3" 1788500000000000 "evt_1" unauthenticated =
          .ok (record, some row) := ⟨_, _, _, rfl, rfl, rfl⟩
  have stored : entries [row.customerData] 0 = row.customerData := rfl
  obtain ⟨built, made, ran, carries, _, lost⟩ := step_lost accepted written stored none
  exact ⟨normalized, row, built, made, accepted, stage, ran, carries, lost⟩

/-- Every accepted failure comes back whole. -/
def ComesBack : Prop :=
  ∀ kind i caseHex customerHex now eventId event normalized record row approval built,
    normalizeRazorpayEvent caseHex customerHex event = .ok normalized →
    webhookRows kind i caseHex customerHex now eventId event = .ok (record, some row) →
    buildState row approval = .ok built → RoundTrip normalized built.caseData

/-- The step of an unauthenticated payment does not. -/
theorem failure_comes_back_without_step : ¬ ComesBack := by
  intro whole
  obtain ⟨normalized, record, row, built, accepted, written, rebuilt⟩ : ∃ normalized record row built,
      normalizeRazorpayEvent "00000007" "A1B2C3" unauthenticated = .ok normalized ∧
        webhookRows .sqlite 0 "00000007" "A1B2C3" 1788500000000000 "evt_1" unauthenticated =
          .ok (record, some row) ∧ buildState row none = .ok built := ⟨_, _, _, _, rfl, rfl, rfl⟩
  have found := (whole _ _ _ _ _ _ _ _ _ _ _ _ accepted written rebuilt).stage
  cases (no_step built.caseData).symm.trans found

end RevenueGuard.RoundTripProofs
