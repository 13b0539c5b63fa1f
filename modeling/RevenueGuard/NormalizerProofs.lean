import RevenueGuard.Features
import RevenueGuard.Intake
import RevenueGuard.Library.Raises

/-!
The normalizer on well-formed failures.  A field that the processor leaves out has a
default, but a field that it sends as null keeps its null, and nine of the fourteen
cannot be null: seven end in a field of the model that takes strings only, and two
are handed on as they are.  The notes cannot be null or an array either.

The classification of a failure is then compared with the one that the features of
the triage model are made from.
-/

namespace RevenueGuard.NormalizerProofs

open Library Library.Raises FeatureEngineering

variable {rawEvent cleaned entity : Dict} {key default caseHex customerHex : String}
  {event : NormalizedFailureEvent}

/-! ## Entities -/

/-- The payment entity of a `payment.failed` event. -/
def FailedPayment (rawEvent entity : Dict) : Prop :=
  rawEvent.lookup "event" = some (.str "payment.failed") ∧ ∃ payload holder,
    rawEvent.lookup "payload" = some (.obj payload) ∧ payload.lookup "payment" = some (.obj holder) ∧
    holder.lookup "entity" = some (.obj entity)

/-- The fields that a payment may lack. -/
def optionalFields : List String :=
  ["error_source", "error_reason", "error_step", "error_code", "error_description", "contact", "email", "vpa",
   "order_id", "method", "bank", "network", "wallet", "currency"]

def Text (value : Json) : Prop := ∃ text, value = .str text

/-- A failure as the processor may send it. -/
structure WellFormed (entity : Dict) : Prop where
  optional : ∀ field ∈ optionalFields, ∀ value, entity.lookup field = some value → value = .null ∨ Text value
  id : ∀ value, entity.lookup "id" = some value → Text value
  amount : ∃ amount, entity.lookup "amount" = some (.int amount)
  notes : ∀ value, entity.lookup "notes" = some value →
    value = .null ∨ value = .arr [] ∨
      ∃ fields, value = .obj fields ∧ ∀ name text, fields.lookup name = some text → Text text

def isNull : Json → Bool
  | .null => true
  | _ => false

/-- The entity without the fields that are null. -/
def dropNulls (entity : Dict) : Dict := entity.filter fun entry => !(entity.lookup entry.1).any isNull

/-- The normalizer returns an event, and the same one for the entity without its nulls. -/
def Accepts (caseHex customerHex : String) (rawEvent entity : Dict) : Prop :=
  ∃ event, normalizeRazorpayEvent caseHex customerHex rawEvent = .ok event ∧
    ∀ cleaned, FailedPayment cleaned (dropNulls entity) →
      normalizeRazorpayEvent caseHex customerHex cleaned = .ok event

/-- The fields that the normalizer cannot take as null. -/
def strictFields : List String :=
  ["error_reason", "error_step", "error_code", "error_description", "contact", "email", "currency", "method",
   "bank"]

/-- None of them is, and the notes are an object where there are any. -/
structure NullFree (entity : Dict) : Prop where
  fields : ∀ field ∈ strictFields, entity.lookup field ≠ some .null
  notes : ∀ value, entity.lookup "notes" = some value → ∃ fields, value = .obj fields

theorem lookup_drop_nulls (entity : Dict) (key : String) :
    (dropNulls entity).lookup key = (entity.lookup key).filter (!isNull ·) := by
  rw [dropNulls, Dict.lookup_filter_key entity fun name => !(entity.lookup name).any isNull]
  cases entity.lookup key with
  | none => rfl
  | some value => cases value <;> rfl

/-! ## The event of a well-formed failure -/

def text? : Json → Option String
  | .str text => some text
  | _ => none

def fields? : Json → Option Dict
  | .obj fields => some fields
  | _ => none

def integer? : Json → Option ℤ
  | .int value => some value
  | _ => none

/-- The text of a field that has no default. -/
def optionalText (entity : Dict) (key : String) : Option String := (entity.lookup key).bind text?

/-- The text of a field, or its default. -/
def textOf (entity : Dict) (key default : String) : String := (optionalText entity key).getD default

def notesOf (entity : Dict) : Dict := ((entity.lookup "notes").bind fields?).getD []

def amountOf (entity : Dict) : ℤ := ((entity.lookup "amount").bind integer?).getD 0

/-- What a well-formed failure says, its category and its source apart. -/
def acceptedEvent (caseHex customerHex : String) (category : FailureCategory) (source : FailureSource)
    (entity : Dict) : NormalizedFailureEvent :=
  { caseId := "REC-" ++ caseHex
    eventType := .paymentFailed
    externalPaymentId := textOf entity "id" ""
    externalOrderId := optionalText entity "order_id"
    amountPaise := amountOf entity
    currency := textOf entity "currency" "INR"
    category
    source
    stage := textOf entity "error_step" "payment_authorization"
    reason := textOf entity "error_reason" "unknown"
    errorCode := textOf entity "error_code" "UNKNOWN_ERROR"
    errorDescription := textOf entity "error_description" "Payment failed"
    customer :=
      { customerId := textOf (notesOf entity) "customer_id" ("CUST-" ++ customerHex)
        name := textOf (notesOf entity) "customer_name" "Unknown Customer"
        email := textOf entity "email" "unknown@example.com"
        phone := textOf entity "contact" "+910000000000"
        upiId := optionalText entity "vpa" }
    merchantId := textOf (notesOf entity) "merchant_id" "default_merchant"
    metadata :=
      [("payment_method", .str (textOf entity "method" "unknown")),
       ("bank_name", .str (textOf entity "bank" "unknown")),
       ("card_network", dumpText (optionalText entity "network")),
       ("wallet", dumpText (optionalText entity "wallet")), ("vpa", dumpText (optionalText entity "vpa"))] }

/-- What nulls say nothing to reads the same without them. -/
theorem bind_drop_nulls {α : Type} (read : Json → Option α) (blind : read .null = none) (entity : Dict)
    (key : String) : ((dropNulls entity).lookup key).bind read = (entity.lookup key).bind read := by
  rw [lookup_drop_nulls]
  cases entity.lookup key with
  | none => rfl
  | some value =>
    cases value with
    | null => exact blind.symm
    | _ => rfl

theorem optional_text_drop_nulls (entity : Dict) (key : String) :
    optionalText (dropNulls entity) key = optionalText entity key :=
  bind_drop_nulls text? rfl entity key

/-- It says nothing about a field that is null. -/
theorem accepted_event_drop_nulls (caseHex customerHex : String) (category : FailureCategory)
    (source : FailureSource) (entity : Dict) :
    acceptedEvent caseHex customerHex category source (dropNulls entity) =
      acceptedEvent caseHex customerHex category source entity := by
  have notes : notesOf (dropNulls entity) = notesOf entity := by
    rw [notesOf, bind_drop_nulls fields? rfl, notesOf]
  have amount : amountOf (dropNulls entity) = amountOf entity := by
    rw [amountOf, bind_drop_nulls integer? rfl, amountOf]
  simp only [acceptedEvent, textOf, optional_text_drop_nulls, notes, amount]

theorem get_d_text (text : ∀ value, entity.lookup key = some value → Text value) (default : String) :
    entity.getD key (.str default) = .str (textOf entity key default) := by
  unfold Dict.getD textOf optionalText
  cases found : entity.lookup key with
  | none => rfl
  | some value =>
    obtain ⟨_, rfl⟩ := text value found
    rfl

theorem get_optional (optional : ∀ value, entity.lookup key = some value → value = .null ∨ Text value) :
    entity.get key = dumpText (optionalText entity key) := by
  unfold Dict.get optionalText
  cases found : entity.lookup key with
  | none => rfl
  | some value =>
    rcases optional value found with rfl | ⟨_, rfl⟩
    · rfl
    · rfl

theorem optional_field_dump (text : Option String) :
    (dumpText text).optionalField Json.strField = .ok text := by
  cases text <;> rfl

/-- What the normalizer reads of a raw event. -/
theorem failed_reads (failed : FailedPayment rawEvent entity) :
    rawEvent.getD "event" (.str "payment.failed") = .str "payment.failed" ∧
      ∃ payload, (rawEvent.getD "payload" (.obj [])).asDict = .ok payload ∧
        normalizedEntity payload = .ok entity := by
  obtain ⟨name, payload, holder, body, payment, held⟩ := failed
  refine ⟨by rw [Dict.getD, name]; rfl, payload, by rw [Dict.getD, body]; rfl, ?_⟩
  simp only [normalizedEntity, payment, Json.asDict, ok_bind, Dict.getD, held, Option.getD_some]

/-- What the normalizer has seen of an entity whose event it returns. -/
structure Taken (entity : Dict) (event : NormalizedFailureEvent) : Prop where
  texts : ∀ field ∈ ["error_reason", "error_step", "error_code", "error_description", "contact", "email",
    "currency"], entity.lookup field ≠ some .null
  notes : ∀ value, entity.lookup "notes" = some value → ∃ fields, value = .obj fields
  method : event.metadata.get "payment_method" = entity.getD "method" (.str "unknown")
  bank : event.metadata.get "bank_name" = entity.getD "bank" (.str "unknown")

/-- A field of the model that takes strings only was not null. -/
theorem str_field_not_null {text : String} (taken : (entity.getD key (.str default)).strField = .ok text) :
    entity.lookup key ≠ some .null := by
  intro null
  rw [Dict.getD, null] at taken
  cases taken

theorem as_dict_object {fields : Dict} (taken : (entity.getD "notes" (.obj [])).asDict = .ok fields)
    {value : Json}
    (found : entity.lookup "notes" = some value) : ∃ fields, value = .obj fields := by
  rw [Dict.getD, found, Option.getD_some] at taken
  cases value with
  | obj fields => exact ⟨fields, rfl⟩
  | _ => cases taken

theorem normalize_taken (failed : FailedPayment rawEvent entity)
    (returned : normalizeRazorpayEvent caseHex customerHex rawEvent = .ok event) : Taken entity event := by
  obtain ⟨name, payload, body, read⟩ := failed_reads failed
  simp only [normalizeRazorpayEvent, name, body, read, ok_bind, bind_ok, pure_ok] at returned
  obtain ⟨_, notes, _, _, _, _, _, email, _, contact, _, _, _, _, _, _, _, _, _, _, _, currency, _, _, _, _, _, step,
    _, reason, _, code, _, description, _, _, rfl⟩ := returned
  refine ⟨?_, fun value found => as_dict_object notes found, rfl, rfl⟩
  simp only [List.forall_mem_cons]
  exact ⟨str_field_not_null reason, str_field_not_null step, str_field_not_null code, str_field_not_null description,
    str_field_not_null contact, str_field_not_null email, str_field_not_null currency, by simp⟩

/-- A source that is null is classified like one that is missing. -/
theorem classify_source
    (optional : ∀ value, entity.lookup "error_source" = some value → value = .null ∨ Text value)
    (reason : Json) :
    classifyFailure (entity.getD "error_source" (.str "unknown")) reason =
        classifyFailure (.str (textOf entity "error_source" "unknown")) reason ∧
      mapSource (entity.getD "error_source" (.str "unknown")) =
        mapSource (.str (textOf entity "error_source" "unknown")) := by
  unfold Dict.getD textOf optionalText
  cases found : entity.lookup "error_source" with
  | none => exact ⟨rfl, rfl⟩
  | some value =>
    rcases optional value found with rfl | ⟨_, rfl⟩
    · exact ⟨rfl, rfl⟩
    · exact ⟨rfl, rfl⟩

theorem strict_text (wellFormed : WellFormed entity) (free : NullFree entity) (strict : key ∈ strictFields) :
    ∀ value, entity.lookup key = some value → Text value := by
  intro value found
  have optional : key ∈ optionalFields := by
    revert strict
    simp only [strictFields, optionalFields, List.mem_cons]
    tauto
  refine (wellFormed.optional key optional value found).resolve_left ?_
  rintro rfl
  exact free.fields key strict found

theorem classified (source reason : String) :
    ∃ category, classifyFailure (.str source) (.str reason) = .ok category := ⟨_, rfl⟩

theorem source_mapped (text : String) : ∃ source, mapSource (.str text) = .ok source := ⟨_, rfl⟩

theorem notes_read (wellFormed : WellFormed entity) (free : NullFree entity) :
    (entity.getD "notes" (.obj [])).asDict = .ok (notesOf entity) ∧
      ∀ name text, (notesOf entity).lookup name = some text → Text text := by
  unfold Dict.getD notesOf
  cases found : entity.lookup "notes" with
  | none => exact ⟨rfl, by simp⟩
  | some value =>
    obtain ⟨fields, rfl⟩ := free.notes value found
    refine ⟨rfl, ?_⟩
    rcases wellFormed.notes _ found with null | array | ⟨_, same, texts⟩
    · cases null
    · cases array
    · cases same
      exact texts

/-- The event of a well-formed failure whose nulls are not in the way. -/
theorem normalize_accepted (wellFormed : WellFormed entity) (free : NullFree entity)
    {category : FailureCategory}
    {source : FailureSource}
    (classifies : classifyFailure (.str (textOf entity "error_source" "unknown"))
      (.str (textOf entity "error_reason" "unknown")) = .ok category)
    (maps : mapSource (.str (textOf entity "error_source" "unknown")) = .ok source)
    (failed : FailedPayment rawEvent entity) :
    normalizeRazorpayEvent caseHex customerHex rawEvent =
      .ok (acceptedEvent caseHex customerHex category source entity) := by
  obtain ⟨name, payload, body, read⟩ := failed_reads failed
  have strict (key default : String) (listed : key ∈ strictFields) :
      entity.getD key (.str default) = .str (textOf entity key default) :=
    get_d_text (strict_text wellFormed free listed) default
  have optional (key : String) (listed : key ∈ optionalFields) :
      entity.get key = dumpText (optionalText entity key) :=
    get_optional (wellFormed.optional key listed)
  have id := get_d_text wellFormed.id ""
  obtain ⟨amount, amountFound⟩ := wellFormed.amount
  have amountRead : entity.getD "amount" (.int 0) = .int (amountOf entity) := by
    rw [Dict.getD, amountOf, amountFound]
    rfl
  obtain ⟨sourceClassified, sourceMapped⟩ :=
    classify_source (wellFormed.optional "error_source" (by simp [optionalFields]))
      (.str (textOf entity "error_reason" "unknown"))
  have notes := notes_read wellFormed free
  have noted (key default : String) :
      (notesOf entity).getD key (.str default) = .str (textOf (notesOf entity) key default) :=
    get_d_text (notes.2 key) default
  simp only [normalizeRazorpayEvent, name, body, read, ok_bind, notes.1, noted, id, amountRead,
    strict "error_reason" _ (by simp [strictFields]), strict "error_step" _ (by simp [strictFields]),
    strict "error_code" _ (by simp [strictFields]), strict "error_description" _ (by simp [strictFields]),
    strict "contact" _ (by simp [strictFields]), strict "email" _ (by simp [strictFields]),
    strict "currency" _ (by simp [strictFields]), strict "method" _ (by simp [strictFields]),
    strict "bank" _ (by simp [strictFields]), optional "vpa" (by simp [optionalFields]),
    optional "order_id" (by simp [optionalFields]), optional "network" (by simp [optionalFields]),
    optional "wallet" (by simp [optionalFields]), optional_field_dump, sourceClassified, sourceMapped, classifies,
    maps, Json.strField, Json.intField, mapEventType]
  rfl

/-! ## Without the nulls -/

theorem lookup_of_drop_nulls {value : Json} (found : (dropNulls entity).lookup key = some value) :
    entity.lookup key = some value ∧ value ≠ .null := by
  rw [lookup_drop_nulls, Option.filter_eq_some_iff] at found
  refine ⟨found.1, ?_⟩
  rintro rfl
  cases found.2

theorem well_formed_drop_nulls (wellFormed : WellFormed entity) : WellFormed (dropNulls entity) := by
  obtain ⟨amount, amountFound⟩ := wellFormed.amount
  constructor
  case optional =>
    exact fun field listed value found => wellFormed.optional field listed value (lookup_of_drop_nulls found).1
  case id => exact fun value found => wellFormed.id value (lookup_of_drop_nulls found).1
  case amount => exact ⟨amount, by rw [lookup_drop_nulls, amountFound]; rfl⟩
  case notes => exact fun value found => wellFormed.notes value (lookup_of_drop_nulls found).1

theorem null_free_drop_nulls (free : NullFree entity) : NullFree (dropNulls entity) := by
  constructor
  case fields => exact fun field _ null => (lookup_of_drop_nulls null).2 rfl
  case notes => exact fun value found => free.notes value (lookup_of_drop_nulls found).1

/-- The event of an entity, and nothing else. -/
def failedPayment (entity : Dict) : Dict :=
  [("event", .str "payment.failed"), ("payload", .obj [("payment", .obj [("entity", .obj entity)])])]

theorem failed_payment (entity : Dict) : FailedPayment (failedPayment entity) entity :=
  ⟨rfl, _, _, rfl, rfl, rfl⟩

/-- What reads the same in an entity and in the entity without its nulls was not null. -/
theorem not_null_of_same (same : entity.getD key (.str default) = (dropNulls entity).getD key (.str default)) :
    entity.lookup key ≠ some .null := by
  intro null
  rw [Dict.getD, Dict.getD, lookup_drop_nulls, null] at same
  cases same

/-- A well-formed failure is accepted, its nulls like missing fields, if and only if it has
no null and no array where the normalizer takes none. -/
theorem accepts_iff (caseHex customerHex : String) (wellFormed : WellFormed entity)
    (failed : FailedPayment rawEvent entity) :
    Accepts caseHex customerHex rawEvent entity ↔ NullFree entity := by
  constructor
  · rintro ⟨event, returned, same⟩
    have taken := normalize_taken failed returned
    have withoutNulls := normalize_taken (failed_payment _) (same _ (failed_payment _))
    have method := not_null_of_same (taken.method.symm.trans withoutNulls.method)
    have bank := not_null_of_same (taken.bank.symm.trans withoutNulls.bank)
    refine ⟨fun field listed => ?_, taken.notes⟩
    rw [show strictFields = ["error_reason", "error_step", "error_code", "error_description", "contact", "email",
      "currency"] ++ ["method", "bank"] from rfl, List.mem_append, List.mem_pair] at listed
    rcases listed with text | rfl | rfl
    · exact taken.texts field text
    · exact method
    · exact bank
  · intro free
    obtain ⟨category, classifies⟩ := classified (textOf entity "error_source" "unknown")
      (textOf entity "error_reason" "unknown")
    obtain ⟨source, maps⟩ := source_mapped (textOf entity "error_source" "unknown")
    refine ⟨_, normalize_accepted wellFormed free classifies maps failed, fun cleaned failed => ?_⟩
    rw [← accepted_event_drop_nulls]
    refine normalize_accepted (well_formed_drop_nulls wellFormed) (null_free_drop_nulls free) ?_ ?_ failed
    · simpa only [textOf, optional_text_drop_nulls] using classifies
    · simpa only [textOf, optional_text_drop_nulls] using maps

/-- A UPI payment, whose nulls are the fields of other methods. -/
def upiFailure : Dict :=
  [("id", .str "pay_1"), ("amount", .int 250000), ("currency", .str "INR"), ("order_id", .null), ("network", .null),
   ("wallet", .null), ("vpa", .str "payer@okhdfc"), ("notes", .obj [("customer_id", .str "CUST-1")])]

theorem accepts_iff_upi_failure :
    Accepts "00000007" "A1B2C3" (failedPayment upiFailure) upiFailure ↔ NullFree upiFailure := by
  refine accepts_iff "00000007" "A1B2C3" ?_ (failed_payment upiFailure)
  constructor
  case optional => simp [optionalFields, upiFailure, List.lookup_cons, Text]
  case id => simp [upiFailure, Text]
  case amount => exact ⟨250000, rfl⟩
  case notes =>
    intro value found
    cases found
    refine .inr (.inr ⟨_, rfl, fun name text listed => ?_⟩)
    rw [List.lookup_cons] at listed
    split at listed
    · cases listed
      exact ⟨_, rfl⟩
    · cases listed

/-- A payment without notes, as the processor sends it: the notes are an empty array. -/
def emptyNotes : Dict := [("id", .str "pay_2"), ("amount", .int 50000), ("notes", .arr [])]

/-- The normalizer raises on it. -/
theorem empty_notes_raise :
    WellFormed emptyNotes ∧ FailedPayment (failedPayment emptyNotes) emptyNotes ∧
      normalizeRazorpayEvent "00000007" "A1B2C3" (failedPayment emptyNotes) =
        .error "'list' object has no attribute 'get'" ∧
      ¬ Accepts "00000007" "A1B2C3" (failedPayment emptyNotes) emptyNotes := by
  have raises : normalizeRazorpayEvent "00000007" "A1B2C3" (failedPayment emptyNotes) =
      .error "'list' object has no attribute 'get'" := rfl
  refine ⟨?_, failed_payment emptyNotes, raises, ?_⟩
  · constructor
    case optional => simp [optionalFields, emptyNotes, List.lookup_cons]
    case id => simp [emptyNotes, Text]
    case amount => exact ⟨50000, rfl⟩
    case notes => simp [emptyNotes, List.lookup_cons]
  · rintro ⟨event, returned, _⟩
    cases raises.symm.trans returned

/-! ## Two classifications -/

/-- The reasons of a bank that only the features know. -/
def unclassifiedReasons : List String := ["timeout", "wrong_pin", "authentication_failed"]

/-- The category that is stored on the case is the one that the features are made from. -/
def SameCategory (source reason : String) : Prop :=
  (classifyFailure (.str source) (.str reason)).map FailureCategory.value =
    .ok (inferFailureCategory (lower source) (lower reason))

theorem classify_failure_text (source reason : String) :
    classifyFailure (.str source) (.str reason) =
      .ok (if lower source = "bank" ∧ lower reason ∈ bankSystemicReasons then .systemic
        else if lower source = "bank" ∧ lower reason ∈ bankCustomerReasons then .customer
        else if lower source = "customer" then .customer
        else if lower source ∈ ["gateway", "network"] then .systemic
        else if lower source = "business" then .business
        else .unknown) := rfl

/-- Away from the bank both look at the source alone. -/
theorem same_category_elsewhere {source : String} (elsewhere : lower source ≠ "bank") (reason : String) :
    SameCategory source reason := by
  unfold SameCategory
  rw [classify_failure_text, inferFailureCategory]
  by_cases business : lower source = "business"
  · simp [business, Except.map, FailureCategory.value]
  · by_cases technical : lower source ∈ ["gateway", "network"]
    · rcases List.mem_pair.mp technical with same | same
      · simp [same, Except.map, FailureCategory.value]
      · simp [same, Except.map, FailureCategory.value]
    · by_cases customer : lower source = "customer"
      · simp [customer, Except.map, FailureCategory.value]
      · simp [elsewhere, business, technical, customer, Except.map, FailureCategory.value]

theorem classify_bank (reason : String) {source : String} (bank : lower source = "bank") :
    SameCategory source reason ↔
      (if lower reason ∈ bankSystemicReasons then FailureCategory.systemic
        else if lower reason ∈ bankCustomerReasons then .customer else .unknown).value =
      inferFailureCategory "bank" (lower reason) := by
  unfold SameCategory
  rw [classify_failure_text, bank]
  simp [Except.map]

/-- At the bank the features know three reasons more. -/
theorem same_category_bank {source : String} (bank : lower source = "bank") (reason : String) :
    SameCategory source reason ↔ lower reason ∉ unclassifiedReasons := by
  rw [classify_bank reason bank]
  generalize lower reason = text
  by_cases known : text ∈ bankSystemicReasons ++ bankCustomerReasons ++ unclassifiedReasons
  · revert text
    decide
  · simp only [List.mem_append, not_or] at known
    obtain ⟨⟨systemic, customer⟩, unclassified⟩ := known
    have unknown : inferFailureCategory "bank" text = "unknown" := by
      simp only [bankSystemicReasons, bankCustomerReasons, unclassifiedReasons, List.mem_cons,
        List.not_mem_nil, or_false, not_or] at systemic customer unclassified
      simp [inferFailureCategory, systemic, customer, unclassified]
    rw [if_neg systemic, if_neg customer, unknown]
    exact iff_of_true rfl unclassified

/-- The two classifications of a failure agree unless the bank gives a reason that only the
features know. -/
theorem same_category_iff (source reason : String) :
    SameCategory source reason ↔ ¬ (lower source = "bank" ∧ lower reason ∈ unclassifiedReasons) := by
  by_cases bank : lower source = "bank"
  · rw [same_category_bank bank reason]
    simp [bank]
  · exact iff_of_true (same_category_elsewhere bank reason) fun both => bank both.1

/-- A timeout of the bank is stored as unknown, and a feature of the systemic kind; a wrong PIN
likewise, of the customer's. -/
theorem bank_timeout_differs :
    ¬ SameCategory "bank" "timeout" ∧ ¬ SameCategory "bank" "wrong_pin" ∧
      classifyFailure (.str "bank") (.str "timeout") = .ok .unknown ∧
      inferFailureCategory "bank" "timeout" = "systemic" ∧
      classifyFailure (.str "bank") (.str "wrong_pin") = .ok .unknown ∧
      inferFailureCategory "bank" "wrong_pin" = "customer" := by
  unfold SameCategory
  decide

end RevenueGuard.NormalizerProofs
