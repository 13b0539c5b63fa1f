import RevenueGuard.Approvals
import RevenueGuard.Library.Calendar

/-!
The expiry of an approval as the code meets it: `api/main.py::_is_expired` compares
the column of the row, a datetime, and `guardrails/policy_engine.py` what the record in
the state holds, a datetime or a text.  From the request to the policy it goes through
the columns of `db/types.py`, which have no offset.
-/

namespace RevenueGuard

open Library Datetimes

/-- `expires_at` of an approval record. -/
inductive ExpiresAt where
  | missing
  | text (value : String)
  | datetime (value : Datetime)

def ExpiresAt.truthy : ExpiresAt → Bool
  | missing => false
  | text value => value ≠ ""
  | datetime _ => true

namespace PolicyEngine

/-- The end of `_parse_datetime`: a datetime without an offset is in UTC already, and
`astimezone` cannot leave the calendar. -/
def toUtc (parsed : Datetime) : Except String ℤ :=
  match parsed.offset with
  | none => .ok parsed.local
  | some _ =>
    if earliest ≤ parsed.instant ∧ parsed.instant ≤ Instant.latest then .ok parsed.instant
    else .error "date value out of range"

/-- `_parse_datetime`, which returns a datetime in UTC or `None`. -/
def parseDatetime : ExpiresAt → Except String (Option ℤ)
  | .missing => .ok none
  | .datetime parsed => (toUtc parsed).map some
  | .text value =>
    match fromIsoFormat (replaceZ value.toList) with
    | none => .ok none
    | some parsed => (toUtc parsed).map some

/-- `has_valid_approval`, on the status and the expiry that it looks up. -/
def hasValidApprovalRecord (status : Option ApprovalStatus) (expiresAt : ExpiresAt) (now : ℤ) :
    Except String Bool := do
  if status ≠ some .approved then return false
  else if !expiresAt.truthy then return true
  else match ← parseDatetime expiresAt with
    | none => return false
    | some expiry => return decide (expiry > now)

end PolicyEngine

/-- `_is_expired`: a datetime without an offset is taken to be in UTC. -/
def isExpiredDatetime (value : Datetime) (now : ℤ) : Bool := value.instant < now

/-! ## The way through the database -/

namespace UTCDateTime

/-- `process_bind_param`. -/
def processBindParam : Option Datetime → Except String (Option Datetime)
  | none => .ok none
  | some value =>
    match value.offset with
    | none => .ok (some value)
    | some _ => do
      let value ← astimezoneUtc value
      return some { value with offset := none }

/-- `process_result_value`. -/
def processResultValue : Option Datetime → Except String (Option Datetime)
  | none => .ok none
  | some value =>
    match value.offset with
    | none => .ok (some { value with offset := some utc })
    | some _ => do return some (← astimezoneUtc value)

end UTCDateTime

/-- `expires_at` of `request_approval_node`: `now + timedelta(hours=2)`. -/
def requestedExpiry (now : Datetime) : Except String Datetime :=
  if range : Representable (now.local + Instant.hours 2) then
    .ok (ofLocal (now.local + Instant.hours 2) range now.offset)
  else .error "date value out of range"

/-- The text of a datetime in `model_dump(mode="json")`. -/
def jsonText (d : Datetime) : List Char :=
  if d.offset = some utc then zuluText false d.date d.clock else d.isoFormat false

/-- `worker.py::_parse_datetime`. -/
def Worker.parseDatetime (value : List Char) : Except String Datetime :=
  match fromIsoFormat (replaceZ value) with
  | some parsed => .ok parsed
  | none => .error ("Invalid isoformat string: '" ++ String.ofList (replaceZ value) ++ "'")

/-- The `expires_at` of `_approval_state`, for a value of the column. -/
def expiryState : Option Datetime → Except String ExpiresAt
  | none => .error "'NoneType' object has no attribute 'isoformat'"
  | some expiresAt => .ok (.text (String.ofList (expiresAt.isoFormat false)))

/-- An expiry from the request for approval, by way of the row of the request, to the
policy of a later run.  The database gives back the value of a column as it was bound. -/
def storedExpiry (expiresAt : Datetime) : Except String (Option ℤ) := do
  let bound ← UTCDateTime.processBindParam (some (← Worker.parseDatetime (jsonText expiresAt)))
  let column ← UTCDateTime.processResultValue bound
  PolicyEngine.parseDatetime (← expiryState column)

end RevenueGuard
