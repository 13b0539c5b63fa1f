import Mathlib.Data.List.Infix
import RevenueGuard.Aggregator

/-!
`gateway_health/downtime_monitor.py`: the health of a rail as the breaker sees it,
overridden where the processor reports a downtime for it.
-/

namespace RevenueGuard

open Library

namespace DowntimeMonitor

/-- `str(v) … if v is not None`. -/
def textOf : Json → Option String
  | .null => none
  | value => some value.pyStr

/-- What one key contributes to `_flatten_values`. -/
def flattenValue : Json → List String
  | .obj fields => fields.filterMap fun field => textOf field.2
  | .arr items => items.filterMap textOf
  | value => (textOf value).toList

/-- `_flatten_values`. -/
def flattenValues (payload : Dict) (keys : List String) : String :=
  lower (" ".intercalate (keys.flatMap fun key => flattenValue (Dict.get payload key)))

/-- `a in b`, for strings. -/
def occursIn (a b : String) : Bool := decide (a.toList <:+: b.toList)

def bankKeys : List String := ["bank", "bank_name", "issuer", "issuer_name", "institution", "provider"]

def railKeys : List String := ["rail", "method", "payment_method", "network", "instrument", "gateway"]

/-- Whether what a downtime says fits a name; what it does not say fits every name. -/
def fits (value name : String) : Bool :=
  value = "" || occursIn (lower name) value || occursIn value (lower name)

/-- `_downtime_matches`. -/
def downtimeMatches (downtime : Json) (bank rail : String) : Bool :=
  match downtime with
  | .obj payload =>
    let state := Dict.getD payload "state" (.str "active")
    let status := lower (Dict.getD payload "status" state).pyStr
    if status ∈ ["resolved", "completed", "inactive", "up"] then false
    else fits (flattenValues payload bankKeys) bank && fits (flattenValues payload railKeys) rail
  | _ => false

/-- `_downtime_override`. -/
def downtimeOverride (snapshot : GatewayHealthSnapshot) : GatewayHealthSnapshot :=
  { snapshot with
    state := .open
    recommendedAction := "DEFER"
    retryAfterSeconds := max snapshot.retryAfterSeconds 600
    confidence := "HIGH" }

/-- `get_unified_health` after its `get_health`, with what `fetch_downtimes` gives or
raises. -/
def unifiedHealth (internal : GatewayHealthSnapshot) (bank rail : String)
    (downtimes : Except String (List Json)) :
    GatewayHealthSnapshot :=
  let downtimes := match downtimes with
    | .ok items => items
    | .error _ => []
  if downtimes.any fun item => downtimeMatches item bank rail then downtimeOverride internal else internal

/-- `get_unified_health`, with what `get_stats` and `get_health` give or raise: only the
downtimes have a fall-back of their own. -/
def getUnifiedHealth (internal : Except String GatewayHealthSnapshot) (bank rail : String)
    (downtimes : Except String (List Json)) : Except String GatewayHealthSnapshot := do
  return unifiedHealth (← internal) bank rail downtimes

end DowntimeMonitor

end RevenueGuard
