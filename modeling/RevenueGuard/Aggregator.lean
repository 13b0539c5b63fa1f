import Mathlib.Logic.Function.Basic
import RevenueGuard.CircuitBreaker
import RevenueGuard.Library.Rounding
import RevenueGuard.Library.SortedSets

/-!
`gateway_health/aggregator.py`: the sliding windows over the outcomes of payments,
as sorted sets of Redis whose scores are readings of the clock.
-/

namespace RevenueGuard

open Library

/-- The sorted sets under their keys. -/
abbrev SortedSets := String → SortedSet String ℚ

namespace Aggregator

/-- `OUTCOMES`. -/
def outcomes : List String := ["success", "technical_decline", "business_decline", "timeout"]

/-- `windows`, in minutes. -/
def windows : List ℤ := [5, 15, 60]

/-- `_key`. -/
def key (bank rail : String) (windowMinutes : ℤ) (outcome : String) : String :=
  "gw:" ++ bank ++ ":" ++ rail ++ ":" ++ toString windowMinutes ++ "m:" ++ outcome

/-- `f"{now:.6f}"` for a reading of the clock. -/
def sixDecimals (now : ℚ) : String :=
  let micros := roundHalfEven (now * 1000000)
  let digits := toString (micros % 1000000)
  toString (micros / 1000000) ++ "." ++ String.ofList (List.replicate (6 - digits.length) '0') ++ digits

/-- The commands of `record_outcome` for one window. -/
def recordWindow (bank rail outcome member : String) (now : ℚ) (sets : SortedSets) (windowMinutes : ℤ) :
    SortedSets :=
  let key := key bank rail windowMinutes outcome
  Function.update sets key
    ((((sets key).add now member now).removeByScore now 0 (now - windowMinutes * 60)).expire now
      (windowMinutes * 60 + 60))

/-- `record_outcome`, undisturbed. -/
def recordOutcome (bank rail outcome : String) (now : ℚ) (uuid : String) (sets : SortedSets) :
    Except String SortedSets :=
  if outcome ∉ outcomes then .error ("Unsupported gateway outcome: " ++ outcome)
  else .ok (windows.foldl (recordWindow bank rail outcome (sixDecimals now ++ ":" ++ uuid) now) sets)

/-- `_validate_window`. -/
def validateWindow (windowMinutes : ℤ) : Except String Unit :=
  if windowMinutes ∉ windows then
    .error ("Unsupported window: " ++ toString windowMinutes ++ ". Expected one of " ++ toString windows)
  else .ok ()

/-- The command of `_cleanup_window` for one outcome. -/
def cleanupOutcome (bank rail : String) (windowMinutes : ℤ) (now : ℚ) (sets : SortedSets) (outcome : String) :
    SortedSets :=
  let key := key bank rail windowMinutes outcome
  Function.update sets key ((sets key).removeByScore now 0 (now - windowMinutes * 60))

/-- `_cleanup_window`, undisturbed. -/
def cleanupWindow (bank rail : String) (windowMinutes : ℤ) (now : ℚ) (sets : SortedSets) : SortedSets :=
  outcomes.foldl (cleanupOutcome bank rail windowMinutes now) sets

/-- `_rate`. -/
def rate (count total : ℕ) : ℚ := if total = 0 then 0 else roundQuotient (count / total) / 1000000

/-- The statistics for the count of each outcome. -/
def stats (windowMinutes : ℤ) (count : String → ℕ) : GatewayStats :=
  let total := (outcomes.map count).sum
  { windowMinutes
    totalAttempts := total
    successRate := rate (count "success") total
    technicalFailureRate := rate (count "technical_decline" + count "timeout") total
    businessDeclineRate := rate (count "business_decline") total
    timeoutRate := rate (count "timeout") total
    sampleSize := total }

/-- `get_stats`, undisturbed. -/
def getStats (bank rail : String) (windowMinutes : ℤ) (now : ℚ) (sets : SortedSets) :
    Except String (SortedSets × GatewayStats) := do
  validateWindow windowMinutes
  let sets := cleanupWindow bank rail windowMinutes now sets
  return (sets, stats windowMinutes fun outcome => (sets (key bank rail windowMinutes outcome)).card now)

/-- `_parse_success_key` of a text. -/
def parseSuccessKey (text : String) : Option (String × String) :=
  match (text.toList.splitOn ':').map String.ofList with
  | [gw, bank, rail, window, outcome] =>
    if gw ≠ "gw" ∨ window ≠ "15m" ∨ outcome ≠ "success" then none else some (bank, rail)
  | _ => none

/-- What `get_stats` returns, with the names that stand in it. -/
structure RailStats where
  bank : String
  rail : String
  stats : GatewayStats

/-- The loop of `get_all_banks_health` on one key. -/
def visitKey (now : ℚ) (acc : SortedSets × List RailStats) (key : String) :
    Except String (SortedSets × List RailStats) :=
  match parseSuccessKey key with
  | none => return acc
  | some (bank, rail) =>
    if bank ≠ "" ∧ rail ≠ "" then do
      let (sets, stats) ← getStats bank rail 15 now acc.1
      return (sets, acc.2 ++ [{ bank, rail, stats }])
    else return acc

/-- `get_all_banks_health`, undisturbed, over the keys that the scan returns, at one
reading of the clock. -/
def getAllBanksHealth (now : ℚ) (scanned : List String) (sets : SortedSets) :
    Except String (SortedSets × List RailStats) :=
  scanned.foldlM (visitKey now) (sets, [])

end Aggregator

end RevenueGuard
