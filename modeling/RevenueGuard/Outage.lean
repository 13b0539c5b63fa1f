import RevenueGuard.Aggregator
import RevenueGuard.LlmResponse

/-!
`simulate_outage` of `api/main.py`, up to its question to the monitor: the names that a
request may carry, and what the endpoint records under them.
-/

namespace RevenueGuard

open Library LlmResponse

/-- `OutageSimulationRequest`, with the lengths that its fields admit. -/
structure OutageSimulationRequest where
  bank : String := "SBI"
  rail : String := "UPI"
  valid : (1 ≤ bank.length ∧ bank.length ≤ 50) ∧ 1 ≤ rail.length ∧ rail.length ≤ 50

/-- The bank and the rail that `simulate_outage` goes by. -/
def OutageSimulationRequest.names (body : OutageSimulationRequest) : String × String :=
  (strip body.bank, lower (strip body.rail))

/-- What `simulate_outage` records, at the readings and with the identifiers of its sixty
calls. -/
def OutageSimulationRequest.record (body : OutageSimulationRequest) (calls : Fin 60 → ℚ × String)
    (sets : SortedSets) : Except String SortedSets :=
  (List.ofFn calls).foldlM
    (fun sets call =>
      Aggregator.recordOutcome body.names.1 body.names.2 "technical_decline" call.1 call.2 sets) sets

end RevenueGuard
