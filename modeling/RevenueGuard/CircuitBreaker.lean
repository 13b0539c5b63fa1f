import Mathlib.Data.Rat.Floor
import RevenueGuard.Library.ReadModifyWrite
import RevenueGuard.Models

/-!
`gateway_health/circuit_breaker.py`: the breaker of one bank and rail, as the
dictionary that Redis holds for it.  A reading of `time.time()` is the rational
number of seconds that its float denotes: floats of one clock differ by
multiples of its tick, so the differences the breaker takes are exact.
-/

namespace RevenueGuard

open Library

def GatewayHealthState.value : GatewayHealthState → String
  | closed => "closed"
  | .open => "open"
  | halfOpen => "half_open"

/-- `GatewayHealthState(text)`. -/
def GatewayHealthState.ofValue (text : String) : Except String GatewayHealthState :=
  match text with
  | "closed" => .ok closed
  | "open" => .ok .open
  | "half_open" => .ok halfOpen
  | _ => .error ("'" ++ text ++ "' is not a valid GatewayHealthState")

/-- `a or b`, for numbers. -/
def numOr {α : Type} [DecidableEq α] [Zero α] (a b : α) : α := if a = 0 then b else a

/-- The parameters of a `GatewayCircuitBreaker`. -/
structure BreakerConfig where
  failureThreshold : ℚ := 30 / 100
  minSamples : ℤ := 50
  cooldownSeconds : ℤ := 600
  probeCount : ℤ := 3
  probeRequiredSuccesses : ℤ := 2

/-- What `GatewayHealthAggregator.get_stats` returns, without the bank and the
rail it was asked for. -/
structure GatewayStats where
  windowMinutes : ℤ := 15
  totalAttempts : ℤ
  successRate : ℚ
  technicalFailureRate : ℚ
  businessDeclineRate : ℚ
  timeoutRate : ℚ
  sampleSize : ℤ
  deriving DecidableEq

/-- The dictionary that `_get_state` returns.  Every key may be missing; what it
holds is what this class has written there. -/
structure StateDict where
  state : Option String := none
  updatedAt : Option ℚ := none
  cooldownSeconds : Option ℤ := none
  probeSuccesses : Option ℤ := none
  probeFailures : Option ℤ := none
  openedAt : Option ℚ := none
  deriving DecidableEq

namespace CircuitBreaker

/-- `_key`. -/
def key (bank rail : String) : String := "cb:" ++ bank ++ ":" ++ rail

/-- `_new_state`. -/
def newState (state : GatewayHealthState) (now : ℚ) (cooldownSeconds : ℤ) : StateDict :=
  { state := some state.value
    updatedAt := some now
    cooldownSeconds := some cooldownSeconds
    probeSuccesses := some 0
    probeFailures := some 0
    openedAt := if state = .open then some now else none }

/-- `_get_state`, for the value under the key.  A text that does not decode counts
as none. -/
def getState (cfg : BreakerConfig) (raw : Option StateDict) (now : ℚ) : StateDict :=
  raw.getD (newState .closed now cfg.cooldownSeconds)

/-- The value that `_save_state` writes. -/
def savedState (state : StateDict) (now : ℚ) : StateDict := { state with updatedAt := some now }

/-- `evaluate` between its GET and its SET: the dictionary to be saved, if any,
and the state to be returned. -/
def evaluateState (cfg : BreakerConfig) (stats : GatewayStats) (now : ℚ) (state : StateDict) :
    Except String (Option StateDict × GatewayHealthState) := do
  match ← GatewayHealthState.ofValue (state.state.getD GatewayHealthState.closed.value) with
  | .closed =>
    if stats.sampleSize > cfg.minSamples ∧ stats.technicalFailureRate > cfg.failureThreshold then
      return (some (newState .open now cfg.cooldownSeconds), .open)
    -- The state that was read is written back, although nothing has changed.
    else return (some state, .closed)
  | .open =>
    let openedAt := numOr (state.openedAt.getD (state.updatedAt.getD now)) now
    let cooldown := numOr (state.cooldownSeconds.getD cfg.cooldownSeconds) cfg.cooldownSeconds
    if now - openedAt ≥ cooldown then return (some (newState .halfOpen now cooldown), .halfOpen)
    else return (none, .open)
  | .halfOpen =>
    let probeSuccesses := state.probeSuccesses.getD 0
    let probeFailures := state.probeFailures.getD 0
    let requiredFailures := max 1 (cfg.probeCount - cfg.probeRequiredSuccesses + 1)
    if probeSuccesses ≥ cfg.probeRequiredSuccesses then
      return (some (newState .closed now cfg.cooldownSeconds), .closed)
    else if probeFailures ≥ requiredFailures then
      let cooldown := numOr (state.cooldownSeconds.getD cfg.cooldownSeconds) cfg.cooldownSeconds * 2
      return (some (newState .open now cooldown), .open)
    else return (none, .halfOpen)

/-- `evaluate` as a call of its own, whose GET and SET are single commands: between two
of its actions any other call may act on the same key. -/
def evaluateCall (cfg : BreakerConfig) :
    ReadModifyWrite.Procedure ℚ StateDict GatewayStats GatewayHealthState where
  fresh now := newState .closed now cfg.cooldownSeconds
  decide stats now state := evaluateState cfg stats now state
  write now state := savedState state now

/-- The readings of the clock by one `evaluate`: for the state of a missing key, for
its decision, and for `_save_state`. -/
structure EvaluateClock where
  fresh : ℚ
  now : ℚ
  saved : ℚ

/-- The value under the key after a save, or without one. -/
def stored (raw save : Option StateDict) (saved : ℚ) : Option StateDict :=
  match save with
  | none => raw
  | some state => some (savedState state saved)

/-- `evaluate`, undisturbed: the value it leaves under the key, and the state it
returns. -/
def evaluate (cfg : BreakerConfig) (stats : GatewayStats) (clock : EvaluateClock) (raw : Option StateDict) :
    Except String (Option StateDict × GatewayHealthState) := do
  let (save, result) ← evaluateState cfg stats clock.now (getState cfg raw clock.fresh)
  return (stored raw save clock.saved, result)

/-- `record_probe_result` between its GET and its SET. -/
def recordProbeState (success : Bool) (state : StateDict) : Except String (Option StateDict) := do
  let current ← GatewayHealthState.ofValue (state.state.getD GatewayHealthState.closed.value)
  if current ≠ .halfOpen then return none
  else if success then
    return some { state with probeSuccesses := some (state.probeSuccesses.getD 0 + 1) }
  else return some { state with probeFailures := some (state.probeFailures.getD 0 + 1) }

/-- `record_probe_result`, undisturbed. -/
def recordProbeResult (cfg : BreakerConfig) (success : Bool) (fresh saved : ℚ) (raw : Option StateDict) :
    Except String (Option StateDict) := do
  return stored raw (← recordProbeState success (getState cfg raw fresh)) saved

/-- `_confidence`. -/
def confidence (cfg : BreakerConfig) (sampleSize : ℤ) : String :=
  if sampleSize ≥ cfg.minSamples then "HIGH"
  else if sampleSize ≥ max 10 (cfg.minSamples / 2) then "MEDIUM"
  else "LOW"

/-- The readings of the clock by one `get_health` after its `evaluate`: for the state
of a missing key, for an opening that is not on record, and for the time that has
passed. -/
structure HealthClock where
  fresh : ℚ
  opened : ℚ
  now : ℚ

/-- `get_health` after its `evaluate`, which returned `state`, on what its second GET
reads. -/
def healthSnapshot (cfg : BreakerConfig) (bank rail : String) (stats : GatewayStats)
    (state : GatewayHealthState) (clock : HealthClock) (raw : Option StateDict) : GatewayHealthSnapshot :=
  let read := getState cfg raw clock.fresh
  let openedAt := numOr (read.openedAt.getD (read.updatedAt.getD clock.opened)) clock.opened
  let cooldown := numOr (read.cooldownSeconds.getD cfg.cooldownSeconds) cfg.cooldownSeconds
  { bank
    rail
    state
    successRate := stats.successRate
    technicalFailureRate := stats.technicalFailureRate
    businessDeclineRate := stats.businessDeclineRate
    timeoutRate := stats.timeoutRate
    sampleSize := stats.sampleSize
    windowMinutes := numOr stats.windowMinutes 15
    recommendedAction :=
      match state with
      | .open => "DEFER"
      | .halfOpen => "PROBE"
      | .closed => "RETRY_NOW"
    retryAfterSeconds :=
      if state = .open then max 0 (Json.truncate (cooldown - (clock.now - openedAt))) else 0
    confidence := confidence cfg stats.sampleSize }

/-- `get_health`, undisturbed: the value it leaves under the key, and the snapshot it
returns. -/
def getHealth (cfg : BreakerConfig) (bank rail : String) (stats : GatewayStats) (evaluated : EvaluateClock)
    (clock : HealthClock) (raw : Option StateDict) :
    Except String (Option StateDict × GatewayHealthSnapshot) := do
  let (left, state) ← evaluate cfg stats evaluated raw
  return (left, healthSnapshot cfg bank rail stats state clock left)

end CircuitBreaker

end RevenueGuard
