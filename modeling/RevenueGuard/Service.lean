import RevenueGuard.DowntimeMonitor
import RevenueGuard.System

/-!
The service with its gateway monitor: the steps of `System`, the calls of
`get_unified_health` that the gateway endpoints and the workers make, and the passing
of time.  The GET and the SET of an evaluation are single steps, between which
every other party may move.

What `get_stats` counts is a choice of the environment, since outcomes may be
recorded between its commands; so is what the processor reports.
-/

namespace RevenueGuard

open Library CircuitBreaker

/-- Who asks the monitor: a request of `gateway_health` or `simulate_outage`, or a
worker inside `enrich_with_health`. -/
inductive Caller where
  | request (i : ℕ)
  | worker (w : ℕ)
  deriving DecidableEq

/-- Where a call of `get_unified_health` is. -/
inductive MonitorPhase where
  | idle
  | evaluating (bank rail : String) (stats : GatewayStats)
      (call : ReadModifyWrite.Phase StateDict GatewayStats GatewayHealthState)
  | answered (result : Except String GatewayHealthSnapshot)

def MonitorPhase.evaluates : MonitorPhase → Bool
  | evaluating _ _ _ _ => true
  | _ => false

structure Service where
  system : System := {}
  /-- The breakers of all rails, under their keys. -/
  breakers : String → Option StateDict := fun _ => none
  monitors : Caller → MonitorPhase := fun _ => .idle
  /-- The latest reading of the clock. -/
  clock : ℚ

def Service.setMonitor (s : Service) (caller : Caller) (phase : MonitorPhase) : Service :=
  { s with monitors := Function.update s.monitors caller phase }

/-- One action of an evaluation on a rail. -/
def Service.act (s : Service) (caller : Caller) (now : ℚ) (bank rail : String) (stats : GatewayStats)
    (call : ReadModifyWrite.Phase StateDict GatewayStats GatewayHealthState)
    (action : ReadModifyWrite.Action GatewayStats) : Option Service :=
  (ReadModifyWrite.act (evaluateCall {}) now (s.breakers (key bank rail)) call action).map
    fun (stored, call) =>
      { s with
        breakers := Function.update s.breakers (key bank rail) stored
        clock := now }.setMonitor caller (.evaluating bank rail stats call)

/-- The start of a call: what `get_stats` has counted, and the GET of the evaluation. -/
def Service.ask (s : Service) (caller : Caller) (now : ℚ) (bank rail : String) (counts : String → ℕ) :
    Option Service :=
  let stats := Aggregator.stats 15 counts
  s.act caller now bank rail stats .idle (.get stats)

inductive MonitorEvent where
  | act (action : ReadModifyWrite.Action GatewayStats)
  /-- The second GET of `get_health`, and `fetch_downtimes`. -/
  | finish (clock : HealthClock) (downtimes : Except String (List Json))
  /-- Redis fails, or the call dies. -/
  | fail (exc : String)

inductive ServiceEvent where
  | system (e : Event)
  | askRequest (i : ℕ) (now : ℚ) (bank rail : String) (counts : String → ℕ)
  | askWorker (w : ℕ) (now : ℚ) (counts : String → ℕ)
  | monitor (caller : Caller) (now : ℚ) (e : MonitorEvent)
  | advance (now : ℚ)

/-- One step of a call that has begun. -/
def Service.stepMonitor (s : Service) (caller : Caller) (now : ℚ) (e : MonitorEvent) : Option Service :=
  match s.monitors caller, e with
  | .evaluating bank rail stats call, .act action => s.act caller now bank rail stats call action
  | .evaluating bank rail stats (.returned _ state), .finish clock downtimes =>
    let internal := CircuitBreaker.healthSnapshot {} bank rail stats state clock (s.breakers (key bank rail))
    some ({ s with clock := now }.setMonitor caller
      (.answered (.ok (DowntimeMonitor.unifiedHealth internal bank rail downtimes))))
  | .evaluating _ _ _ _, .fail exc => some ({ s with clock := now }.setMonitor caller (.answered (.error exc)))
  | _, _ => none

/-- One step of the system.  A worker decides with the answer of its own call, and a call
ends with the run that made it. -/
def Service.stepSystem (d : Deployment) (s : Service) (e : Event) : Option Service :=
  match e with
  | .worker w (.decide decision clock) =>
    match s.monitors (.worker w) with
    | .answered result =>
      (step d s.system (.worker w (.decide { decision with unifiedHealth := result } clock))).map
        fun system => { s with system }.setMonitor (.worker w) .idle
    | _ => none
  | .worker w .raise =>
    (step d s.system e).map fun system => { s with system }.setMonitor (.worker w) .idle
  | .worker w .crash =>
    (step d s.system e).map fun system => { s with system }.setMonitor (.worker w) .idle
  | _ => (step d s.system e).map fun system => { s with system }

/-- A worker asks about the bank and the rail of the case whose graph it runs. -/
def Service.askWorker (s : Service) (w : ℕ) (now : ℚ) (counts : String → ℕ) : Option Service :=
  match s.system.workers w, s.monitors (.worker w) with
  | .gated rows, .idle =>
    match buildState rows.case rows.approval with
    | .ok state => s.ask (.worker w) now (bankOf state.caseData) (railOf state.caseData) counts
    | .error _ => none
  | _, _ => none

/-- One step of the service. -/
def serviceStep (d : Deployment) (s : Service) : ServiceEvent → Option Service
  | .system e => s.stepSystem d e
  | .askRequest i now bank rail counts =>
    if s.clock ≤ now ∧ ¬(s.monitors (.request i)).evaluates then s.ask (.request i) now bank rail counts
    else none
  | .askWorker w now counts => if s.clock ≤ now then s.askWorker w now counts else none
  | .monitor caller now e => if s.clock ≤ now then s.stepMonitor caller now e else none
  | .advance now => if s.clock ≤ now then some { s with clock := now } else none

end RevenueGuard
