import RevenueGuard.Events

/-!
The events between the processes: `publish_event`, the `_emit` of the API, and the relays of all API
processes on one Redis channel.

Redis hands a message to those who are subscribed when it executes the PUBLISH, each of them in the order
of the publications, and keeps nothing for the others.  The answer of a PUBLISH is a step of its own: a
call may be refused though its message is published, before or after that.  Which event a message
holds decides nothing here, so an event is the call that emits it.
-/

namespace RevenueGuard

variable {α : Type}

/-- Who calls `publish_event`: an API process, in `_emit`, or a worker, in `process_case`. -/
inductive Emitter where
  | api (p : ℕ) | worker
  deriving DecidableEq

/-- A call of `publish_event`. -/
structure Emission where
  emitter : Emitter
  number : ℕ
  deriving DecidableEq

/-- How far a call has come: Redis has published its message, and it has returned. -/
structure PublishCall where
  begun : Bool := false
  published : Bool := false
  returned : Option Bool := none

/-- One API process. -/
structure ApiProcess (α : Type) where
  manager : ConnectionManager α := {}
  /-- `app.state.redis` is a client, and there is a relay. -/
  redis : Bool := false
  subscribed : Bool := false
  /-- The messages for the relay that `pubsub.listen()` has not handed over. -/
  waiting : List Emission := []
  /-- The calls of `broadcast` with their events. -/
  carried : List (ℕ × Emission) := []
  /-- No variable of the program: what the relay has been handed, in order. -/
  heard : List Emission := []

structure EventBus (α : Type) where
  processes : ℕ → ApiProcess α := fun _ => {}
  calls : Emission → PublishCall := fun _ => {}
  /-- No variable of the program: what has been published, in order. -/
  channel : List Emission := []

inductive BusEvent (α : Type) where
  /-- `lifespan`: the ping at the start has been answered. -/
  | ping (p : ℕ)
  /-- Redis executes the SUBSCRIBE of a relay. -/
  | subscribe (p : ℕ)
  /-- The connection of a subscription breaks, and some of the waiting messages are lost with it.  The
  client of Redis subscribes again, or raises, which is another event. -/
  | lose (p kept : ℕ)
  | emit (m : Emission)
  /-- Redis executes the PUBLISH of a call. -/
  | execute (m : Emission)
  /-- `publish_event` returns `True`. -/
  | confirm (m : Emission)
  /-- `publish_event` returns `False`, and `_emit` calls `broadcast`. -/
  | refuse (m : Emission) (b : ℕ)
  /-- A relay is handed its next message, and calls `broadcast`. -/
  | hear (p b : ℕ)
  /-- Anything else in one process. -/
  | inside (p : ℕ) (e : ConnectionEvent α)

def RelayPhase.hasLeft : RelayPhase → Bool
  | .left _ => true
  | _ => false

/-- After a step of its connections.  A relay that leaves its loop closes its subscription. -/
def ApiProcess.moved (process : ApiProcess α) (manager : ConnectionManager α) : ApiProcess α :=
  if manager.relay.hasLeft then { process with manager, subscribed := false, waiting := [] }
  else { process with manager }

def EventBus.update (s : EventBus α) (p : ℕ) (process : ApiProcess α) : EventBus α :=
  { s with processes := Function.update s.processes p process }

def EventBus.goOn (s : EventBus α) (m : Emission) (call : PublishCall) : EventBus α :=
  { s with calls := Function.update s.calls m call }

/-- A message reaches a process. -/
def ApiProcess.receive (m : Emission) (process : ApiProcess α) : ApiProcess α :=
  if process.subscribed then { process with waiting := process.waiting ++ [m] } else process

/-- The client that a call publishes with.  That of a worker has answered at its start. -/
def EventBus.client (s : EventBus α) : Emitter → Bool
  | .api p => (s.processes p).redis
  | .worker => true

/-- The events that begin no broadcast and are not those of another step. -/
def ConnectionEvent.within (process : ApiProcess α) : ConnectionEvent α → Bool
  | .emit _ => false
  | .hear _ .event => false
  | .hear _ _ => process.redis
  | _ => true

variable [DecidableEq α]

/-- One step of the processes, the workers and Redis. -/
def busStep (s : EventBus α) : BusEvent α → Option (EventBus α)
  | .ping p => some (s.update p { s.processes p with redis := true })
  | .subscribe p =>
    let process := s.processes p
    if process.redis && !process.subscribed && !process.manager.relay.hasLeft then
      some (s.update p { process with subscribed := true })
    else none
  | .lose p kept =>
    let process := s.processes p
    some (s.update p { process with subscribed := false, waiting := process.waiting.take kept })
  | .emit m => if (s.calls m).begun then none else some (s.goOn m { begun := true })
  | .execute m =>
    let call := s.calls m
    if call.begun && !call.published && s.client m.emitter then
      some {
        processes p := (s.processes p).receive m
        calls := Function.update s.calls m { call with published := true }
        channel := s.channel ++ [m] }
    else none
  | .confirm m =>
    let call := s.calls m
    if call.published && call.returned.isNone then some (s.goOn m { call with returned := some true }) else none
  | .refuse m b =>
    let call := s.calls m
    if call.begun && call.returned.isNone then
      let s := s.goOn m { call with returned := some false }
      match m.emitter with
      | .worker => some s
      | .api p => do
        let process := s.processes p
        let manager ← connectionStep process.manager (.emit b)
        return s.update p ({ process with carried := process.carried ++ [(b, m)] }.moved manager)
    else none
  | .hear p b => do
    let process := s.processes p
    match process.waiting with
    | [] => none
    | m :: waiting =>
      let manager ← connectionStep process.manager (.hear b .event)
      return s.update p ({ process with
        waiting
        carried := process.carried ++ [(b, m)]
        heard := process.heard ++ [m] }.moved manager)
  | .inside p e => do
    let process := s.processes p
    if e.within process then
      let manager ← connectionStep process.manager e
      return s.update p (process.moved manager)
    else none

/-- What a step is in one process. -/
def localEvent (p : ℕ) : BusEvent α → Option (ConnectionEvent α)
  | .refuse m b => if m.emitter = .api p then some (.emit b) else none
  | .hear q b => if q = p then some (.hear b .event) else none
  | .inside q e => if q = p then some e else none
  | _ => none

def localEvents (p : ℕ) (es : List (BusEvent α)) : List (ConnectionEvent α) := es.filterMap (localEvent p)

end RevenueGuard
