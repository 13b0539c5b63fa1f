import Mathlib.Logic.Function.Basic
import RevenueGuard.Library.SlotSet

/-!
`api/events.py`: the WebSocket connections of one process, the broadcasts over them and
the relay of the Redis channel.  A coroutine gives way only where it awaits, so a step is
what runs between two awaits; in a broadcast that is from the end of one send to the
beginning of the next.  What a broadcast sends is the same for all, and left out.
-/

namespace RevenueGuard

open Library SlotSet

variable {α : Type}

/-- Where a call of `broadcast` is.  `attempts` is no variable of the program: it records
the sends that have ended, and whether they succeeded. -/
inductive BroadcastPhase (α : Type) where
  | idle
  | sending (cursor : Cursor) (websocket : α) (disconnected : List α) (attempts : List (α × Bool))
  | returned (attempts : List (α × Bool))
  | raised (attempts : List (α × Bool))

/-- Where `relay_redis_events` is: at its next message, in a broadcast, or outside of its
loop, where a broadcast may have driven it. -/
inductive RelayPhase where
  | listening
  | relaying (b : ℕ)
  | left (cause : Option ℕ)
  deriving DecidableEq

/-- The state of one process.  Every number stands for one call of `broadcast`. -/
structure ConnectionManager (α : Type) where
  /-- A new set has eight slots. -/
  connections : Table α := List.replicate 8 none
  broadcasts : ℕ → BroadcastPhase α := fun _ => .idle
  relay : RelayPhase := .listening

/-- What `pubsub.listen()` hands to the loop: a message with an event, one that the loop
passes over, or an exception. -/
inductive Heard where
  | event | other | failure

inductive ConnectionEvent (α : Type) where
  /-- `connect`, past its `accept`. -/
  | connect (websocket : α) (placement : Placement α)
  | disconnect (websocket : α)
  /-- `_emit` broadcasts by itself where it cannot publish. -/
  | emit (b : ℕ)
  | hear (b : ℕ) (heard : Heard)
  /-- A send of a broadcast ends. -/
  | sent (b : ℕ) (ok : Bool)

/-- A relay that awaits this broadcast goes on to another phase. -/
def RelayPhase.after (relay : RelayPhase) (b : ℕ) (phase : RelayPhase) : RelayPhase :=
  if relay = .relaying b then phase else relay

variable [DecidableEq α]

/-- `disconnect`, for each of these. -/
def disconnectAll (disconnected : List α) (connections : Table α) : Table α :=
  disconnected.foldl (fun t websocket => discard websocket t) connections

/-- `broadcast` from one of its `next` calls to the following send, or to its end. -/
def ConnectionManager.resume (s : ConnectionManager α) (b : ℕ) (cursor : Cursor) (disconnected : List α)
    (attempts : List (α × Bool)) : ConnectionManager α :=
  match next cursor s.connections with
  | .raises =>
    { s with
      broadcasts := Function.update s.broadcasts b (.raised attempts)
      relay := s.relay.after b (.left (some b)) }
  | .stops =>
    { connections := disconnectAll disconnected s.connections
      broadcasts := Function.update s.broadcasts b (.returned attempts)
      relay := s.relay.after b .listening }
  | .yields websocket cursor =>
    { s with broadcasts := Function.update s.broadcasts b (.sending cursor websocket disconnected attempts) }

/-- A call of `broadcast`, up to its first send. -/
def ConnectionManager.start (s : ConnectionManager α) (b : ℕ) : ConnectionManager α :=
  s.resume b (iter s.connections) [] []

/-- One step of the process. -/
def connectionStep (s : ConnectionManager α) : ConnectionEvent α → Option (ConnectionManager α)
  | .connect websocket placement =>
    (add websocket placement s.connections).map fun connections => { s with connections }
  | .disconnect websocket => some { s with connections := discard websocket s.connections }
  | .emit b =>
    match s.broadcasts b with
    | .idle => some (s.start b)
    | _ => none
  | .hear b heard =>
    match s.relay, heard, s.broadcasts b with
    | .listening, .event, .idle => some ({ s with relay := .relaying b }.start b)
    | .listening, .other, _ => some s
    | .listening, .failure, _ => some { s with relay := .left none }
    | _, _, _ => none
  | .sent b ok =>
    match s.broadcasts b with
    | .sending cursor websocket disconnected attempts =>
      some (s.resume b cursor (if ok then disconnected else disconnected ++ [websocket])
        (attempts ++ [(websocket, ok)]))
    | _ => none

end RevenueGuard
