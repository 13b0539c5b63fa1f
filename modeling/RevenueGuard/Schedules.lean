import RevenueGuard.System

/-!
Schedules of the service: the step that every party takes next, which steps go by plan, and when
nothing is left to do.

`requestWeight` and `workerWeight` say how many steps a party can still cause, its own and those
of the workers that take what it pushes.
-/

namespace RevenueGuard

/-! ## Next steps -/

/-- What the next step of a party draws from outside. -/
structure Draws where
  caseHex : String
  customerHex : String
  now : ℤ
  outcome : PushOutcome
  pick : ℕ
  decision : DecisionInputs
  clock : PolicyClock
  finish : FinishInputs

/-- The step that a running request takes next. -/
def RequestPhase.next (draws : Draws) : RequestPhase → Option RequestEvent
  | .idle | .answered | .failed _ => none
  | .webhookMissed _ _ => some (.addRows draws.caseHex draws.customerHex draws.now)
  | .webhookAdded _ _ | .batchAdded _ | .deciding _ _ => some (.commit draws.now)
  | .enqueueing _ _ => some (.push draws.outcome)

/-- The step that a worker takes next. -/
def WorkerPhase.next (draws : Draws) : WorkerPhase → WorkerEvent
  | .idle => .pop
  | .popped _ => .load
  | .loaded _ => .gate draws.pick
  | .gated _ => .decide draws.decision draws.clock
  | .decided _ _ _ _ => .finish draws.finish
  | .finished _ _ => .persist draws.now
  | .failed _ => .recordFailure draws.now

/-- The row that a worker has to find free for its next step. -/
def WorkerPhase.waitsFor : WorkerPhase → Option String
  | .loaded case => some case.caseId
  | .failed caseId => some caseId
  | _ => none

/-! ## Regular steps -/

/-- The steps of a request that has started, while Redis answers. -/
def RequestEvent.regular : RequestEvent → Prop
  | .addRows _ _ _ | .commit _ => True
  | .push outcome => outcome ≠ .failedBefore
  | _ => False

/-- The steps of a worker that neither dies nor loses a reply of Redis.  Only the workers of the pool
take new cases. -/
def WorkerEvent.regular (pool : Set ℕ) (w : ℕ) : WorkerEvent → Prop
  | .pop => w ∈ pool
  | .load | .gate _ | .decide _ _ | .finish _ | .persist _ | .recordFailure _ => True
  | .popLost | .raise | .crash => False

/-- A step by plan, with which nothing new comes in. -/
def Event.regular (pool : Set ℕ) : Event → Prop
  | .request _ e => e.regular
  | .worker w e => e.regular pool w

/-- Nothing is left to do. -/
structure Settled (s : System) : Prop where
  queue : s.queue = []
  requests : ∀ i, (s.requests i).running = false
  workers : ∀ w, s.workers w = .idle
  rowLocks : s.rowLocks = []

/-! ## Weights -/

/-- Every attempt of a push is a step, and what it pushes is worth seven. -/
def pushWeight (caseIds : List String) (attempt : ℕ) : ℕ := 8 * (enqueueAttempts * caseIds.length - attempt)

def requestWeight : RequestPhase → ℕ
  | .idle | .answered | .failed _ => 0
  | .webhookMissed _ _ => 26
  | .webhookAdded _ case => 1 + pushWeight (case.map (·.caseId)).toList 0
  | .batchAdded cases => 1 + pushWeight (cases.map (·.caseId)) 0
  | .deciding _ _ => 25
  | .enqueueing caseIds attempt => pushWeight caseIds attempt

def workerWeight : WorkerPhase → ℕ
  | .idle => 0
  | .failed _ => 1
  | .finished _ _ => 2
  | .decided _ _ _ _ => 3
  | .gated _ => 4
  | .loaded _ => 5
  | .popped _ => 6

/-- What comes in with a step, in steps that it can cause, itself among them. -/
def arrival : Event → ℕ
  | .request _ (.receive _) => 27
  | .request _ (.decide _ _ _) => 26
  | .request _ (.simulate _ events) => 2 + 24 * events.length
  | _ => 0

end RevenueGuard
