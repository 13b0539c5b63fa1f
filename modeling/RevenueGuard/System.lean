import Mathlib.Logic.Function.Basic
import RevenueGuard.Intake
import RevenueGuard.Approvals

/-!
The service as a transition system: any number of API requests and of worker
processes over one database and one Redis list.  A step is one access to the
database, one access to Redis, or one part of a graph run; between two steps of
a party every other party may move.  An event carries the choices of the
environment, the readings of the clocks among them, and is not enabled where
the party is elsewhere in its code.
-/

namespace RevenueGuard

open Library

/-! ## The state -/

/-- Where an API request is.  Every number stands for one request, and it never
serves a second one. -/
inductive RequestPhase where
  | idle
  /-- The webhook handler looked for the event and did not find it. -/
  | webhookMissed (eventId : String) (event : Dict)
  | webhookAdded (record : WebhookEvent) (case : Option RecoveryCase)
  | batchAdded (cases : List RecoveryCase)
  /-- An approval endpoint past its checks. -/
  | deciding (verdict : Verdict) (loaded : RecoveryApproval)
  /-- The transaction is committed; these cases are still to be pushed, the first
  of them after so many failed attempts. -/
  | enqueueing (caseIds : List String) (attempt : ℕ)
  | answered
  | failed (exc : String)

/-- Whether a request has started and neither answered nor failed. -/
def RequestPhase.running : RequestPhase → Bool
  | idle | answered | failed _ => false
  | _ => true

/-- What `process_case` has read when its graph run starts.  `loadedAt` is no
variable of the program: it numbers the step that read the approval. -/
structure LoadedRows where
  case : RecoveryCase
  approval : Option RecoveryApproval
  loadedAt : ℕ

/-- Where a worker is.  From `gated` to the commit its transaction holds the row
lock that the update of the case's status took. -/
inductive WorkerPhase where
  | idle
  | popped (caseId : String)
  | loaded (case : RecoveryCase)
  | gated (rows : LoadedRows)
  | decided (rows : LoadedRows) (decision : DecisionInputs) (clock : PolicyClock) (state : RecoveryState)
  | finished (rows : LoadedRows) (result : RecoveryState)
  | failed (caseId : String)

/-- A graph run up to its last node, with everything it depended on. -/
structure GraphRun where
  rows : LoadedRows
  decision : DecisionInputs
  clock : PolicyClock
  finish : FinishInputs

/-- The payment-link calls of a recorded run, and its result. -/
def GraphRun.outcome (d : Deployment) (x : GraphRun) : List PaymentLinkCall × Except String RecoveryState :=
  graphRun d x.decision x.clock x.finish x.rows.case x.rows.approval

/-- `steps` and `runs` are no part of the service: they record how many steps it
has taken, and the graph runs among them in their order. -/
structure System where
  db : Database := {}
  /-- `recovery_queue`, from its left end. -/
  queue : List String := []
  /-- The cases whose row is locked by an open transaction. -/
  rowLocks : List String := []
  requests : ℕ → RequestPhase := fun _ => .idle
  workers : ℕ → WorkerPhase := fun _ => .idle
  steps : ℕ := 0
  runs : List GraphRun := []

def System.setRequest (s : System) (i : ℕ) (phase : RequestPhase) : System :=
  { s with requests := Function.update s.requests i phase }

def System.setWorker (s : System) (w : ℕ) (phase : WorkerPhase) : System :=
  { s with workers := Function.update s.workers w phase }

/-! ## Requests -/

/-- What becomes of one `lpush`: an error can come before or after its effect. -/
inductive PushOutcome where
  | delivered | failedBefore | failedAfter
  deriving DecidableEq, Repr

inductive RequestEvent where
  | receive (delivery : Delivery)
  | addRows (caseHex customerHex : String) (now : ℤ)
  | simulate (now : ℤ) (events : List (String × SimulatedEvent))
  | decide (verdict : Verdict) (now : ℤ) (approvalId : String)
  | commit (now : ℤ)
  | push (outcome : PushOutcome)
  /-- There is no Redis client. -/
  | noClient
  /-- The handler dies or raises on its own account. -/
  | abort (exc : String)

/-- `attempts` of `enqueue_recovery_case`. -/
def enqueueAttempts : ℕ := 3

/-- What is left to do when these cases are to be pushed. -/
def enqueueing : List String → RequestPhase
  | [] => .answered
  | caseIds => .enqueueing caseIds 0

/-- The phase after the duplicate lookup. -/
def afterLookup : Except String (WebhookResponse ⊕ String × Dict) → RequestPhase
  | .error exc => .failed exc
  | .ok (.inl _) => .answered
  | .ok (.inr (eventId, event)) => .webhookMissed eventId event

/-- The phase after the rows of the webhook are in the session. -/
def afterRows : Except String (WebhookEvent × Option RecoveryCase) → RequestPhase
  | .error exc => .failed exc
  | .ok (record, case) => .webhookAdded record case

/-- The phase after the rows of the batch are in the session. -/
def afterBatch : Except String (List RecoveryCase) → RequestPhase
  | .error exc => .failed exc
  | .ok cases => .batchAdded cases

/-- The phase of an approval endpoint after its checks. -/
def afterAccept (verdict : Verdict) : Except String RecoveryApproval → RequestPhase
  | .error exc => .failed exc
  | .ok loaded => .deciding verdict loaded

/-- A commit, or the exception that rolls it back. -/
def System.commitRequest (s : System) (i : ℕ) (caseIds : List String) : Except String Database → System
  | .error exc => s.setRequest i (.failed exc)
  | .ok db => { s with db }.setRequest i (enqueueing caseIds)

/-- The queue after one `lpush`. -/
def pushed (caseId : String) (queue : List String) : PushOutcome → List String
  | .failedBefore => queue
  | _ => caseId :: queue

/-- What is left to do after one `lpush` of `enqueue_recovery_case`. -/
def afterPush (caseId : String) (rest : List String) (attempt : ℕ) (outcome : PushOutcome) : RequestPhase :=
  if outcome = .delivered ∨ attempt + 1 = enqueueAttempts then enqueueing rest
  else .enqueueing (caseId :: rest) (attempt + 1)

/-- The loop of `enqueue_recovery_case` from one attempt on, with so many left: the
pushes it makes, each with what becomes of it, and the flag it returns. -/
def enqueueLoop (outcome : ℕ → PushOutcome) (attempts : ℕ) : ℕ → ℕ → List PushOutcome × Bool
  | _, 0 => ([], false)
  | attempt, left + 1 =>
    if outcome attempt = .delivered then ([outcome attempt], true)
    else if attempt + 1 = attempts then ([outcome attempt], false)
    else
      let (pushes, returned) := enqueueLoop outcome attempts (attempt + 1) left
      (outcome attempt :: pushes, returned)

/-- `enqueue_recovery_case`, where a client is what becomes of each attempt. -/
def enqueueRecoveryCase (redisClient : Option (ℕ → PushOutcome)) (attempts : ℕ := enqueueAttempts) :
    List PushOutcome × Bool :=
  match redisClient with
  | none => ([], false)
  | some outcome => enqueueLoop outcome attempts 0 attempts

/-- One step of a request. -/
def stepRequest (d : Deployment) (s : System) (i : ℕ) (e : RequestEvent) : Option System :=
  match s.requests i, e with
  | .idle, .receive delivery =>
    some (s.setRequest i
      (afterLookup (lookupWebhook d.database d.settings.razorpayWebhookSecret delivery s.db)))
  | .idle, .simulate now events => some (s.setRequest i (afterBatch (batchRows i now events)))
  | .idle, .decide verdict now approvalId =>
    some (s.setRequest i (afterAccept verdict (acceptVerdict verdict now approvalId s.db)))
  | .webhookMissed eventId event, .addRows caseHex customerHex now =>
    some (s.setRequest i (afterRows (webhookRows d.database i caseHex customerHex now eventId event)))
  | .webhookAdded record case, .commit _ =>
    some (s.commitRequest i (case.map (·.caseId)).toList (commitWebhook record case s.db))
  | .batchAdded cases, .commit _ =>
    some (s.commitRequest i (cases.map (·.caseId)) (commitBatch cases s.db))
  | .deciding verdict loaded, .commit now =>
    some (s.commitRequest i (if verdict = .reject then [] else [loaded.caseId])
      (.ok (commitVerdict verdict now loaded s.db)))
  | .enqueueing (caseId :: rest) attempt, .push outcome =>
    some ({ s with queue := pushed caseId s.queue outcome }.setRequest i
      (afterPush caseId rest attempt outcome))
  | .enqueueing _ _, .noClient => some (s.setRequest i .answered)
  | phase, .abort exc => if phase.running then some (s.setRequest i (.failed exc)) else none
  | _, _ => none

/-! ## Workers -/

inductive WorkerEvent where
  | pop
  /-- `BRPOP` takes an element and its reply is lost to a time-out. -/
  | popLost
  | load
  | gate (pick : ℕ)
  | decide (decision : DecisionInputs) (clock : PolicyClock)
  | finish (inputs : FinishInputs)
  | persist (now : ℤ)
  /-- Anything else that raises inside the `try` of `process_case`. -/
  | raise
  | recordFailure (now : ℤ)
  | crash

/-- The case a worker works on. -/
def WorkerPhase.caseId : WorkerPhase → Option String
  | idle => none
  | popped caseId => some caseId
  | loaded case => some case.caseId
  | gated rows => some rows.case.caseId
  | decided rows _ _ _ => some rows.case.caseId
  | finished rows _ => some rows.case.caseId
  | failed caseId => some caseId

/-- The case whose row a worker has locked. -/
def WorkerPhase.locked : WorkerPhase → Option String
  | gated rows => some rows.case.caseId
  | decided rows _ _ _ => some rows.case.caseId
  | finished rows _ => some rows.case.caseId
  | _ => none

/-- A worker goes on without a transaction: a lock it held is released. -/
def System.release (s : System) (w : ℕ) (phase : WorkerPhase) : System :=
  { s with
    rowLocks := match (s.workers w).locked with
      | none => s.rowLocks
      | some caseId => s.rowLocks.erase caseId }.setWorker w phase

/-- The decision part of a graph run. -/
def System.decideRun (d : Deployment) (s : System) (w : ℕ) (rows : LoadedRows)
    (decision : DecisionInputs) (clock : PolicyClock) : System :=
  match buildState rows.case rows.approval >>= decideGraph d decision clock with
  | .error _ => s.release w (.failed rows.case.caseId)
  | .ok state => s.setWorker w (.decided rows decision clock state)

/-- The part of a graph run that acts. -/
def System.finishRun (d : Deployment) (s : System) (w : ℕ) (rows : LoadedRows)
    (decision : DecisionInputs) (clock : PolicyClock) (state : RecoveryState) (finish : FinishInputs) :
    System :=
  let graphRun : GraphRun := { rows, decision, clock, finish }
  let s := { s with runs := s.runs ++ [graphRun] }
  match (finishGraph d finish state).2 with
  | .error _ => s.release w (.failed rows.case.caseId)
  | .ok result => s.setWorker w (.finished rows result)

/-- The writes and the commit, or the exception that rolls them back. -/
def System.persistRun (d : Deployment) (s : System) (w : ℕ) (rows : LoadedRows) (result : RecoveryState)
    (now : ℤ) : System :=
  match persistResult d.database now rows.case result s.db with
  | .error _ => s.release w (.failed rows.case.caseId)
  | .ok db => { s with db }.release w .idle

/-- One step of a worker. -/
def stepWorker (d : Deployment) (s : System) (w : ℕ) (e : WorkerEvent) : Option System :=
  match s.workers w, e with
  | .idle, .pop =>
    s.queue.getLast?.map fun caseId =>
      { s with queue := s.queue.dropLast }.setWorker w (.popped caseId)
  | .idle, .popLost => s.queue.getLast?.map fun _ => { s with queue := s.queue.dropLast }
  | .popped caseId, .load =>
    some (s.setWorker w
      (match Keyed.find (·.caseId) caseId s.db.recoveryCases with
        | none => .idle
        | some case => .loaded case))
  | .loaded case, .gate pick =>
    if case.caseId ∈ s.rowLocks then none
    else some ({ s with rowLocks := case.caseId :: s.rowLocks }.setWorker w
      (.gated { case, approval := activeApproval pick s.db case.caseId, loadedAt := s.steps }))
  | .gated rows, .decide decision clock => some (s.decideRun d w rows decision clock)
  | .decided rows decision clock state, .finish inputs =>
    some (s.finishRun d w rows decision clock state inputs)
  | .finished rows result, .persist now => some (s.persistRun d w rows result now)
  | .loaded case, .raise => some (s.release w (.failed case.caseId))
  | .gated rows, .raise => some (s.release w (.failed rows.case.caseId))
  | .decided rows _ _ _, .raise => some (s.release w (.failed rows.case.caseId))
  | .finished rows _, .raise => some (s.release w (.failed rows.case.caseId))
  | .failed caseId, .recordFailure now =>
    if caseId ∈ s.rowLocks then none
    else some ({ s with db := recordFailure now caseId s.db }.setWorker w .idle)
  | phase, .crash => if phase.caseId.isSome then some (s.release w .idle) else none
  | _, _ => none

/-! ## The system -/

inductive Event where
  | request (i : ℕ) (e : RequestEvent)
  | worker (w : ℕ) (e : WorkerEvent)

def System.tick (s : System) : System := { s with steps := s.steps + 1 }

/-- One step of the service. -/
def step (d : Deployment) (s : System) : Event → Option System
  | .request i e => (stepRequest d s i e).map System.tick
  | .worker w e => (stepWorker d s w e).map System.tick

end RevenueGuard
