import RevenueGuard.BroadcastProofs
import RevenueGuard.EventBus

/-!
What becomes of an event on its way to the browsers, whatever the processes and Redis do meanwhile.

1. `events_counted`: a process broadcasts an event at most once, in the order of the publications.  The
   one exception is the process that emits it, which broadcasts it by itself too if its call is refused.
2. `event_delivered`: an event that is published while a process is subscribed is broadcast by its relay
   and sent to every browser that stays connected, once, if the subscription and the connections last.
-/

namespace RevenueGuard.EventBusProofs

open Library Library.Runs SlotSet BroadcastProofs

variable {α : Type} {s s' : EventBus α} {es before during : List (BusEvent α)} {e : BusEvent α}
  {p q b : ℕ} {m : Emission} {process : ApiProcess α} {manager : ConnectionManager α}

/-! ## Processes -/

@[simp] theorem update_processes (s : EventBus α) (p : ℕ) (process : ApiProcess α) :
    (s.update p process).processes = Function.update s.processes p process := rfl

@[simp] theorem moved_manager (process : ApiProcess α) (manager : ConnectionManager α) :
    (process.moved manager).manager = manager := by
  unfold ApiProcess.moved
  split <;> rfl

/-- An update of one process that leaves its connections as they are. -/
theorem unmoved_manager (same : process.manager = (s.processes q).manager) (p : ℕ) :
    ((s.update q process).processes p).manager = (s.processes p).manager := by
  rw [update_processes, Function.update_apply]
  split
  · rename_i mine
    rw [mine, same]
  · rfl

/-- A relay that leaves its loop loses what waits for it. -/
theorem moved_waiting (process : ApiProcess α) (manager : ConnectionManager α) :
    (process.moved manager).waiting = if manager.relay.hasLeft then [] else process.waiting := by
  unfold ApiProcess.moved
  split <;> rfl

@[simp] theorem moved_heard (process : ApiProcess α) (manager : ConnectionManager α) :
    (process.moved manager).heard = process.heard := by
  unfold ApiProcess.moved
  split <;> rfl

@[simp] theorem moved_carried (process : ApiProcess α) (manager : ConnectionManager α) :
    (process.moved manager).carried = process.carried := by
  unfold ApiProcess.moved
  split <;> rfl

@[simp] theorem receive_manager (m : Emission) (process : ApiProcess α) :
    (process.receive m).manager = process.manager := by
  unfold ApiProcess.receive
  split <;> rfl

@[simp] theorem receive_heard (m : Emission) (process : ApiProcess α) :
    (process.receive m).heard = process.heard := by
  unfold ApiProcess.receive
  split <;> rfl

@[simp] theorem receive_carried (m : Emission) (process : ApiProcess α) :
    (process.receive m).carried = process.carried := by
  unfold ApiProcess.receive
  split <;> rfl

/-! ## Calls -/

variable {calls : Emission → PublishCall} {channel : List Emission} {call : PublishCall}

/-- What the calls say of the channel. -/
structure Published (calls : Emission → PublishCall) (channel : List Emission) : Prop where
  once : channel.Nodup
  listed : ∀ m, m ∈ channel ↔ (calls m).published = true
  idle : ∀ m, (calls m).begun = false → calls m = {}
  confirmed : ∀ m, (calls m).returned = some true → (calls m).published = true

/-- A call goes on, and publishes nothing by that. -/
theorem published_goes_on (held : Published calls channel) (same : call.published = (calls m).published)
    (begun : call.begun = true) (confirmed : call.returned = some true → call.published = true) :
    Published (Function.update calls m call) channel := by
  refine ⟨held.once, fun n => ?_, fun n idle => ?_, fun n returned => ?_⟩ <;> by_cases mine : n = m
  · subst mine
    rw [Function.update_self, same]
    exact held.listed n
  · rw [Function.update_of_ne mine]
    exact held.listed n
  · subst mine
    rw [Function.update_self, begun] at idle
    cases idle
  · rw [Function.update_of_ne mine] at idle ⊢
    exact held.idle n idle
  · subst mine
    rw [Function.update_self] at returned ⊢
    exact confirmed returned
  · rw [Function.update_of_ne mine] at returned ⊢
    exact held.confirmed n returned

/-- The message of a call is published. -/
theorem published_executed (held : Published calls channel) (begun : (calls m).begun = true)
    (unpublished : (calls m).published = false) :
    Published (Function.update calls m { calls m with published := true }) (channel ++ [m]) := by
  have new : m ∉ channel := by simp [held.listed, unpublished]
  refine ⟨?_, fun n => ?_, fun n idle => ?_, fun n returned => ?_⟩
  · rw [List.nodup_append_comm]
    exact List.nodup_cons.mpr ⟨new, held.once⟩
  all_goals by_cases mine : n = m
  · simp [mine]
  · rw [Function.update_of_ne mine, ← held.listed]
    simp [mine]
  · subst mine
    rw [Function.update_self, begun] at idle
    cases idle
  · rw [Function.update_of_ne mine] at idle ⊢
    exact held.idle n idle
  · subst mine
    rw [Function.update_self]
  · rw [Function.update_of_ne mine] at returned ⊢
    exact held.confirmed n returned

/-! ## Broadcasts -/

/-- What a relay has been handed, and what waits for it. -/
def handed (process : ApiProcess α) : List Emission := process.heard ++ process.waiting

/-- How many broadcasts of an event have begun in a process. -/
def times (process : ApiProcess α) (m : Emission) : ℕ := (process.carried.map (·.2)).count m

/-- The call of a process was refused, so that it broadcasts its event by itself. -/
def fellBack (calls : Emission → PublishCall) (p : ℕ) (m : Emission) : Bool :=
  m.emitter = .api p && (calls m).returned = some false

theorem handed_moved (process : ApiProcess α) (manager : ConnectionManager α) :
    (handed (process.moved manager)).Sublist (handed process) := by
  rw [handed, handed, moved_heard, moved_waiting]
  split
  · exact (List.nil_sublist _).append_left _
  · exact List.Sublist.refl _

theorem handed_receive (m : Emission) (process : ApiProcess α) :
    (handed (process.receive m)).Sublist (handed process ++ [m]) := by
  unfold ApiProcess.receive handed
  split
  · rw [List.append_assoc]
  · exact List.sublist_append_left _ _

theorem waiting_moved (waits : m ∈ process.waiting) (manager : ConnectionManager α) :
    m ∈ (process.moved manager).waiting ∨ (process.moved manager).manager.relay.hasLeft = true := by
  rw [moved_waiting, moved_manager]
  split
  · rename_i left
    exact .inr left
  · exact .inl waits

/-- What is so for every process, and for the new one, is so after an update. -/
theorem update_all {P : ℕ → ApiProcess α → Prop} {processes : ℕ → ApiProcess α} (held : ∀ q, P q (processes q))
    (new : P p process) (q : ℕ) : P q (Function.update processes p process q) := by
  by_cases mine : q = p
  · subst mine
    rw [Function.update_self]
    exact new
  · rw [Function.update_of_ne mine]
    exact held q

/-- The broadcasts of an event in a process are those of its relay, and one where the call of the process
was refused. -/
def Accounted (calls : Emission → PublishCall) (q : ℕ) (process : ApiProcess α) : Prop :=
  ∀ n, times process n = process.heard.count n + (fellBack calls q n).toNat

theorem accounted_moved (held : Accounted calls q process) (manager : ConnectionManager α) :
    Accounted calls q (process.moved manager) := by
  intro n
  rw [times, moved_carried, moved_heard]
  exact held n

theorem accounted_handed (held : Accounted calls q process) (b : ℕ) (m : Emission) (waiting : List Emission) :
    Accounted calls q { process with
      waiting
      carried := process.carried ++ [(b, m)]
      heard := process.heard ++ [m] } := by
  intro n
  have before := held n
  unfold times at before ⊢
  rw [List.map_append, List.count_append, List.count_append, before]
  exact Nat.add_right_comm ..

/-- A call that goes on without being refused, or is none of this process. -/
theorem accounted_goes_on (held : Accounted calls q process)
    (same : m.emitter ≠ .api q ∨ (call.returned = some false ↔ (calls m).returned = some false)) :
    Accounted (Function.update calls m call) q process := by
  intro n
  have alike : fellBack (Function.update calls m call) q n = fellBack calls q n := by
    by_cases mine : n = m
    · subst mine
      rw [fellBack, fellBack, Function.update_self]
      rcases same with other | same
      · rw [decide_eq_false other]
        rfl
      · rw [decide_eq_decide.mpr same]
    · rw [fellBack, fellBack, Function.update_of_ne mine]
  rw [alike]
  exact held n

/-- A call of a process is refused, and its broadcast begins. -/
theorem accounted_falls_back (held : Accounted calls p process) (pending : (calls m).returned = none)
    (api : m.emitter = .api p) :
    Accounted (Function.update calls m { calls m with returned := some false }) p
      { process with carried := process.carried ++ [(b, m)] } := by
  intro n
  have before := held n
  unfold times at before ⊢
  rw [List.map_append, List.count_append, before]
  by_cases mine : n = m
  · subst mine
    simp [fellBack, api, pending]
  · rw [fellBack, fellBack, Function.update_of_ne mine]
    simp [Ne.symm mine]

/-! ## Steps -/

variable [DecidableEq α]

inductive BusStep (s : EventBus α) : BusEvent α → EventBus α → Prop where
  | ping (p : ℕ) : BusStep s (.ping p) (s.update p { s.processes p with redis := true })
  | subscribe {p : ℕ} : (s.processes p).manager.relay.hasLeft = false →
      BusStep s (.subscribe p) (s.update p { s.processes p with subscribed := true })
  | lose (p kept : ℕ) : BusStep s (.lose p kept)
      (s.update p { s.processes p with subscribed := false, waiting := (s.processes p).waiting.take kept })
  | emit {m : Emission} : (s.calls m).begun = false → BusStep s (.emit m) (s.goOn m { begun := true })
  | execute {m : Emission} : (s.calls m).begun = true → (s.calls m).published = false →
      BusStep s (.execute m) {
        processes p := (s.processes p).receive m
        calls := Function.update s.calls m { s.calls m with published := true }
        channel := s.channel ++ [m] }
  | confirm {m : Emission} : (s.calls m).published = true → (s.calls m).returned = none →
      BusStep s (.confirm m) (s.goOn m { s.calls m with returned := some true })
  | refused {m : Emission} (b : ℕ) : (s.calls m).begun = true → (s.calls m).returned = none → m.emitter = .worker →
      BusStep s (.refuse m b) (s.goOn m { s.calls m with returned := some false })
  | fallsBack {m : Emission} {p b : ℕ} {manager : ConnectionManager α} : (s.calls m).begun = true →
      (s.calls m).returned = none → m.emitter = .api p →
      connectionStep (s.processes p).manager (.emit b) = some manager →
      BusStep s (.refuse m b) ((s.goOn m { s.calls m with returned := some false }).update p
        ({ s.processes p with carried := (s.processes p).carried ++ [(b, m)] }.moved manager))
  | hear {p b : ℕ} {m : Emission} {waiting : List Emission} {manager : ConnectionManager α} :
      (s.processes p).waiting = m :: waiting →
      connectionStep (s.processes p).manager (.hear b .event) = some manager →
      BusStep s (.hear p b) (s.update p
        ({ s.processes p with
          waiting
          carried := (s.processes p).carried ++ [(b, m)]
          heard := (s.processes p).heard ++ [m] }.moved manager))
  | inside {p : ℕ} {e : ConnectionEvent α} {manager : ConnectionManager α} : e.within (s.processes p) = true →
      connectionStep (s.processes p).manager e = some manager →
      BusStep s (.inside p e) (s.update p ((s.processes p).moved manager))

theorem bus_step_cases (stepped : busStep s e = some s') : BusStep s e s' := by
  cases e with
  | ping p =>
    cases stepped
    exact .ping p
  | subscribe p =>
    simp only [busStep, Option.ite_none_right_eq_some] at stepped
    obtain ⟨allowed, shape⟩ := stepped
    cases shape
    simp only [Bool.and_eq_true, Bool.not_eq_true'] at allowed
    exact .subscribe allowed.2
  | lose p kept =>
    cases stepped
    exact .lose p kept
  | emit m =>
    simp only [busStep, Option.ite_none_left_eq_some, Bool.not_eq_true] at stepped
    obtain ⟨idle, shape⟩ := stepped
    cases shape
    exact .emit idle
  | execute m =>
    simp only [busStep, Option.ite_none_right_eq_some, Bool.and_eq_true, Bool.not_eq_true'] at stepped
    obtain ⟨⟨⟨begun, unpublished⟩, _⟩, shape⟩ := stepped
    cases shape
    exact .execute begun unpublished
  | confirm m =>
    simp only [busStep, Option.ite_none_right_eq_some, Bool.and_eq_true, Option.isNone_iff_eq_none] at stepped
    obtain ⟨⟨published, pending⟩, shape⟩ := stepped
    cases shape
    exact .confirm published pending
  | refuse m b =>
    simp only [busStep, Option.ite_none_right_eq_some, Bool.and_eq_true, Option.isNone_iff_eq_none] at stepped
    obtain ⟨⟨begun, pending⟩, stepped⟩ := stepped
    split at stepped
    · rename_i worker
      cases stepped
      exact .refused b begun pending worker
    · rename_i p api
      obtain ⟨manager, moved, shape⟩ := Option.bind_eq_some_iff.mp stepped
      cases shape
      exact .fallsBack begun pending api moved
  | hear p b =>
    simp only [busStep] at stepped
    split at stepped
    · cases stepped
    · rename_i m waiting held
      obtain ⟨manager, moved, shape⟩ := Option.bind_eq_some_iff.mp stepped
      cases shape
      exact .hear held moved
  | inside p e =>
    simp only [busStep, Option.ite_none_right_eq_some] at stepped
    obtain ⟨within, stepped⟩ := stepped
    obtain ⟨manager, moved, shape⟩ := Option.bind_eq_some_iff.mp stepped
    cases shape
    exact .inside within moved

theorem published_step (held : Published s.calls s.channel) (stepped : busStep s e = some s') :
    Published s'.calls s'.channel := by
  cases bus_step_cases stepped with
  | ping | subscribe | lose | hear | inside => exact held
  | @emit m idle => exact published_goes_on held (by rw [held.idle m idle]) rfl nofun
  | execute begun unpublished => exact published_executed held begun unpublished
  | @confirm m published _ =>
    refine published_goes_on held rfl ?_ fun _ => published
    by_contra idle
    rw [held.idle m (eq_false_of_ne_true idle)] at published
    cases published
  | refused _ begun => exact published_goes_on held rfl begun nofun
  | fallsBack begun => exact published_goes_on held rfl begun nofun

theorem published_run (ran : run busStep {} es = some s) : Published s.calls s.channel := by
  refine run_invariant (P := fun s : EventBus α => Published s.calls s.channel)
    (fun _ _ _ held stepped => published_step held stepped) ?_ ran
  exact ⟨.nil, fun _ => by simp, fun _ _ => rfl, nofun⟩

/-- The relays are handed what is published, in its order. -/
theorem handed_step (held : ∀ q, (handed (s.processes q)).Sublist s.channel) (stepped : busStep s e = some s')
    (q : ℕ) : (handed (s'.processes q)).Sublist s'.channel := by
  have kept {p : ℕ} {process : ApiProcess α} (new : (handed process).Sublist s.channel) :
      (handed (Function.update s.processes p process q)).Sublist s.channel :=
    update_all (P := fun _ process => (handed process).Sublist s.channel) held new q
  cases bus_step_cases stepped with
  | ping p => exact kept (held p)
  | @subscribe p => exact kept (held p)
  | lose p => exact kept (((List.take_sublist _ _).append_left _).trans (held p))
  | emit | confirm | refused => exact held q
  | execute => exact (handed_receive _ _).trans ((held q).append_right _)
  | @fallsBack m p b manager => exact kept ((handed_moved _ manager).trans (held p))
  | @hear p b m waiting manager ready =>
    refine kept ((handed_moved _ manager).trans (.trans ?_ (held p)))
    simp only [handed, ready, List.append_assoc, List.singleton_append]
    exact List.Sublist.refl _
  | @inside p e manager => exact kept ((handed_moved _ manager).trans (held p))

theorem handed_run (ran : run busStep {} es = some s) (q : ℕ) : (handed (s.processes q)).Sublist s.channel := by
  refine run_invariant (P := fun s : EventBus α => ∀ q, (handed (s.processes q)).Sublist s.channel)
    (fun _ _ _ held stepped => handed_step held stepped) (fun _ => ?_) ran q
  exact List.Sublist.refl _

theorem accounted_step (held : ∀ q, Accounted s.calls q (s.processes q))
    (published : Published s.calls s.channel)
    (stepped : busStep s e = some s') (q : ℕ) : Accounted s'.calls q (s'.processes q) := by
  have kept {p : ℕ} {process : ApiProcess α} (new : Accounted s.calls p process) :
      Accounted s.calls q (Function.update s.processes p process q) := update_all held new q
  cases bus_step_cases stepped with
  | ping p => exact kept (held p)
  | @subscribe p => exact kept (held p)
  | lose p => exact kept (held p)
  | @emit m idle => exact accounted_goes_on (held q) (.inr (by rw [published.idle m idle]))
  | @execute m =>
    have received : Accounted s.calls q ((s.processes q).receive m) := by
      intro n
      rw [times, receive_carried, receive_heard]
      exact held q n
    exact accounted_goes_on received (.inr Iff.rfl)
  | @confirm m _ pending => exact accounted_goes_on (held q) (.inr (by simp [pending]))
  | refused _ _ _ worker => exact accounted_goes_on (held q) (.inl (by simp [worker]))
  | @fallsBack m p b manager _ pending api =>
    by_cases mine : q = p
    · subst mine
      change Accounted _ q (Function.update s.processes q _ q)
      rw [Function.update_self]
      exact accounted_moved (accounted_falls_back (held q) pending api) manager
    · change Accounted _ q (Function.update s.processes p _ q)
      rw [Function.update_of_ne mine]
      exact accounted_goes_on (held q) (.inl (by simp [api, Ne.symm mine]))
  | @hear p b m waiting manager => exact kept (accounted_moved (accounted_handed (held p) b m waiting) manager)
  | @inside p e manager => exact kept (accounted_moved (held p) manager)

theorem accounted_run (ran : run busStep {} es = some s) (q : ℕ) : Accounted s.calls q (s.processes q) := by
  refine run_history (P := fun _ s => ∀ q, Accounted s.calls q (s.processes q)) (fun q m => ?_) ?_ ran q
  · simp [times, fellBack]
  · exact fun es s e s' ranBefore held stepped => accounted_step held (published_run ranBefore) stepped

/-! ## How often an event is broadcast -/

/-- What a process makes of an event. -/
structure Counted (s : EventBus α) (p : ℕ) (m : Emission) : Prop where
  /-- The relay broadcasts in the order of the publications, and nothing twice. -/
  relayed : (s.processes p).heard.Sublist s.channel ∧ s.channel.Nodup
  /-- What is broadcast was published, or refused to the process itself. -/
  known : 0 < times (s.processes p) m →
    m ∈ s.channel ∨ m.emitter = .api p ∧ (s.calls m).returned = some false
  /-- It is broadcast once, unless it was published and yet refused to the process itself. -/
  once : times (s.processes p) m ≤ 1 ∨ times (s.processes p) m = 2 ∧
    m ∈ s.channel ∧ m.emitter = .api p ∧ (s.calls m).returned = some false
  /-- Of a call that has returned `True`, the message was published. -/
  confirmed : (s.calls m).returned = some true → m ∈ s.channel

/-- In every reached state, for every process and every event. -/
theorem events_counted (ran : run busStep {} es = some s) (p : ℕ) (m : Emission) : Counted s p m := by
  have published := published_run ran
  have handed := (List.sublist_append_left _ _).trans (handed_run ran p)
  have accounted := accounted_run ran p m
  have unique : (s.processes p).heard.Nodup := published.once.sublist handed
  have heard := List.nodup_iff_count_le_one.mp unique m
  have listed : 0 < (s.processes p).heard.count m → m ∈ s.channel := fun some =>
    handed.subset (List.count_pos_iff.mp some)
  constructor
  case relayed => exact ⟨handed, published.once⟩
  case confirmed => exact fun returned => (published.listed m).mpr (published.confirmed m returned)
  case known =>
    intro broadcast
    cases fell : fellBack s.calls p m with
    | false => exact .inl (listed (by simpa [accounted, fell] using broadcast))
    | true => exact .inr (by simpa [fellBack] using fell)
  case once =>
    cases fell : fellBack s.calls p m with
    | false =>
      rw [fell] at accounted
      exact .inl (accounted ▸ heard)
    | true =>
      by_cases relayed : (s.processes p).heard.count m = 0
      · exact .inl (by simp [accounted, fell, relayed])
      · refine .inr ⟨by simp [accounted, fell]; omega, listed (by omega), by simpa [fellBack] using fell⟩

/-- A process with one browser emits an event. -/
def emitting : List (BusEvent ℕ) :=
  [.ping 0, .subscribe 0, .inside 0 (.connect 7 (.slot 3)), .emit ⟨.api 0, 1⟩]

/-- Its relay hands the event back to it, and then the answer of Redis is lost. -/
def refusing : List (BusEvent ℕ) :=
  [.hear 0 0, .inside 0 (.sent 0 true), .refuse ⟨.api 0, 1⟩ 1, .inside 0 (.sent 1 true)]

theorem events_counted_refused : ∃ s, run busStep {} (emitting ++ .execute ⟨.api 0, 1⟩ :: refusing) = some s ∧
    times (s.processes 0) ⟨.api 0, 1⟩ = 2 ∧ Counted s 0 ⟨.api 0, 1⟩ := by
  have ends : (run busStep {} (emitting ++ .execute ⟨.api 0, 1⟩ :: refusing)).map (fun s =>
      times (s.processes 0) ⟨.api 0, 1⟩) = some 2 := by decide +kernel
  obtain ⟨s, ran, twice⟩ := Option.map_eq_some_iff.mp ends
  exact ⟨s, ran, twice, events_counted ran 0 _⟩

/-! ## The way to a browser -/

/-- A step of the bus is at most one step of every process. -/
theorem local_step (stepped : busStep s e = some s') (p : ℕ) :
    run connectionStep (s.processes p).manager (localEvent p e).toList = some (s'.processes p).manager := by
  have one {e : ConnectionEvent α} {a a' : ConnectionManager α} (moved : connectionStep a e = some a') :
      run connectionStep a [e] = some a' := by simp [run, moved]
  cases bus_step_cases stepped with
  | ping | subscribe | lose =>
    refine congrArg some (unmoved_manager ?_ p).symm
    rfl
  | emit | confirm => rfl
  | execute => exact congrArg some (receive_manager _ _).symm
  | refused _ _ _ worker => simp [localEvent, worker, run, EventBus.goOn]
  | @fallsBack m q b manager _ _ api moved =>
    by_cases mine : p = q
    · subst mine
      simpa [localEvent, api] using one moved
    · simp [localEvent, api, mine, Ne.symm mine, run, EventBus.goOn]
  | @hear q b m waiting manager _ moved =>
    by_cases mine : p = q
    · subst mine
      simpa [localEvent] using one moved
    · simp [localEvent, mine, Ne.symm mine, run]
  | @inside q e manager _ moved =>
    by_cases mine : p = q
    · subst mine
      simpa [localEvent] using one moved
    · simp [localEvent, mine, Ne.symm mine, run]

theorem local_run (ran : run busStep {} es = some s) (p : ℕ) :
    run connectionStep {} (localEvents p es) = some (s.processes p).manager := by
  refine run_history (P := fun es s => run connectionStep {} (localEvents p es) = some (s.processes p).manager)
    rfl (fun es s e s' _ held stepped => ?_) ran
  have last : localEvents p [e] = (localEvent p e).toList := by
    rw [localEvents, List.filterMap_cons]
    cases localEvent p e <;> rfl
  rw [localEvents, List.filterMap_append, ← localEvents, ← localEvents, run_append, held, last]
  exact local_step stepped p

/-! ### Relays that have left -/

theorem after_left {relay : RelayPhase} (left : relay.hasLeft = true) (phase : RelayPhase) :
    (relay.after b phase).hasLeft = true := by
  unfold RelayPhase.after
  split
  · rename_i relaying
    rw [relaying] at left
    cases left
  · exact left

theorem resume_left {a : ConnectionManager α} (left : a.relay.hasLeft = true) (b : ℕ) (cursor : Cursor)
    (disconnected : List α) (attempts : List (α × Bool)) :
    (a.resume b cursor disconnected attempts).relay.hasLeft = true := by
  unfold ConnectionManager.resume
  split
  · exact after_left left _
  · exact after_left left _
  · exact left

/-- A relay that has left its loop has left it for good. -/
theorem left_step {a a' : ConnectionManager α} {l : ConnectionEvent α} (left : a.relay.hasLeft = true)
    (stepped : connectionStep a l = some a') : a'.relay.hasLeft = true := by
  cases connection_step_cases stepped with
  | connect | disconnect | passedOver => exact left
  | failure => rfl
  | emit | sent => exact resume_left left _ _ _ _
  | relayed listening =>
    rw [listening] at left
    cases left

/-! ### From the publication to the broadcast -/

/-- An event has come to a process since it was published: it waits for the relay, the relay is gone, or it
has been broadcast. -/
def Arrived (p : ℕ) (m : Emission) (during : List (BusEvent α)) (s : EventBus α) : Prop :=
  m ∈ (s.processes p).waiting ∨ (s.processes p).manager.relay.hasLeft = true ∨
    ∃ b earlier later, during = earlier ++ .hear p b :: later ∧
      (b, m) ∈ (s.processes p).carried ∧ m ∈ (s.processes p).heard

/-- What has been broadcast and heard stays known. -/
theorem known_step (stepped : busStep s e = some s') (p : ℕ) :
    (s.processes p).carried ⊆ (s'.processes p).carried ∧ (s.processes p).heard ⊆ (s'.processes p).heard := by
  have same (q : ℕ) : (s.processes q).carried ⊆ (s.processes q).carried ∧
      (s.processes q).heard ⊆ (s.processes q).heard := ⟨List.Subset.refl _, List.Subset.refl _⟩
  have kept {q : ℕ} {process : ApiProcess α} (grown : (s.processes q).carried ⊆ process.carried ∧
      (s.processes q).heard ⊆ process.heard) :
      (s.processes p).carried ⊆ (Function.update s.processes q process p).carried ∧
        (s.processes p).heard ⊆ (Function.update s.processes q process p).heard :=
    update_all (P := fun p process => (s.processes p).carried ⊆ process.carried ∧
      (s.processes p).heard ⊆ process.heard) same grown p
  cases bus_step_cases stepped with
  | ping q | lose q => exact kept (same q)
  | @subscribe q => exact kept (same q)
  | emit | confirm | refused => exact same p
  | execute =>
    rw [receive_carried, receive_heard]
    exact same p
  | fallsBack =>
    refine kept ?_
    rw [moved_carried, moved_heard]
    exact ⟨List.subset_append_left _ _, List.Subset.refl _⟩
  | hear =>
    refine kept ?_
    rw [moved_carried, moved_heard]
    exact ⟨List.subset_append_left _ _, List.subset_append_left _ _⟩
  | inside =>
    refine kept ?_
    rw [moved_carried, moved_heard]
    exact same _

/-- A message that waits goes on waiting, unless its relay leaves or takes it. -/
theorem waiting_step (waits : m ∈ (s.processes p).waiting) (lasts : ∀ kept, e ≠ .lose p kept)
    (stepped : busStep s e = some s') : m ∈ (s'.processes p).waiting ∨
      (s'.processes p).manager.relay.hasLeft = true ∨
        ∃ b, e = .hear p b ∧ (b, m) ∈ (s'.processes p).carried ∧ m ∈ (s'.processes p).heard := by
  have kept {q : ℕ} {process : ApiProcess α} (goes_on : m ∈ (s.processes q).waiting →
      m ∈ process.waiting ∨ process.manager.relay.hasLeft = true) :
      m ∈ (Function.update s.processes q process p).waiting ∨
        (Function.update s.processes q process p).manager.relay.hasLeft = true := by
    by_cases mine : p = q
    · subst mine
      rw [Function.update_self]
      exact goes_on waits
    · rw [Function.update_of_ne mine]
      exact .inl waits
  cases bus_step_cases stepped with
  | ping | subscribe =>
    refine Or.imp_right .inl (kept fun waits => ?_)
    exact .inl waits
  | @lose q k =>
    by_cases mine : q = p
    · subst mine
      exact absurd rfl (lasts k)
    · left
      rw [update_processes, Function.update_of_ne (Ne.symm mine)]
      exact waits
  | emit | confirm | refused => exact .inl waits
  | @execute n =>
    left
    change m ∈ ((s.processes p).receive n).waiting
    unfold ApiProcess.receive
    split
    · exact List.mem_append_left _ waits
    · exact waits
  | fallsBack =>
    refine Or.imp_right .inl (kept fun waits => waiting_moved ?_ _)
    exact waits
  | @hear q b n waiting manager ready =>
    by_cases mine : q = p
    · subst mine
      rw [ready] at waits
      rcases List.mem_cons.mp waits with rfl | later
      · refine .inr (.inr ⟨b, rfl, ?_⟩)
        rw [update_processes, Function.update_self, moved_carried, moved_heard]
        exact ⟨List.mem_append_right _ (List.mem_singleton_self _),
          List.mem_append_right _ (List.mem_singleton_self _)⟩
      · rw [update_processes, Function.update_self]
        refine Or.imp_right .inl (waiting_moved ?_ manager)
        exact later
    · left
      rw [update_processes, Function.update_of_ne (Ne.symm mine)]
      exact waits
  | inside => exact (kept fun waits => waiting_moved waits _).imp_right .inl

theorem arrived_step (held : Arrived p m during s) (lasts : ∀ kept, e ≠ .lose p kept)
    (stepped : busStep s e = some s') : Arrived p m (during ++ [e]) s' := by
  rcases held with waits | left | ⟨b, earlier, later, rfl, carried, heard⟩
  · rcases waiting_step waits lasts stepped with waits | left | ⟨b, rfl, known⟩
    · exact .inl waits
    · exact .inr (.inl left)
    · exact .inr (.inr ⟨b, during, [], rfl, known⟩)
  · refine .inr (.inl ?_)
    exact run_invariant (P := fun a : ConnectionManager α => a.relay.hasLeft = true)
      (fun _ _ _ left moved => left_step left moved) left (local_step stepped p)
  · obtain ⟨broadcasts, messages⟩ := known_step stepped p
    exact .inr (.inr ⟨b, earlier, later ++ [e], by simp, broadcasts carried, messages heard⟩)

/-! ### To the end of the broadcast -/

section Relayed

variable {a a' : ConnectionManager α} {l : ConnectionEvent α} {cursor : Cursor} {disconnected : List α}
  {attempts : List (α × Bool)} {earlier later : List (ConnectionEvent α)}

/-- The relay awaits a broadcast while it sends. -/
def Awaited (b : ℕ) (a : ConnectionManager α) : Prop :=
  ∀ cursor websocket disconnected attempts, a.broadcasts b = .sending cursor websocket disconnected attempts →
    a.relay = .relaying b

theorem resume_awaited (relaying : a.relay = .relaying b) :
    Awaited b (a.resume b cursor disconnected attempts) := by
  intro _ _ _ _ sending
  unfold ConnectionManager.resume at sending ⊢
  split at sending <;> simp_all

theorem resume_relay {c : ℕ} (apart : b ≠ c) (relaying : a.relay = .relaying b) :
    (a.resume c cursor disconnected attempts).relay = .relaying b := by
  unfold ConnectionManager.resume RelayPhase.after
  split <;> simp_all

theorem awaited_other {c : ℕ} (held : Awaited b a) (apart : b ≠ c) :
    Awaited b (a.resume c cursor disconnected attempts) := by
  intro _ _ _ _ sending
  rw [resume_other apart] at sending
  exact resume_relay apart (held _ _ _ _ sending)

theorem awaited_step (held : Awaited b a) (begun : a.broadcasts b ≠ .idle)
    (stepped : connectionStep a l = some a') :
    Awaited b a' := by
  cases connection_step_cases stepped with
  | connect | disconnect | passedOver => exact held
  | failure _ listening =>
    intro _ _ _ _ sending
    cases listening.symm.trans (held _ _ _ _ sending)
  | @emit c idle => exact awaited_other held fun mine => begun (mine ▸ idle)
  | @relayed c listening idle =>
    have apart : b ≠ c := fun mine => begun (mine ▸ idle)
    intro _ _ _ _ sending
    rw [ConnectionManager.start, resume_other apart] at sending
    cases listening.symm.trans (held _ _ _ _ sending)
  | @sent c _ _ _ _ ok sending =>
    by_cases mine : b = c
    · subst mine
      exact resume_awaited (held _ _ _ _ sending)
    · exact awaited_other held mine

/-- A broadcast of the relay is awaited in every later state. -/
theorem awaited_run (ran : run connectionStep {} (earlier ++ .hear b .event :: later) = some a) :
    a.broadcasts b ≠ .idle ∧ Awaited b a := by
  have met : Meets connectionStep (fun _ _ => True) {} (earlier ++ .hear b .event :: later) :=
    fun _ _ _ _ _ _ => trivial
  refine meets_since (P := fun _ a => a.broadcasts b ≠ .idle ∧ Awaited b a) ?_ ?_ met ran
  · intro a a' _ _ stepped
    cases connection_step_cases stepped with
    | relayed _ _ => exact ⟨resume_begun, resume_awaited rfl⟩
  · rintro _ a l a' _ ⟨begun, held⟩ _ stepped
    exact ⟨begun_step begun stepped, awaited_step held begun stepped⟩

/-- Once the relay listens again, its broadcast has returned, and reached whoever stayed. -/
theorem relayed_reaches (met : Meets connectionStep Undisturbed {} (earlier ++ .hear b .event :: later))
    (ran : run connectionStep {} (earlier ++ .hear b .event :: later) = some a)
    (listening : a.relay = .listening) :
    ∃ attempts, a.broadcasts b = .returned attempts ∧
      ∀ x, Registered earlier (earlier ++ .hear b .event :: later) b x →
        ∃ ok, attempts.filter (fun attempt => attempt.1 = x) = [(x, ok)] := by
  have quiet : NoneRaised a := by
    refine meets_invariant (P := NoneRaised) ?_ ?_ met ran
    · exact ⟨fun _ _ raised => (by cases raised), fun _ left => (by cases left)⟩
    · exact fun _ _ _ quiet undisturbed stepped => none_raised_step quiet undisturbed stepped
  obtain ⟨begun, awaited⟩ := awaited_run ran
  cases phase : a.broadcasts b with
  | idle => exact absurd phase begun
  | sending => cases listening.symm.trans (awaited _ _ _ _ phase)
  | raised attempts => exact absurd phase (quiet.1 b attempts)
  | returned attempts =>
    refine ⟨attempts, rfl, fun x registered => ?_⟩
    have tried := tried_run met ran (.inr rfl) registered
    rw [phase] at tried
    exact once_of_count tried

end Relayed

/-- A browser is connected to a process from one point of a run on. -/
def Connected (p : ℕ) (x : α) (before es : List (BusEvent α)) : Prop :=
  ∀ earlier t, before <+: earlier → earlier <+: es → run busStep {} earlier = some t →
    x ∈ members (t.processes p).manager.connections

/-- Who is connected in the run is connected in the process. -/
theorem registered_connected {x : α} {later : List (BusEvent α)}
    (ran : run busStep {} (before ++ later) = some s)
    (connected : Connected p x before (before ++ later)) :
    Registered (localEvents p before) (localEvents p (before ++ later)) b x := by
  intro earlier t after upto reached _
  obtain ⟨es, within, rfl⟩ := List.prefix_filterMap_iff.mp upto
  obtain ⟨u, ranEs⟩ : ∃ u, run busStep {} es = some u := by
    obtain ⟨rest, whole⟩ := within
    rw [← whole, run_append] at ran
    obtain ⟨u, ranEs, _⟩ := Option.bind_eq_some_iff.mp ran
    exact ⟨u, ranEs⟩
  rcases List.prefix_or_prefix_of_prefix (List.prefix_append before later) within with longer | shorter
  · have same := (local_run ranEs p).symm.trans reached
    cases same
    exact connected es u longer within ranEs
  · obtain ⟨v, ranBefore⟩ : ∃ v, run busStep {} before = some v := by
      rw [run_append] at ran
      obtain ⟨v, ranBefore, _⟩ := Option.bind_eq_some_iff.mp ran
      exact ⟨v, ranBefore⟩
    have equal : localEvents p es = localEvents p before :=
      (shorter.filterMap (localEvent p)).eq_of_length_le after.length_le
    rw [← localEvents, equal, local_run ranBefore p] at reached
    cases reached
    exact connected before v List.prefix_rfl (List.prefix_append ..) ranBefore

/-- An event that is published while a process is subscribed, and whose subscription and connections last,
is broadcast by the relay of the process, and sent to whoever stays connected, once. -/
theorem event_delivered (ran : run busStep {} (before ++ .execute m :: during) = some s)
    (start : run busStep {} before = some s') (subscribed : (s'.processes p).subscribed = true)
    (lasts : ∀ kept, .lose p kept ∉ during)
    (met : Meets connectionStep Undisturbed {} (localEvents p (before ++ .execute m :: during)))
    (listening : (s.processes p).manager.relay = .listening) (drained : (s.processes p).waiting = []) :
    times (s.processes p) m = 1 + (fellBack s.calls p m).toNat ∧
      ∃ b attempts, (b, m) ∈ (s.processes p).carried ∧
        (s.processes p).manager.broadcasts b = .returned attempts ∧
        ∀ x, Connected p x before (before ++ .execute m :: during) →
          ∃ ok, attempts.filter (fun attempt => attempt.1 = x) = [(x, ok)] := by
  obtain ⟨published, stepped, ranDuring⟩ :
      ∃ t, busStep s' (.execute m) = some t ∧ run busStep t during = some s := by
    rw [run_append, start] at ran
    exact Option.bind_eq_some_iff.mp ran
  have arrived : Arrived p m during s := by
    refine run_history (P := fun during s => (∀ kept, .lose p kept ∉ during) → Arrived p m during s)
      (fun _ => ?_) ?_ ranDuring lasts
    · left
      cases bus_step_cases stepped with
      | execute => simp [ApiProcess.receive, subscribed]
    · intro es s e s' _ held stepped lasts
      refine arrived_step (held fun kept listed => lasts kept (by simp [listed])) (fun kept same => ?_) stepped
      exact lasts kept (by simp [same])
  rcases arrived with waits | left | ⟨b, earlier, later, rfl, carried, heard⟩
  · rw [drained] at waits
    cases waits
  · rw [listening] at left
    cases left
  · have whole : before ++ .execute m :: (earlier ++ .hear p b :: later) =
        (before ++ .execute m :: earlier) ++ .hear p b :: later := by simp
    rw [whole] at ran met ⊢
    have once : (s.processes p).heard.count m = 1 :=
      List.count_eq_one_of_mem ((published_run ran).once.sublist
        ((List.sublist_append_left _ _).trans (handed_run ran p))) heard
    have split : localEvents p ((before ++ .execute m :: earlier) ++ .hear p b :: later) =
        localEvents p (before ++ .execute m :: earlier) ++ .hear b .event :: localEvents p later := by
      rw [localEvents, List.filterMap_append,
        List.filterMap_cons_some (b := .hear b .event) (by simp [localEvent])]
      rfl
    have ranLocal := local_run ran p
    rw [split] at ranLocal met
    obtain ⟨attempts, returned, reached⟩ := relayed_reaches met ranLocal listening
    refine ⟨by rw [accounted_run ran p m, once], b, attempts, carried, returned, fun x connected => ?_⟩
    refine reached x (split ▸ registered_connected ran fun prior t after => connected prior t ?_)
    exact (List.prefix_append _ _).trans after

theorem event_delivered_refused : ∃ s, run busStep {} (emitting ++ .execute ⟨.api 0, 1⟩ :: refusing) = some s ∧
    times (s.processes 0) ⟨.api 0, 1⟩ = 1 + (fellBack s.calls 0 ⟨.api 0, 1⟩).toNat ∧
      ∃ b attempts, (b, ⟨.api 0, 1⟩) ∈ (s.processes 0).carried ∧
        (s.processes 0).manager.broadcasts b = .returned attempts ∧
        ∀ x, Connected 0 x emitting (emitting ++ .execute ⟨.api 0, 1⟩ :: refusing) →
          ∃ ok, attempts.filter (fun attempt => attempt.1 = x) = [(x, ok)] := by
  have begins : (run busStep {} emitting).map (fun s => (s.processes 0).subscribed) = some true := by
    decide +kernel
  have ends : (run busStep {} (emitting ++ .execute ⟨.api 0, 1⟩ :: refusing)).map (fun s =>
      ((s.processes 0).manager.relay, (s.processes 0).waiting)) = some (.listening, []) := by decide +kernel
  have kept : Meets connectionStep (fun s e => sizeKept s e = true) {}
      (localEvents 0 (emitting ++ .execute ⟨.api 0, 1⟩ :: refusing)) := meets_of_checks (by decide +kernel)
  obtain ⟨t, start, subscribed⟩ := Option.map_eq_some_iff.mp begins
  obtain ⟨s, ran, settled⟩ := Option.map_eq_some_iff.mp ends
  obtain ⟨listening, drained⟩ := Prod.mk.inj settled
  exact ⟨s, ran, event_delivered ran start subscribed (by simp [refusing])
    (meets_mono kept fun _ _ => undisturbed_of_size) listening drained⟩

end RevenueGuard.EventBusProofs
