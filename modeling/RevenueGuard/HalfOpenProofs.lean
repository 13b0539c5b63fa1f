import RevenueGuard.BreakerProofs
import RevenueGuard.Service

/-!
Rails that are HALF_OPEN.  Nothing in the service records the result of a probe, so
the counts of every HALF_OPEN record are zero and no evaluation of it decides
anything.  `half_open_left_iff` says which calls can still take such a rail
elsewhere: those that read it before it was opened, and write it back.
-/

namespace RevenueGuard.HalfOpenProofs

open Library Library.Backoff Library.Raises Library.Runs CircuitBreaker BreakerProofs
open Library.ReadModifyWrite (Phase Action Keeps act act_good act_cases)

variable {d : Deployment} {s s' : Service} {e : ServiceEvent} {es : List ServiceEvent} {begun now : ℚ}
  {bank rail rail₀ : String}

/-! ## What a step does to the breakers -/

/-- Whose call an event is about. -/
def caller : ServiceEvent → Option Caller
  | .system (.worker w _) => some (.worker w)
  | .askRequest i _ _ _ _ => some (.request i)
  | .askWorker w _ _ => some (.worker w)
  | .monitor caller _ _ => some caller
  | _ => none

/-- A step is one action of one evaluation, or touches no breaker and starts no
evaluation. -/
inductive Moved (s : Service) (who : Option Caller) (s' : Service) : Prop where
  | acted (caller : Caller) (now : ℚ) (bank rail : String) (stats : GatewayStats) (mine : who = some caller)
      {call call' : Phase StateDict GatewayStats GatewayHealthState} {action : Action GatewayStats}
      {stored : Option StateDict} (forward : s.clock ≤ now)
      (held : call = .idle ∨ s.monitors caller = .evaluating bank rail stats call)
      (acted : act (evaluateCall {}) now (s.breakers (key bank rail)) call action = some (stored, call'))
      (breakers : s'.breakers = Function.update s.breakers (key bank rail) stored)
      (monitors : s'.monitors = Function.update s.monitors caller (.evaluating bank rail stats call'))
      (clock : s'.clock = now)
  | quiet (breakers : s'.breakers = s.breakers) (forward : s.clock ≤ s'.clock)
      (monitors : ∀ caller, s'.monitors caller = s.monitors caller ∨
        who = some caller ∧ (s'.monitors caller).evaluates = false)

theorem act_moved {caller : Caller} {stats : GatewayStats}
    {call : Phase StateDict GatewayStats GatewayHealthState} {action : Action GatewayStats}
    (forward : s.clock ≤ now) (held : call = .idle ∨ s.monitors caller = .evaluating bank rail stats call)
    (acted : s.act caller now bank rail stats call action = some s') : Moved s (some caller) s' := by
  obtain ⟨⟨stored, call'⟩, acts, rfl⟩ := Option.map_eq_some_iff.mp acted
  exact .acted caller now bank rail stats rfl forward held acts rfl rfl rfl

theorem monitor_moved {caller : Caller} {e : MonitorEvent} (forward : s.clock ≤ now)
    (stepped : s.stepMonitor caller now e = some s') : Moved s (some caller) s' := by
  have answered (result : Except String GatewayHealthSnapshot) :
      Moved s (some caller) ({ s with clock := now }.setMonitor caller (.answered result)) := by
    refine .quiet rfl forward ?_
    intro other
    by_cases mine : other = caller
    · subst mine
      exact .inr ⟨rfl, by simp [Service.setMonitor, MonitorPhase.evaluates]⟩
    · exact .inl (Function.update_of_ne mine ..)
  unfold Service.stepMonitor at stepped
  split at stepped
  · rename_i bank rail stats call action phase
    exact act_moved forward (.inr phase) stepped
  · cases stepped
    exact answered _
  · cases stepped
    exact answered _
  · cases stepped

theorem system_moved {e : Event} (stepped : s.stepSystem d e = some s') : Moved s (caller (.system e)) s' := by
  have ended (w : ℕ) (system : System) :
      Moved s (some (.worker w)) ({ s with system }.setMonitor (.worker w) .idle) := by
    refine .quiet rfl (le_refl _) ?_
    intro other
    by_cases mine : other = .worker w
    · subst mine
      exact .inr ⟨rfl, by simp [Service.setMonitor, MonitorPhase.evaluates]⟩
    · exact .inl (Function.update_of_ne mine ..)
  unfold Service.stepSystem at stepped
  split at stepped
  · split at stepped
    · obtain ⟨system, _, rfl⟩ := Option.map_eq_some_iff.mp stepped
      exact ended _ system
    · cases stepped
  · obtain ⟨system, _, rfl⟩ := Option.map_eq_some_iff.mp stepped
    exact ended _ system
  · obtain ⟨system, _, rfl⟩ := Option.map_eq_some_iff.mp stepped
    exact ended _ system
  · obtain ⟨system, _, rfl⟩ := Option.map_eq_some_iff.mp stepped
    exact .quiet rfl (le_refl _) fun _ => .inl rfl

theorem step_moved (stepped : serviceStep d s e = some s') : Moved s (caller e) s' := by
  cases e with
  | system e => exact system_moved stepped
  | askRequest i now bank rail counts =>
    obtain ⟨⟨forward, _⟩, asked⟩ := Option.ite_none_right_eq_some.mp stepped
    exact act_moved forward (.inl rfl) asked
  | askWorker w now counts =>
    obtain ⟨forward, asked⟩ := Option.ite_none_right_eq_some.mp stepped
    unfold Service.askWorker at asked
    split at asked
    · split at asked
      · exact act_moved forward (.inl rfl) asked
      · cases asked
    · cases asked
  | monitor caller now e =>
    obtain ⟨forward, moved⟩ := Option.ite_none_right_eq_some.mp stepped
    exact monitor_moved forward moved
  | advance now =>
    obtain ⟨forward, advanced⟩ := Option.ite_none_right_eq_some.mp stepped
    cases advanced
    exact .quiet rfl forward fun _ => .inl rfl

/-- What a call does after an action: it is the call that acted, or it did so before. -/
theorem evaluating_cases {caller other : Caller} {mine phase : MonitorPhase}
    (monitors : s'.monitors = Function.update s.monitors caller mine) (after : s'.monitors other = phase) :
    mine = phase ∨ s.monitors other = phase := by
  rw [monitors] at after
  by_cases same : other = caller
  · subst same
    rw [Function.update_self] at after
    exact .inl after
  · rw [Function.update_of_ne same] at after
    exact .inr after

/-- A call is as it was after a step of somebody else. -/
theorem step_others {other : Caller} (notMine : caller e ≠ some other)
    (stepped : serviceStep d s e = some s') : s'.monitors other = s.monitors other := by
  cases step_moved stepped with
  | quiet _ _ monitors => exact (monitors other).resolve_right fun ended => notMine ended.1
  | acted caller _ _ _ _ mine _ _ _ _ monitors _ =>
    rw [monitors, Function.update_of_ne]
    rintro rfl
    exact notMine mine

theorem run_others (other : Caller) (notMine : ∀ e ∈ es, caller e ≠ some other)
    (ran : run (serviceStep d) s es = some s') : s'.monitors other = s.monitors other := by
  refine meets_invariant (P := fun t => t.monitors other = s.monitors other) rfl ?_ (meets_of_events notMine) ran
  intro t e t' same notMine stepped
  exact (step_others notMine stepped).trans same

/-! ## No probe is ever counted -/

/-- A dictionary that stands for a breaker no probe of which has come back. -/
def ProbeFree (dict : StateDict) : Prop := ∃ u b, dict = record {} u b ∧ Dated b ∧ b.Unprobed

theorem keeps_probe_free (epoch : 0 < begun) : Keeps (evaluateCall {}) (begun ≤ ·) ProbeFree where
  fresh now _ := ⟨now, .closed, new_state_closed now, by simp [Dated, since], trivial⟩
  decide now stats dict new result later free decided := by
    obtain ⟨u, b, rfl, dated, unprobed⟩ := free
    obtain ⟨save, spec, saves⟩ := evaluate_state_record stats now u dated
    rw [show (evaluateCall {}).decide stats now (record {} u b) = _ from spec] at decided
    cases decided
    obtain ⟨u', rfl⟩ := saves_record saves
    exact ⟨u', _, rfl, dated_evaluate (lt_of_lt_of_le epoch later) dated, Breaker.unprobed_evaluate unprobed⟩
  write now dict _ free := by
    obtain ⟨u, b, rfl, dated, unprobed⟩ := free
    exact ⟨now, b, rfl, dated, unprobed⟩

/-- Everything that is stored, or in the hands of a call, is free of probes. -/
structure AllProbeFree (begun : ℚ) (s : Service) : Prop where
  clock : begun ≤ s.clock
  stored : ∀ k dict, s.breakers k = some dict → ProbeFree dict
  held : ∀ caller bank rail stats call, s.monitors caller = .evaluating bank rail stats call →
    ∀ dict, call.value = some dict → ProbeFree dict

theorem hands_free {caller : Caller} {stats : GatewayStats}
    {call : Phase StateDict GatewayStats GatewayHealthState} (free : AllProbeFree begun s)
    (held : call = .idle ∨ s.monitors caller = .evaluating bank rail stats call) :
    ∀ dict, call.value = some dict → ProbeFree dict := by
  rcases held with rfl | phase
  · intro dict nothing
    cases nothing
  · exact free.held caller bank rail stats call phase

theorem step_probe_free (epoch : 0 < begun) (free : AllProbeFree begun s)
    (stepped : serviceStep d s e = some s') : AllProbeFree begun s' := by
  cases step_moved stepped with
  | quiet breakers forward monitors =>
    refine ⟨le_trans free.clock forward, by rw [breakers]; exact free.stored, ?_⟩
    intro caller bank rail stats call phase
    rcases monitors caller with same | ⟨_, ended⟩
    · rw [same] at phase
      exact free.held caller bank rail stats call phase
    · rw [phase] at ended
      cases ended
  | @acted caller now bank rail stats mine call call' action stored forward held acted breakers monitors clock =>
    obtain ⟨cell, call_free⟩ := act_good (keeps_probe_free epoch) (le_trans free.clock forward)
      (free.stored _) (hands_free free held) acted
    refine ⟨by rw [clock]; exact le_trans free.clock forward, ?_, ?_⟩
    · intro k dict there
      rw [breakers] at there
      by_cases same : k = key bank rail
      · subst same
        rw [Function.update_self] at there
        exact cell dict there
      · rw [Function.update_of_ne same] at there
        exact free.stored k dict there
    · intro other bank' rail' stats' call'' phase
      rcases evaluating_cases monitors phase with same | before
      · cases same
        exact call_free
      · exact free.held other bank' rail' stats' call'' before

theorem run_probe_free (epoch : 0 < begun) (ran : run (serviceStep d) { clock := begun } es = some s) :
    AllProbeFree begun s := by
  refine run_invariant (fun _ _ _ free stepped => step_probe_free epoch free stepped) ?_ ran
  refine ⟨le_refl begun, ?_, ?_⟩
  · intro k dict there
    cases there
  · intro caller bank rail stats call phase
    cases phase

/-! ## The trap -/

/-- A call that takes a HALF_OPEN rail elsewhere: it has read the rail as CLOSED, or is about
to write another state. -/
def Rescues : Phase StateDict GatewayStats GatewayHealthState → Prop
  | .read _ dict => storedState (some dict) = .closed
  | .writing dict _ => storedState (some dict) ≠ .halfOpen
  | _ => False

/-- A call of the monitor on the breaker under a key. -/
def InFlight (s : Service) (k : String) (call : Phase StateDict GatewayStats GatewayHealthState) : Prop :=
  ∃ caller bank rail stats, s.monitors caller = .evaluating bank rail stats call ∧ key bank rail = k

theorem stored_state_record (u : ℚ) (b : Breaker ℚ) : storedState (some (record {} u b)) = health b := by
  simp only [storedState, record, Option.bind_some, of_value]
  rfl

/-- From a state other than CLOSED only HALF_OPEN is saved. -/
theorem decision_trapped {stats : GatewayStats} {dict new : StateDict} {result : GatewayHealthState}
    (free : ProbeFree dict) (notClosed : storedState (some dict) ≠ .closed)
    (decided : evaluateState {} stats now dict = .ok (some new, result)) :
    storedState (some new) = .halfOpen := by
  obtain ⟨u, b, rfl, dated, unprobed⟩ := free
  obtain ⟨save, spec, saves⟩ := evaluate_state_record stats now u dated
  rw [stored_state_record] at notClosed
  cases b with
  | closed => exact absurd rfl notClosed
  | opened at_ level =>
    rcases Breaker.evaluate_opened (policy {}) (trips {} stats) now at_ level with same | ⟨_, moved⟩
    · -- An open breaker that stays open is not saved.
      by_cases running : now < at_ + cooldownAt {} level
      · rw [evaluate_state_running (dated at_ rfl) running] at decided
        cases decided
      · have late : Breaker.expiry (policy {}) at_ level ≤ now := by
          rw [expiry_eq]
          exact not_lt.mp running
        rw [Breaker.evaluate, if_pos late] at same
        cases same
    · rw [spec] at decided
      cases decided
      rw [moved] at saves
      obtain ⟨u', rfl⟩ := saves_record saves
      exact stored_state_record u' _
  | halfOpen level successes failures =>
    obtain ⟨rfl, rfl⟩ := unprobed
    have stays : Breaker.evaluate (policy {}) (trips {} stats) now (.halfOpen level 0 0) =
        .halfOpen level 0 0 := rfl
    rw [spec] at decided
    cases decided
    rw [stays] at saves
    obtain ⟨u', rfl⟩ := saves_record saves
    exact stored_state_record u' _

/-- An action of a call that does not rescue a HALF_OPEN rail leaves it there. -/
theorem act_trapped {call call' : Phase StateDict GatewayStats GatewayHealthState}
    {action : Action GatewayStats}
    {stored stored' : Option StateDict} (hands : ∀ dict, call.value = some dict → ProbeFree dict)
    (halfOpen : storedState stored = .halfOpen) (idle : ¬ Rescues call)
    (acted : act (evaluateCall {}) now stored call action = some (stored', call')) :
    storedState stored' = .halfOpen ∧ ¬ Rescues call' := by
  cases act_cases acted with
  | get stats =>
    refine ⟨halfOpen, ?_⟩
    cases stored with
    | none => cases halfOpen
    | some dict =>
      intro closed
      have closed : storedState (some dict) = .closed := closed
      rw [halfOpen] at closed
      cases closed
  | decide stats dict =>
    refine ⟨halfOpen, ?_⟩
    match decided : (evaluateCall {}).decide stats now dict with
    | .error exc => exact fun rescues => rescues
    | .ok (none, result) => exact fun rescues => rescues
    | .ok (some new, result) => exact fun rescues => rescues (decision_trapped (hands dict rfl) idle decided)
  | set dict result => exact ⟨not_not.mp idle, fun rescues => rescues⟩
  | abort _ exc => exact ⟨halfOpen, fun rescues => rescues⟩

/-- The rail is HALF_OPEN and no call in flight rescues it. -/
structure Trapped (s : Service) (k : String) : Prop where
  halfOpen : storedState (s.breakers k) = .halfOpen
  idle : ∀ call, InFlight s k call → ¬ Rescues call

theorem step_trapped {k : String} (free : AllProbeFree begun s) (trapped : Trapped s k)
    (stepped : serviceStep d s e = some s') : Trapped s' k := by
  cases step_moved stepped with
  | quiet breakers forward monitors =>
    refine ⟨by rw [breakers]; exact trapped.halfOpen, ?_⟩
    rintro call ⟨caller, bank, rail, stats, phase, same⟩
    rcases monitors caller with kept | ⟨_, ended⟩
    · rw [kept] at phase
      exact trapped.idle call ⟨caller, bank, rail, stats, phase, same⟩
    · rw [phase] at ended
      cases ended
  | @acted caller now bank rail stats mine call call' action stored forward held acted breakers monitors clock =>
    by_cases same : key bank rail = k
    · subst same
      have idle : ¬ Rescues call := by
        rcases held with rfl | phase
        · exact fun rescues => rescues
        · exact trapped.idle call ⟨caller, bank, rail, stats, phase, rfl⟩
      obtain ⟨halfOpen, after⟩ := act_trapped (hands_free free held) trapped.halfOpen idle acted
      refine ⟨by rw [breakers, Function.update_self]; exact halfOpen, ?_⟩
      rintro other ⟨caller', bank', rail', stats', phase, sameKey⟩
      rcases evaluating_cases monitors phase with same | before
      · cases same
        exact after
      · exact trapped.idle other ⟨caller', bank', rail', stats', before, sameKey⟩
    · refine ⟨by rw [breakers, Function.update_of_ne (Ne.symm same)]; exact trapped.halfOpen, ?_⟩
      rintro other ⟨caller', bank', rail', stats', phase, sameKey⟩
      rcases evaluating_cases monitors phase with mine | before
      · cases mine
        exact (same sameKey).elim
      · exact trapped.idle other ⟨caller', bank', rail', stats', before, sameKey⟩

theorem run_trapped {k : String} (epoch : 0 < begun) (free : AllProbeFree begun s) (trapped : Trapped s k)
    (ran : run (serviceStep d) s es = some s') : Trapped s' k := by
  refine (run_invariant (P := fun s => AllProbeFree begun s ∧ Trapped s k) ?_ ⟨free, trapped⟩ ran).2
  rintro s e s' ⟨free, trapped⟩ stepped
  exact ⟨step_probe_free epoch free stepped, step_trapped free trapped stepped⟩

/-! ## The way out -/

theorem act_enabled {caller : Caller} {stats : GatewayStats} {action : Action GatewayStats}
    {call call' : Phase StateDict GatewayStats GatewayHealthState} {stored : Option StateDict}
    (phase : s.monitors caller = .evaluating bank rail stats call)
    (acts : act (evaluateCall {}) s.clock (s.breakers (key bank rail)) call action = some (stored, call')) :
    ∃ s', serviceStep d s (.monitor caller s.clock (.act action)) = some s' ∧
      s'.breakers (key bank rail) = stored ∧ s'.monitors caller = .evaluating bank rail stats call' := by
  let next : Service := { s with breakers := Function.update s.breakers (key bank rail) stored }.setMonitor caller
    (.evaluating bank rail stats call')
  refine ⟨next, ?_, Function.update_self .., Function.update_self ..⟩
  simp only [serviceStep, le_refl, if_true, Service.stepMonitor, phase, Service.act, acts, Option.map_some]
  rfl

/-- A write of another state takes the rail there. -/
theorem set_rescues {k : String} {dict : StateDict} {result : GatewayHealthState}
    (flies : InFlight s k (.writing dict result)) (rescues : storedState (some dict) ≠ .halfOpen) :
    ∃ es t, run (serviceStep d) s es = some t ∧ storedState (t.breakers k) ≠ .halfOpen := by
  obtain ⟨caller, bank, rail, stats, phase, rfl⟩ := flies
  obtain ⟨t, stepped, stored, _⟩ := act_enabled (d := d) phase
    (show act (evaluateCall {}) s.clock (s.breakers (key bank rail)) (.writing dict result) .set = _ from rfl)
  refine ⟨[.monitor caller s.clock (.act .set)], t, by simp [run, stepped], ?_⟩
  rw [stored]
  exact rescues

/-- A call that read CLOSED writes CLOSED, or OPEN if the traffic it counted was bad. -/
theorem decide_rescues {k : String} {stats : GatewayStats} {dict : StateDict} (free : ProbeFree dict)
    (flies : InFlight s k (.read stats dict)) (closed : storedState (some dict) = .closed) :
    ∃ es t, run (serviceStep d) s es = some t ∧ storedState (t.breakers k) ≠ .halfOpen := by
  obtain ⟨u, b, rfl, dated, _⟩ := free
  rw [stored_state_record] at closed
  cases b with
  | opened => cases closed
  | halfOpen => cases closed
  | closed =>
    obtain ⟨u', decided⟩ := evaluate_state_closed {} stats s.clock u
    obtain ⟨caller, bank, rail, stats', phase, rfl⟩ := flies
    have acts : act (evaluateCall {}) s.clock (s.breakers (key bank rail)) (.read stats (record {} u .closed))
        .decide = some (s.breakers (key bank rail),
          .writing (record {} u' (Breaker.closed.evaluate (policy {}) (trips {} stats) s.clock))
            (health (Breaker.closed.evaluate (policy {}) (trips {} stats) s.clock))) := by
      rw [act, show (evaluateCall {}).decide stats s.clock (record {} u .closed) = _ from decided]
      rfl
    obtain ⟨t, stepped, _, written⟩ := act_enabled (d := d) phase acts
    obtain ⟨es, t', ran, left⟩ := set_rescues (d := d) ⟨caller, bank, rail, stats', written, rfl⟩ (by
      rw [stored_state_record, Breaker.evaluate]
      split <;> exact fun halfOpen => by cases halfOpen)
    exact ⟨_ :: es, t', by rw [run, stepped]; exact ran, left⟩

/-- A HALF_OPEN rail can be left only through a call in flight that read it as CLOSED, or is
about to write another state: from any other state of the service, it stays HALF_OPEN
for good. -/
theorem half_open_left_iff (d : Deployment) (k : String) (epoch : 0 < begun)
    (ran : run (serviceStep d) { clock := begun } es = some s)
    (halfOpen : storedState (s.breakers k) = .halfOpen) :
    (∃ fs t, run (serviceStep d) s fs = some t ∧
        (storedState (t.breakers k) = .closed ∨ storedState (t.breakers k) = .open)) ↔
      ∃ call, InFlight s k call ∧ Rescues call := by
  have free := run_probe_free epoch ran
  have elsewhere : ∀ state : GatewayHealthState, state = .closed ∨ state = .open ↔ state ≠ .halfOpen := by
    intro state
    cases state <;> simp
  simp only [elsewhere]
  constructor
  · rintro ⟨fs, t, later, left⟩
    by_contra none
    have trapped : Trapped s k := ⟨halfOpen, fun call flies rescues => none ⟨call, flies, rescues⟩⟩
    exact left (run_trapped epoch free trapped later).halfOpen
  · rintro ⟨call, flies, rescues⟩
    cases call with
    | read stats dict =>
      have ⟨caller, bank, rail, stats', phase, _⟩ := flies
      exact decide_rescues (free.held caller bank rail stats' _ phase dict rfl) flies rescues
    | writing dict result => exact set_rescues flies rescues
    | idle => exact rescues.elim
    | returned => exact rescues.elim
    | raised => exact rescues.elim

/-! ## An outage -/

/-- Sixty technical declines. -/
def declines (outcome : String) : ℕ := if outcome = "technical_decline" then 60 else 0

/-- A request that asks about one rail, undisturbed. -/
def asks (i : ℕ) (now : ℚ) (counts : String → ℕ) : List ServiceEvent :=
  [.askRequest i now "SBI" "upi" counts, .monitor (.request i) now (.act .decide),
   .monitor (.request i) now (.act .set), .monitor (.request i) now (.finish ⟨now, now, now⟩ (.ok []))]

/-- An outage opens the rail; ten minutes later it is found HALF_OPEN. -/
def outageRun : List ServiceEvent := asks 0 100 declines ++ asks 1 700 declines

def sampleService : Deployment := { md5 := fun _ => 0 }

/-- The state of the rail and whether the two requests still evaluate. -/
theorem outage_run_ends : ((run (serviceStep sampleService) { clock := 100 } outageRun).map fun s =>
      (storedState (s.breakers "cb:SBI:upi"), (s.monitors (.request 0)).evaluates,
        (s.monitors (.request 1)).evaluates)) = some (.halfOpen, false, false) := by
  decide +kernel

theorem outage_run_half_open : ∃ s, run (serviceStep sampleService) { clock := 100 } outageRun = some s ∧
    storedState (s.breakers "cb:SBI:upi") = .halfOpen ∧ ∀ caller, (s.monitors caller).evaluates = false := by
  obtain ⟨s, ran, seen⟩ := Option.map_eq_some_iff.mp outage_run_ends
  obtain ⟨halfOpen, first, second⟩ : storedState (s.breakers "cb:SBI:upi") = .halfOpen ∧
      (s.monitors (.request 0)).evaluates = false ∧ (s.monitors (.request 1)).evaluates = false := by
    simpa only [Prod.mk.injEq] using seen
  refine ⟨s, ran, halfOpen, ?_⟩
  intro other
  by_cases asked : other = .request 0 ∨ other = .request 1
  · rcases asked with rfl | rfl
    · exact first
    · exact second
  · have untouched := run_others other (by
      intro e listed
      have named : caller e = some (.request 0) ∨ caller e = some (.request 1) := by
        simp only [outageRun, asks, List.cons_append, List.nil_append, List.mem_cons, List.not_mem_nil,
          or_false] at listed
        rcases listed with rfl | rfl | rfl | rfl | rfl | rfl | rfl | rfl <;> simp [caller]
      intro same
      rw [same] at named
      exact asked (named.imp Option.some.inj Option.some.inj)) ran
    rw [untouched]
    rfl

theorem half_open_left_iff_outage : ∃ s, run (serviceStep sampleService) { clock := 100 } outageRun = some s ∧
    ((∃ fs t, run (serviceStep sampleService) s fs = some t ∧
        (storedState (t.breakers "cb:SBI:upi") = .closed ∨ storedState (t.breakers "cb:SBI:upi") = .open)) ↔
      ∃ call, InFlight s "cb:SBI:upi" call ∧ Rescues call) := by
  obtain ⟨s, ran, halfOpen, _⟩ := outage_run_half_open
  exact ⟨s, ran, half_open_left_iff sampleService "cb:SBI:upi" (by norm_num) ran halfOpen⟩

/-- Every HALF_OPEN rail can be taken to CLOSED or back to OPEN. -/
def NeverTrapped (d : Deployment) : Prop :=
  ∀ begun es s k, 0 < begun → run (serviceStep d) { clock := begun } es = some s →
    storedState (s.breakers k) = .halfOpen →
    ∃ fs t, run (serviceStep d) s fs = some t ∧
      (storedState (t.breakers k) = .closed ∨ storedState (t.breakers k) = .open)

theorem half_open_trapped : ¬ NeverTrapped sampleService := by
  intro never
  obtain ⟨s, ran, halfOpen, ended⟩ := outage_run_half_open
  obtain ⟨fs, t, later, left⟩ := never 100 outageRun s "cb:SBI:upi" (by norm_num) ran halfOpen
  have trapped : Trapped s "cb:SBI:upi" := by
    refine ⟨halfOpen, ?_⟩
    rintro call ⟨caller, bank, rail, stats, phase, _⟩
    have idle := ended caller
    rw [phase] at idle
    cases idle
  have stays := (run_trapped (by norm_num) (run_probe_free (by norm_num) ran) trapped later).halfOpen
  rw [stays] at left
  rcases left with closed | isOpen
  · cases closed
  · cases isOpen

end RevenueGuard.HalfOpenProofs
