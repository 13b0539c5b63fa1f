import RevenueGuard.PolicyProofs
import RevenueGuard.Service
import RevenueGuard.SystemProofs

/-!
The circuit between the gateway monitor and the workers, whatever the other parties do meanwhile.

A worker decides with the answer of one call of `get_unified_health`, which reads the breaker,
decides, may write, and asks for downtimes, each in a step of its own.  `answers_told` takes every
graph run back to that call.  `circuit_respected` says what follows for the treatment arm: where the
call found the rail OPEN before the end of its cool-down, or a downtime of it, the run leaves the
customer and the gateway alone.  The only other runs are those whose call failed, for which
`enrich_with_health` takes a healthy rail for granted.
-/

namespace RevenueGuard.CircuitProofs

open Library Library.Runs Library.ReadModifyWrite GraphProofs PolicyProofs SystemProofs CircuitBreaker

variable {d : Deployment} {begun now : ℚ} {s s' : Service} {system t : System} {e : ServiceEvent}
  {es fs : List ServiceEvent} {v w : ℕ} {rows : LoadedRows} {bank rail : String} {read : Option StateDict}
  {downtimes : Except String (List Json)} {result : Except String GatewayHealthSnapshot} {x : GraphRun}

/-! ## The call of a worker -/

/-- The bank and the rail that a graph run asks about. -/
def AsksAbout (rows : LoadedRows) (bank rail : String) : Prop :=
  ∃ state, buildState rows.case rows.approval = .ok state ∧ bank = bankOf state.caseData ∧
    rail = railOf state.caseData

/-- A worker has begun its call, and its GET has read this of the breaker. -/
def Asked (d : Deployment) (begun : ℚ) (es : List ServiceEvent) (w : ℕ) (rows : LoadedRows) (bank rail : String)
    (read : Option StateDict) : Prop :=
  AsksAbout rows bank rail ∧ ∃ before asked counts after s, es = before ++ .askWorker w asked counts :: after ∧
    run (serviceStep d) { clock := begun } before = some s ∧ s.system.workers w = .gated rows ∧
    s.breakers (key bank rail) = read

/-- The call has decided what the breaker's state is. -/
def Decided (d : Deployment) (begun : ℚ) (es : List ServiceEvent) (w : ℕ) (rows : LoadedRows)
    (bank rail : String) (read : Option StateDict) (now : ℚ) : Prop :=
  ∃ before after, es = before ++ .monitor (.worker w) now (.act .decide) :: after ∧
    Asked d begun before w rows bank rail read

/-- The call has come back, with these downtimes. -/
def Finished (d : Deployment) (begun : ℚ) (es : List ServiceEvent) (w : ℕ) (rows : LoadedRows)
    (bank rail : String) (read : Option StateDict) (now : ℚ) (downtimes : Except String (List Json)) : Prop :=
  ∃ before after finished clock,
    es = before ++ .monitor (.worker w) finished (.finish clock downtimes) :: after ∧
      Decided d begun before w rows bank rail read now

/-- The call has failed. -/
def Failed (d : Deployment) (begun : ℚ) (es : List ServiceEvent) (w : ℕ) (rows : LoadedRows) (exc : String) :
    Prop :=
  ∃ before after failed bank rail read, es = before ++ .monitor (.worker w) failed (.fail exc) :: after ∧
    Asked d begun before w rows bank rail read

theorem asked_later (asked : Asked d begun es w rows bank rail read) :
    Asked d begun (es ++ fs) w rows bank rail read := by
  obtain ⟨about, before, time, counts, after, s, rfl, rest⟩ := asked
  exact ⟨about, before, time, counts, after ++ fs, s, by simp, rest⟩

theorem decided_later (decided : Decided d begun es w rows bank rail read now) :
    Decided d begun (es ++ fs) w rows bank rail read now := by
  obtain ⟨before, after, rfl, asked⟩ := decided
  exact ⟨before, after ++ fs, by simp, asked⟩

theorem finished_later (finished : Finished d begun es w rows bank rail read now downtimes) :
    Finished d begun (es ++ fs) w rows bank rail read now downtimes := by
  obtain ⟨before, after, time, clock, rfl, decided⟩ := finished
  exact ⟨before, after ++ fs, time, clock, by simp, decided⟩

theorem failed_later {exc : String} (failed : Failed d begun es w rows exc) :
    Failed d begun (es ++ fs) w rows exc := by
  obtain ⟨before, after, time, bank, rail, read, rfl, asked⟩ := failed
  exact ⟨before, after ++ fs, time, bank, rail, read, by simp, asked⟩

/-! ## What blocks a rail -/

/-- The breaker is OPEN, and its cool-down has not passed. -/
structure Cooling (now : ℚ) (dict : StateDict) : Prop where
  state : dict.state = some GatewayHealthState.open.value
  time : ∃ opened cooldown, dict.openedAt = some opened ∧ dict.cooldownSeconds = some cooldown ∧ opened ≠ 0 ∧
    cooldown ≠ 0 ∧ now < opened + cooldown

/-- The call has found the rail closed off, by the breaker or by the processor. -/
def Blocked (bank rail : String) (read : Option StateDict) (now : ℚ)
    (downtimes : Except String (List Json)) : Prop :=
  (∃ dict, read = some dict ∧ Cooling now dict) ∨
    ∃ items, downtimes = .ok items ∧ ∃ item ∈ items, DowntimeMonitor.downtimeMatches item bank rail = true

theorem evaluate_cooling {cfg : BreakerConfig} {stats : GatewayStats} {dict : StateDict}
    (cooling : Cooling now dict) :
    evaluateState cfg stats now dict = .ok (none, .open) := by
  obtain ⟨state, opened, cooldown, openedAt, cooldownSeconds, dated, positive, within⟩ := cooling
  have early : ¬ now - opened ≥ (cooldown : ℚ) := by
    intro passed
    linarith
  simp only [evaluateState, state, Option.getD_some, GatewayHealthState.value, GatewayHealthState.ofValue,
    openedAt, cooldownSeconds, numOr, dated, positive, ↓reduceIte, early, Raises.ok_bind]
  rfl

/-- A snapshot is OPEN where the evaluation says so, and where a downtime is reported. -/
theorem unified_open {internal : GatewayHealthSnapshot} (blocked : internal.state = .open ∨
    ∃ items, downtimes = .ok items ∧ ∃ item ∈ items, DowntimeMonitor.downtimeMatches item bank rail = true) :
    (DowntimeMonitor.unifiedHealth internal bank rail downtimes).state = .open := by
  unfold DowntimeMonitor.unifiedHealth
  rcases blocked with opened | ⟨items, rfl, item, listed, matching⟩
  · dsimp only
    split_ifs
    · rfl
    · exact opened
  · rw [if_pos (List.any_eq_true.mpr ⟨item, listed, matching⟩)]
    rfl

/-! ## What a worker knows -/

/-- What the answer of a call tells the worker that made it. -/
inductive Told (d : Deployment) (begun : ℚ) (es : List ServiceEvent) (w : ℕ) (rows : LoadedRows) :
    Except String GatewayHealthSnapshot → Prop where
  | failed {exc : String} : Failed d begun es w rows exc → Told d begun es w rows (.error exc)
  | answered {snapshot : GatewayHealthSnapshot} {bank rail : String} {read : Option StateDict} {now : ℚ}
      {downtimes : Except String (List Json)} : Finished d begun es w rows bank rail read now downtimes →
      (Blocked bank rail read now downtimes → snapshot.state = .open) → Told d begun es w rows (.ok snapshot)

theorem told_later (told : Told d begun es w rows result) : Told d begun (es ++ fs) w rows result := by
  cases told with
  | failed failed => exact .failed (failed_later failed)
  | answered finished opened => exact .answered (finished_later finished) opened

/-- What an evaluation in progress holds. -/
def CallHolds (d : Deployment) (begun : ℚ) (es : List ServiceEvent) (w : ℕ) (rows : LoadedRows)
    (bank rail : String) (read : Option StateDict) : Phase StateDict GatewayStats GatewayHealthState → Prop
  | .read _ value => ∀ dict, read = some dict → value = dict
  | .writing _ state | .returned _ state => ∃ now, Decided d begun es w rows bank rail read now ∧
      ∀ dict, read = some dict → Cooling now dict → state = .open
  | .idle => False
  | .raised _ => True

/-- What the call of a worker holds: it is about the rows of the graph run that the worker is in. -/
def Holds (d : Deployment) (begun : ℚ) (es : List ServiceEvent) (system : System) (w : ℕ) : MonitorPhase → Prop
  | .idle => True
  | .evaluating bank rail _ call => ∃ rows read, system.workers w = .gated rows ∧
      Asked d begun es w rows bank rail read ∧ CallHolds d begun es w rows bank rail read call
  | .answered result => ∃ rows, system.workers w = .gated rows ∧ Told d begun es w rows result

theorem call_holds_later {call : Phase StateDict GatewayStats GatewayHealthState}
    (holds : CallHolds d begun es w rows bank rail read call) :
    CallHolds d begun (es ++ fs) w rows bank rail read call := by
  cases call with
  | writing | returned =>
    obtain ⟨now, decided, opened⟩ := holds
    exact ⟨now, decided_later decided, opened⟩
  | _ => exact holds

/-- A call holds what it held, as long as its worker stays in the graph run. -/
theorem holds_later {phase : MonitorPhase} (holds : Holds d begun es system w phase)
    (stays : ∀ rows, system.workers w = .gated rows → t.workers w = .gated rows) :
    Holds d begun (es ++ fs) t w phase := by
  cases phase with
  | idle => trivial
  | evaluating =>
    obtain ⟨rows, read, gated, asked, call⟩ := holds
    exact ⟨rows, read, stays rows gated, asked_later asked, call_holds_later call⟩
  | answered =>
    obtain ⟨rows, gated, told⟩ := holds
    exact ⟨rows, stays rows gated, told_later told⟩

structure Knows (d : Deployment) (begun : ℚ) (es : List ServiceEvent) (s : Service) : Prop where
  calls : ∀ w, Holds d begun es s.system w (s.monitors (.worker w))
  decided : ∀ w rows decision clock state, s.system.workers w = .decided rows decision clock state →
    Told d begun es w rows decision.unifiedHealth
  recorded : ∀ x ∈ s.system.runs, ∃ w, Told d begun es w x.rows x.decision.unifiedHealth

/-! ## Steps of the system -/

/-- The steps with which a worker leaves the decision part of its graph run. -/
def leaves : Event → Option ℕ
  | .worker w (.decide _ _) | .worker w .raise | .worker w .crash => some w
  | _ => none

theorem gated_stays {e : Event} (stepped : step d system e = some t) (gated : system.workers w = .gated rows)
    (stays : leaves e ≠ some w) : t.workers w = .gated rows := by
  by_cases mine : ∃ moved, e = .worker w moved
  · obtain ⟨moved, rfl⟩ := mine
    cases step_cases stepped with
    | worker moved =>
      cases moved with
      | decide | decideFails | raise | crash => exact absurd rfl stays
      | pop phase | popLost phase | missing phase | load phase | gate phase | finish phase | finishFails phase
      | persist phase | persistFails phase | recordFailure phase => rw [gated] at phase; cases phase
  · rw [workers_other stepped fun moved same => mine ⟨moved, same⟩]
    exact gated

/-- A worker decides with what it gets in the step that does so. -/
theorem decided_step {e : Event} {decision : DecisionInputs} {clock : PolicyClock} {state : RecoveryState}
    (stepped : step d system e = some t) (decided : t.workers w = .decided rows decision clock state) :
    system.workers w = .decided rows decision clock state ∨
      e = .worker w (.decide decision clock) ∧ system.workers w = .gated rows := by
  by_cases mine : ∃ moved, e = .worker w moved
  · obtain ⟨moved, rfl⟩ := mine
    cases step_cases stepped with
    | worker moved =>
      cases moved with
      | decide gated =>
        simp only [tick_workers, set_worker_workers, Function.update_self] at decided
        cases decided
        exact .inr ⟨rfl, gated⟩
      | popLost idle =>
        simp only [tick_workers, idle] at decided
        cases decided
      | _ => simp at decided
  · rw [workers_other stepped fun moved same => mine ⟨moved, same⟩] at decided
    exact .inl decided

/-- A step of the system keeps what is known, where a worker decides with the answer of its call and
ends the call with its graph run. -/
theorem knows_system {moved : Event} (known : Knows d begun es s)
    (stepped : step d s.system moved = some s'.system)
    (calls : ∀ w, s'.monitors (.worker w) = .idle ∨
      s'.monitors (.worker w) = s.monitors (.worker w) ∧ leaves moved ≠ some w)
    (answered : ∀ w decision clock, moved = .worker w (.decide decision clock) →
      s.monitors (.worker w) = .answered decision.unifiedHealth) : Knows d begun (es ++ fs) s' := by
  have decidedNow : ∀ w rows decision clock state, s.system.workers w = .decided rows decision clock state →
      Told d begun (es ++ fs) w rows decision.unifiedHealth :=
    fun w rows decision clock state phase => told_later (known.decided w rows decision clock state phase)
  constructor
  · intro w
    rcases calls w with ended | ⟨same, stays⟩
    · rw [ended]
      trivial
    · rw [same]
      exact holds_later (known.calls w) fun rows gated => gated_stays stepped gated stays
  · intro w rows decision clock state phase
    rcases decided_step stepped phase with before | ⟨rfl, gated⟩
    · exact decidedNow w rows decision clock state before
    · have holds := known.calls w
      rw [answered w decision clock rfl] at holds
      obtain ⟨others, same, told⟩ := holds
      cases gated.symm.trans same
      exact told_later told
  · intro x recorded
    rcases runs_step stepped with ⟨same, _⟩ | ⟨w, rows, decision, clock, state, finish, _, phase, grown⟩
    · rw [same] at recorded
      obtain ⟨w, told⟩ := known.recorded x recorded
      exact ⟨w, told_later told⟩
    · rw [grown] at recorded
      rcases List.mem_append.mp recorded with old | new
      · obtain ⟨w, told⟩ := known.recorded x old
        exact ⟨w, told_later told⟩
      · cases List.mem_singleton.mp new
        exact ⟨w, decidedNow w rows decision clock state phase⟩

theorem step_system {moved : Event} (known : Knows d begun es s) (stepped : s.stepSystem d moved = some s') :
    Knows d begun (es ++ fs) s' := by
  have ended (v : ℕ) (system : System) (w : ℕ) (left : leaves moved = some v) :
      ({ s with system }.setMonitor (.worker v) .idle).monitors (.worker w) = .idle ∨
        ({ s with system }.setMonitor (.worker v) .idle).monitors (.worker w) = s.monitors (.worker w) ∧
          leaves moved ≠ some w := by
    by_cases same : w = v
    · subst same
      exact .inl (Function.update_self ..)
    · refine .inr ⟨Function.update_of_ne (fun equal => same (Caller.worker.inj equal)) _ _, fun mine => ?_⟩
      exact same (Option.some.inj (mine.symm.trans left))
  unfold Service.stepSystem at stepped
  split at stepped
  · split at stepped
    · rename_i result answer
      obtain ⟨system, moved, rfl⟩ := Option.map_eq_some_iff.mp stepped
      refine knows_system known moved (fun w => ended _ system w rfl) ?_
      rintro w decision clock same
      cases same
      exact answer
    · cases stepped
  · obtain ⟨system, moved, rfl⟩ := Option.map_eq_some_iff.mp stepped
    exact knows_system known moved (fun w => ended _ system w rfl) fun _ _ _ same => by cases same
  · obtain ⟨system, moved, rfl⟩ := Option.map_eq_some_iff.mp stepped
    exact knows_system known moved (fun w => ended _ system w rfl) fun _ _ _ same => by cases same
  · rename_i noDecision noRaise noCrash
    obtain ⟨system, ran, rfl⟩ := Option.map_eq_some_iff.mp stepped
    have none : leaves moved = none := by
      unfold leaves
      split
      · exact absurd rfl (noDecision _ _ _)
      · exact absurd rfl (noRaise _)
      · exact absurd rfl (noCrash _)
      · rfl
    refine knows_system known ran (fun w => .inr ⟨rfl, fun left => by cases none.symm.trans left⟩) ?_
    rintro w decision clock rfl
    cases none

/-! ## Steps of a call -/

/-- A step of a call keeps what is known, where the call holds what it has to. -/
theorem knows_call {caller : Caller} {phase : MonitorPhase} (known : Knows d begun es s)
    (same : s'.system = s.system) (monitors : s'.monitors = Function.update s.monitors caller phase)
    (holds : ∀ w, caller = .worker w → Holds d begun (es ++ fs) s.system w phase) :
    Knows d begun (es ++ fs) s' := by
  constructor
  · intro w
    rw [monitors, same]
    by_cases mine : caller = .worker w
    · subst mine
      rw [Function.update_self]
      exact holds w rfl
    · rw [Function.update_of_ne (Ne.symm mine)]
      exact holds_later (known.calls w) fun _ gated => gated
  · intro w rows decision clock state decided
    rw [same] at decided
    exact told_later (known.decided w rows decision clock state decided)
  · intro x recorded
    rw [same] at recorded
    obtain ⟨w, told⟩ := known.recorded x recorded
    exact ⟨w, told_later told⟩

/-- The decision on what the GET has read. -/
theorem call_decides {stats : GatewayStats} {value : StateDict} {after : List ServiceEvent}
    (asked : Asked d begun es w rows bank rail read) (held : ∀ dict, read = some dict → value = dict) :
    CallHolds d begun (es ++ .monitor (.worker w) now (.act .decide) :: after) w rows bank rail read
      (decided value ((evaluateCall {}).decide stats now value)) := by
  have decidedNow :
      Decided d begun (es ++ .monitor (.worker w) now (.act .decide) :: after) w rows bank rail read now :=
    ⟨es, after, rfl, asked⟩
  have opened : ∀ dict, read = some dict → Cooling now dict →
      (evaluateCall {}).decide stats now value = .ok (none, .open) := by
    intro dict there cooling
    rw [held dict there]
    exact evaluate_cooling cooling
  generalize (evaluateCall {}).decide stats now value = decision at opened
  match decision with
  | .error exc => trivial
  | .ok (none, state) =>
    refine ⟨now, decidedNow, fun dict there cooling => ?_⟩
    cases opened dict there cooling
    rfl
  | .ok (some new, state) =>
    refine ⟨now, decidedNow, fun dict there cooling => ?_⟩
    cases opened dict there cooling

/-- An action of a call, on its rail. -/
theorem act_shape {caller : Caller} {stats : GatewayStats}
    {call : Phase StateDict GatewayStats GatewayHealthState}
    {action : Action GatewayStats} (stepped : s.act caller now bank rail stats call action = some s') :
    ∃ stored call', act (evaluateCall {}) now (s.breakers (key bank rail)) call action = some (stored, call') ∧
      s'.system = s.system ∧
      s'.monitors = Function.update s.monitors caller (.evaluating bank rail stats call') := by
  obtain ⟨⟨stored, call'⟩, acted, rfl⟩ := Option.map_eq_some_iff.mp stepped
  exact ⟨stored, call', acted, rfl, rfl⟩

/-- One action of an evaluation that has begun. -/
theorem call_acts {call call' : Phase StateDict GatewayStats GatewayHealthState}
    {action : Action GatewayStats} {stored stored' : Option StateDict}
    (asked : Asked d begun es w rows bank rail read) (holds : CallHolds d begun es w rows bank rail read call)
    (acted : act (evaluateCall {}) now stored call action = some (stored', call')) :
    CallHolds d begun (es ++ [.monitor (.worker w) now (.act action)]) w rows bank rail read call' := by
  cases act_cases acted with
  | get => exact holds.elim
  | decide => exact call_decides asked holds
  | set =>
    obtain ⟨time, decided, opened⟩ := holds
    exact ⟨time, decided_later decided, opened⟩
  | abort => trivial

theorem step_ask (ran : run (serviceStep d) { clock := begun } es = some s) (known : Knows d begun es s)
    {counts : String → ℕ} (stepped : s.askWorker w now counts = some s') :
    Knows d begun (es ++ [.askWorker w now counts]) s' := by
  unfold Service.askWorker at stepped
  split at stepped
  · rename_i rows gated _
    split at stepped
    · rename_i state built
      obtain ⟨stored, call, acted, system, monitors⟩ := act_shape stepped
      refine knows_call known system monitors fun v same => ?_
      cases same
      refine ⟨rows, s.breakers (key (bankOf state.caseData) (railOf state.caseData)), gated,
        ⟨⟨state, built, rfl, rfl⟩, es, now, counts, [], s, rfl, ran, gated, rfl⟩, ?_⟩
      cases act_cases acted with
      | get =>
        intro dict there
        rw [there, Option.getD_some]
    · cases stepped
  · cases stepped

theorem step_call {caller : Caller} {moved : MonitorEvent} (known : Knows d begun es s)
    (stepped : s.stepMonitor caller now moved = some s') :
    Knows d begun (es ++ [.monitor caller now moved]) s' := by
  unfold Service.stepMonitor at stepped
  split at stepped
  · rename_i bank rail stats call action phase
    obtain ⟨stored, call', acted, system, monitors⟩ := act_shape stepped
    refine knows_call known system monitors fun w same => ?_
    subst same
    have holds := known.calls w
    rw [phase] at holds
    obtain ⟨rows, read, gated, asked, held⟩ := holds
    exact ⟨rows, read, gated, asked_later asked, call_acts asked held acted⟩
  · rename_i bank rail stats dict state clock downtimes phase
    cases stepped
    refine knows_call known rfl rfl fun w same => ?_
    subst same
    have holds := known.calls w
    rw [phase] at holds
    obtain ⟨rows, read, gated, _, time, decided, opened⟩ := holds
    refine ⟨rows, gated, .answered ⟨es, [], now, clock, rfl, decided⟩ fun blocked => unified_open ?_⟩
    rcases blocked with ⟨found, there, cooling⟩ | reported
    · exact .inl (opened found there cooling)
    · exact .inr reported
  · rename_i bank rail stats call exc phase
    cases stepped
    refine knows_call known rfl rfl fun w same => ?_
    subst same
    have holds := known.calls w
    rw [phase] at holds
    obtain ⟨rows, read, gated, asked, _⟩ := holds
    exact ⟨rows, gated, .failed ⟨es, [], now, bank, rail, read, rfl, asked⟩⟩
  · cases stepped

theorem knows_step (ran : run (serviceStep d) { clock := begun } es = some s) (known : Knows d begun es s)
    (stepped : serviceStep d s e = some s') : Knows d begun (es ++ [e]) s' := by
  cases e with
  | system moved => exact step_system known stepped
  | askRequest i now bank rail counts =>
    obtain ⟨_, asked⟩ := Option.ite_none_right_eq_some.mp stepped
    obtain ⟨_, _, _, system, monitors⟩ := act_shape asked
    exact knows_call known system monitors fun w other => by cases other
  | askWorker w now counts =>
    obtain ⟨_, asked⟩ := Option.ite_none_right_eq_some.mp stepped
    exact step_ask ran known asked
  | monitor caller now moved =>
    obtain ⟨_, moved⟩ := Option.ite_none_right_eq_some.mp stepped
    exact step_call known moved
  | advance now =>
    obtain ⟨_, advanced⟩ := Option.ite_none_right_eq_some.mp stepped
    cases advanced
    exact
      { calls := fun w => holds_later (known.calls w) fun _ gated => gated
        decided := fun w rows decision clock state phase =>
          told_later (known.decided w rows decision clock state phase)
        recorded := fun x listed => (known.recorded x listed).imp fun _ => told_later }

/-- Every graph run decided with the answer of a call that its worker made for it. -/
theorem answers_told (ran : run (serviceStep d) { clock := begun } es = some s) : Knows d begun es s :=
  run_history (P := Knows d begun)
    { calls := fun _ => by trivial
      decided := fun _ _ _ _ _ phase => by cases phase
      recorded := fun _ listed => by cases listed }
    (fun _ _ _ _ ranBefore known stepped => knows_step ranBefore known stepped) ran

/-! ## The circuit -/

/-- A treatment case under an open circuit is left alone. -/
theorem open_suppresses {snapshot : GatewayHealthSnapshot}
    (treatment : assignExperimentArm d.md5 x.rows.case.caseId d.settings.experimentVariantPct = .ok .treatment)
    (answer : x.decision.unifiedHealth = .ok snapshot) (opened : snapshot.state = .open) :
    SuppressesContact (x.outcome d) := by
  have spared : ∀ built proposed actionType, buildState x.rows.case x.rows.approval = .ok built →
      propose d x.decision built = .ok proposed → Passed d x.clock x.finish proposed actionType →
      actionType ∉ PolicyEngine.contactOrRetryActions := by
    intro built proposed actionType rebuilding proposing passed contacts
    obtain ⟨control, _⟩ := baseline_retries_of_passed answer opened rebuilding proposing passed contacts
    cases control.symm.trans treatment
  constructor
  · rw [List.eq_nil_iff_forall_not_mem]
    intro call called
    obtain ⟨built, proposed, rebuilding, proposing, passed, _⟩ := called_from called
    exact spared built proposed .paymentLink rebuilding proposing passed (by decide)
  · intro result returned action executed
    obtain ⟨built, proposed, rebuilding, proposing, passed, _⟩ := executed_from returned executed
    exact spared built proposed action.actionType rebuilding proposing passed

/-- Every graph run of a treatment case decided with the answer of its own call; where the call found
the circuit of the case's rail OPEN and cooling, or a downtime of it, the run asked for no payment and
contacted nobody.  Only a call that failed says nothing. -/
theorem circuit_respected (ran : run (serviceStep d) { clock := begun } es = some s)
    (recorded : x ∈ s.system.runs)
    (treatment : assignExperimentArm d.md5 x.rows.case.caseId d.settings.experimentVariantPct = .ok .treatment) :
    ∃ w, (∃ exc, Failed d begun es w x.rows exc) ∨
      ∃ bank rail read now downtimes, Finished d begun es w x.rows bank rail read now downtimes ∧
        (Blocked bank rail read now downtimes → SuppressesContact (x.outcome d)) := by
  obtain ⟨w, told⟩ := (answers_told ran).recorded x recorded
  refine ⟨w, ?_⟩
  generalize answer : x.decision.unifiedHealth = result at told
  cases told with
  | failed failed => exact .inl ⟨_, failed⟩
  | answered finished opened =>
    exact .inr ⟨_, _, _, _, _, finished, fun blocked => open_suppresses treatment answer (opened blocked)⟩

/-- Sixty technical declines. -/
def declined (outcome : String) : ℕ := if outcome = "technical_decline" then 60 else 0

/-- A treatment case is under way when its rail trips; five minutes later its worker asks, and defers. -/
def trippedRun : List ServiceEvent :=
  (sampleIntake 0 "00000007" 250000 ++ [Event.request 0 (.push .delivered), Event.worker 0 .pop,
    Event.worker 0 .load, Event.worker 0 (.gate 0)]).map ServiceEvent.system ++
  [.askRequest 0 100 "unknown" "unknown" declined, .monitor (.request 0) 100 (.act .decide),
   .monitor (.request 0) 100 (.act .set), .askWorker 0 400 declined,
   .monitor (.worker 0) 400 (.act .decide), .monitor (.worker 0) 400 (.finish ⟨400, 400, 400⟩ (.ok [])),
   .system (.worker 0 (.decide (sampleDecision .closed "payment_link") (sampleClock 1788501600000000))),
   .system (.worker 0 (.finish (sampleFinish 1788501600000000 "action-1")))]

/-- The case of a graph run, and the types of the actions it executed. -/
def executedBy (d : Deployment) (x : GraphRun) : String × Option (List ActionType) :=
  (x.rows.case.caseId, (x.outcome d).2.toOption.map fun result => result.actions.map (·.actionType))

theorem tripped_run_recorded : ((run (serviceStep sampleDeployment) { clock := 100 } trippedRun).map fun s =>
    s.system.runs.map (executedBy sampleDeployment)) = some [("REC-00000007", some [.defer])] := by
  decide +kernel

theorem circuit_respected_tripped :
    ∃ s x, run (serviceStep sampleDeployment) { clock := 100 } trippedRun = some s ∧
    s.system.runs = [x] ∧ executedBy sampleDeployment x = ("REC-00000007", some [.defer]) ∧
    ∃ w, (∃ exc, Failed sampleDeployment 100 trippedRun w x.rows exc) ∨
      ∃ bank rail read now downtimes,
        Finished sampleDeployment 100 trippedRun w x.rows bank rail read now downtimes ∧
          (Blocked bank rail read now downtimes → SuppressesContact (x.outcome sampleDeployment)) := by
  obtain ⟨s, ran, listed⟩ := Option.map_eq_some_iff.mp tripped_run_recorded
  obtain ⟨x, only, executed⟩ := List.map_eq_singleton_iff.mp listed
  have ofCase : x.rows.case.caseId = "REC-00000007" := congrArg (·.1) executed
  refine ⟨s, x, ran, only, executed, circuit_respected ran (by rw [only]; exact List.mem_singleton_self x) ?_⟩
  rw [ofCase]
  rfl

end RevenueGuard.CircuitProofs
