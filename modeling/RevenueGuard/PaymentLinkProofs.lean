import RevenueGuard.PolicyProofs
import RevenueGuard.SystemProofs

/-!
Payment-link calls over whole runs of the service.  The call is made inside the
graph run, and the idempotency key is looked up only when the run is persisted,
so nothing but the decision itself stands between two calls under one key.

`link_called_iff` says when a graph run makes a call, in terms of what it loaded
and was answered; `links_once_iff` says that no key is used twice along a run of
the service exactly when no two deliveries of a case, with the same retry count,
decide for a payment link over the same channel.
-/

namespace RevenueGuard.PaymentLinkProofs

open Library Library.Runs Library.Raises GraphProofs PolicyProofs SystemProofs

variable {d : Deployment} {decision : DecisionInputs} {case : RecoveryCase}
  {approval : Option RecoveryApproval} {channel : Option RecoveryChannel} {x : GraphRun}
  {s s' : System} {e : Event} {es : List Event} {call : PaymentLinkCall} {key : IdempotencyKey}

/-! ## The decision for a payment link -/

/-- The language model decides for a payment link, and nothing overrides it. -/
structure LinkChosen (d : Deployment) (decision : DecisionInputs) (case : RecoveryCase)
    (channel : Option RecoveryChannel) : Prop where
  scored : ∃ triage, decision.score = .ok triage
  treatment : assignExperimentArm d.md5 case.caseId d.settings.experimentVariantPct = .ok .treatment
  diagnosed : ∃ reply diagnosis, decision.diagnosisReply = .ok reply ∧
    DiagnosisResult.validate reply = .ok diagnosis
  closed : ∀ snapshot, decision.unifiedHealth = .ok snapshot → snapshot.state ≠ .open
  optedIn : ¬ (case.customerData.get "opted_out").truthy
  retries : case.retryCount < d.settings.maxRetryAttempts
  category : lower case.failureCategory ≠ "business"
  chosen : ∃ strategy, llmDecision decision.strategyReply = .ok strategy ∧
    strategy.actionType = .paymentLink ∧ strategy.channel = channel

theorem health_closed {caseData : CaseData} : (healthSnapshot decision caseData).state ≠ .open ↔
    ∀ snapshot, decision.unifiedHealth = .ok snapshot → snapshot.state ≠ .open := by
  unfold healthSnapshot
  cases decision.unifiedHealth with
  | ok snapshot => simp
  | error exc => simp [healthyDefault]

/-- The channel node leaves a payment link as it is, and makes none. -/
theorem select_channel_link {inputs : DecisionInputs} {strategized proposed : RecoveryState}
    {strategy : StrategyDecision} (held : strategized.strategy = some strategy)
    (ran : selectChannel inputs strategized = .ok proposed)
    (examined : proposed.action = some .paymentLink) :
    strategy.actionType = .paymentLink ∧ executionChannel proposed = strategy.channel := by
  cases select_channel_cases ran with
  | absent none => cases held.symm.trans none
  | other same =>
    cases held.symm.trans same
    have link : strategy.actionType = .paymentLink := by
      simpa [RecoveryState.action, held] using examined
    exact ⟨link, by simp [executionChannel, held]⟩
  | stopped _ _ _ stop => cases stop.symm.trans (Option.some.inj examined)
  | nudged _ _ _ _ mapped =>
    cases Option.some.inj examined
    exact absurd (mapped_nudge mapped) (by decide)

theorem chosen_of_proposed {built proposed : RecoveryState} (rebuilt : buildState case approval = .ok built)
    (ran : propose d decision built = .ok proposed) (examined : proposed.action = some .paymentLink) :
    LinkChosen d decision case (executionChannel proposed) := by
  have stored := build_state_ok rebuilt
  obtain ⟨enriched, arm, kept, _, health, assigned, ⟨_, rfl⟩ | ⟨rfl, diagnosed, strategized, ranDiagnose,
    ranStrategize, ranSelect⟩⟩ := propose_cases ran
  · have baseline : (baselineDecideNode enriched).strategy =
        some (baselineDecide enriched.caseData.retryCount) := rfl
    obtain ⟨retry, _⟩ := baseline_moves baseline examined (by decide)
    cases retry
  · obtain ⟨reply, diagnosis, answered, valid, shape⟩ := agent_diagnose_ok.mp ranDiagnose
    obtain ⟨strategy, decided, rfl⟩ := agent_strategize_ok.mp ranStrategize
    obtain ⟨link, channelled⟩ := select_channel_link rfl ranSelect examined
    have caseData : diagnosed.caseData = built.caseData := by rw [shape, kept.caseData]
    have seen : diagnosed.gatewayHealth = some (healthSnapshot decision built.caseData) := by
      rw [shape, health]
    unfold strategyDecision at decided
    split at decided
    · rename_i overridden
      cases decided
      have listed := override_actions overridden
      rw [link] at listed
      exact absurd listed (by decide)
    · rename_i silent
      obtain ⟨healthy, optedIn, retries, notBusiness⟩ := override_none.mp silent
      rw [caseData] at optedIn retries notBusiness
      rw [stored.customer, get_stored (by decide)] at optedIn
      rw [stored.retryCount] at retries
      rw [stored.category] at notBusiness
      have closed : (healthSnapshot decision built.caseData).state ≠ .open := by
        rw [seen] at healthy
        exact fun opened => healthy (congrArg some opened)
      exact
        { scored := propose_scored ran
          treatment := stored.caseId ▸ assigned
          diagnosed := ⟨reply, diagnosis, answered, valid⟩
          closed := health_closed.mp closed
          optedIn, retries
          category := notBusiness
          chosen := ⟨strategy, decided, link, channelled.symm⟩ }

theorem proposed_of_chosen {built : RecoveryState} (rebuilt : buildState case approval = .ok built)
    (chosen : LinkChosen d decision case channel) :
    ∃ proposed, propose d decision built = .ok proposed ∧ proposed.action = some .paymentLink ∧
      executionChannel proposed = channel := by
  have stored := build_state_ok rebuilt
  obtain ⟨triage, scored⟩ := chosen.scored
  obtain ⟨reply, diagnosis, answered, valid⟩ := chosen.diagnosed
  obtain ⟨strategy, decided, link, rfl⟩ := chosen.chosen
  have optedIn : ¬ (built.caseData.customer.get "opted_out").truthy := by
    rw [stored.customer, get_stored (by decide)]
    exact chosen.optedIn
  obtain ⟨strategized, _, held, runs⟩ := propose_decided scored (stored.caseId.symm ▸ chosen.treatment) answered
    valid (health_closed.mpr chosen.closed) optedIn (stored.retryCount.symm ▸ chosen.retries)
    (stored.category.symm ▸ chosen.category) decided
  have selected : selectChannel decision strategized =
      .ok { strategized with selectedChannel := strategy.channel } := by
    simp [selectChannel, held, link, nudgeActions]
  refine ⟨{ strategized with selectedChannel := strategy.channel }, runs.trans selected, ?_, ?_⟩
  · simp [RecoveryState.action, held, link]
  · simp [executionChannel, held]

/-! ## The calls of one graph run -/

/-- A recorded run decides for a payment link, passes the policies and has the
approval it needs, whenever it asks. -/
structure AsksForLink (d : Deployment) (x : GraphRun) (channel : Option RecoveryChannel) : Prop where
  context : ∃ context, (x.rows.case.customerData.getD contextKey (.obj [])).asDict = .ok context
  chosen : LinkChosen d x.decision x.rows.case channel
  permitted : Permitted d.settings x.clock x.rows.case .paymentLink channel
  approved : ∀ now ∈ [x.clock.approval, x.finish.execution.clock.approval],
    x.rows.case.amountPaise ≤ d.settings.highValueThreshold ∨ ApprovedAt now x.rows.approval

/-- The idempotency key of a run's payment link. -/
def linkKey (x : GraphRun) (channel : Option RecoveryChannel) : IdempotencyKey :=
  { caseId := x.rows.case.caseId, actionType := .paymentLink, channel, retryCount := x.rows.case.retryCount }

theorem link_key_of_call {proposed : RecoveryState} (rebuilt : RebuiltFrom x.rows.case approval proposed) :
    (paymentLinkCall proposed).key = linkKey x (executionChannel proposed) := by
  simp only [paymentLinkCall, idempotencyKey, linkKey, rebuilt.caseId, rebuilt.retryCount]

/-- A graph run makes at most one call. -/
theorem calls_at_most_one (x : GraphRun) : (x.outcome d).1 = [] ∨ ∃ call, (x.outcome d).1 = [call] := by
  by_cases none_ : (x.outcome d).1 = []
  · exact .inl none_
  · right
    obtain ⟨call, called⟩ := List.exists_mem_of_ne_nil _ none_
    obtain ⟨built, proposed, rebuilt, ranPropose, passed, _⟩ := called_from called
    refine ⟨paymentLinkCall proposed, ?_⟩
    rw [GraphRun.outcome, graph_run_eq rebuilt ranPropose, finish_calls passed, if_pos rfl]

/-- A graph run makes a call exactly when it asks for a payment link. -/
theorem link_called_iff : key ∈ (x.outcome d).1.map (·.key) ↔
    ∃ channel, AsksForLink d x channel ∧ key = linkKey x channel := by
  constructor
  · intro listed
    obtain ⟨call, called, rfl⟩ := List.mem_map.mp listed
    obtain ⟨built, proposed, rebuilt, ranPropose, passed, rfl⟩ := called_from called
    have stored := rebuilt_from rebuilt ranPropose
    obtain ⟨permitted, approved⟩ := (passed_iff_permitted stored passed.examined passed.notStop
      (nudge_ready_of_not_nudge (by decide))).mp passed
    exact ⟨executionChannel proposed,
      { context := build_state_returns_iff.mp ⟨built, rebuilt⟩
        chosen := chosen_of_proposed rebuilt ranPropose passed.examined
        permitted, approved },
      link_key_of_call stored⟩
  · rintro ⟨channel, asks, rfl⟩
    obtain ⟨built, rebuilt⟩ := build_state_returns_iff.mpr asks.context
    obtain ⟨proposed, ranPropose, examined, rfl⟩ := proposed_of_chosen rebuilt asks.chosen
    have stored := rebuilt_from rebuilt ranPropose
    have passed : Passed d x.clock x.finish proposed .paymentLink :=
      (passed_iff_permitted stored examined (by decide) asks.permitted.nudge).mpr
        ⟨asks.permitted, asks.approved⟩
    rw [← link_key_of_call stored]
    apply List.mem_map_of_mem
    rw [GraphRun.outcome, graph_run_eq rebuilt ranPropose, finish_calls passed, if_pos rfl]
    exact List.mem_singleton_self _

/-! ## Runs of the service -/

/-- The keys of the calls that the graph runs have made, in their order. -/
def linkKeys (d : Deployment) (runs : List GraphRun) : List IdempotencyKey :=
  runs.flatMap fun x => (x.outcome d).1.map (·.key)

/-- At most one call has been made under any key. -/
def LinksOnce (d : Deployment) (s : System) : Prop := ∀ key, (linkKeys d s.runs).count key ≤ 1

/-- Two runs of one case, with the same retry count, ask for a payment link over
the same channel. -/
def Repeats (d : Deployment) (earlier x : GraphRun) : Prop :=
  earlier.rows.case.caseId = x.rows.case.caseId ∧
    earlier.rows.case.retryCount = x.rows.case.retryCount ∧
    ∃ channel, AsksForLink d earlier channel ∧ AsksForLink d x channel

/-- A step that finishes no graph run which repeats an earlier one. -/
def FirstLink (d : Deployment) (s : System) (e : Event) : Prop :=
  ∀ w finish rows decision clock state, e = .worker w (.finish finish) →
    s.workers w = .decided rows decision clock state →
    ∀ earlier ∈ s.runs, ¬ Repeats d earlier ⟨rows, decision, clock, finish⟩

/-- Keys stay distinct exactly as long as no run repeats an earlier one. -/
theorem link_keys_nodup {runs : List GraphRun} : (linkKeys d (runs ++ [x])).Nodup ↔
    (linkKeys d runs).Nodup ∧ ∀ earlier ∈ runs, ¬ Repeats d earlier x := by
  have alone : ((x.outcome d).1.map (·.key)).Nodup := by
    rcases calls_at_most_one (d := d) x with none_ | ⟨call, one⟩
    · simp [none_]
    · simp [one]
  have split : linkKeys d (runs ++ [x]) = linkKeys d runs ++ (x.outcome d).1.map (·.key) := by
    simp [linkKeys]
  rw [split, List.nodup_append]
  constructor
  · rintro ⟨distinct, _, apart⟩
    refine ⟨distinct, ?_⟩
    rintro earlier listed ⟨sameCase, sameCount, channel, asksEarlier, asks⟩
    have old : linkKey earlier channel ∈ linkKeys d runs :=
      List.mem_flatMap.mpr ⟨earlier, listed, link_called_iff.mpr ⟨channel, asksEarlier, rfl⟩⟩
    have new : linkKey x channel ∈ (x.outcome d).1.map (·.key) := link_called_iff.mpr ⟨channel, asks, rfl⟩
    exact apart _ old _ new (by simp only [linkKey, sameCase, sameCount])
  · rintro ⟨distinct, first⟩
    refine ⟨distinct, alone, ?_⟩
    rintro key old _ new rfl
    obtain ⟨earlier, listed, called⟩ := List.mem_flatMap.mp old
    obtain ⟨channel, asksEarlier, rfl⟩ := link_called_iff.mp called
    obtain ⟨channel', asks, same⟩ := link_called_iff.mp new
    simp only [linkKey, IdempotencyKey.mk.injEq, true_and] at same
    obtain ⟨sameCase, rfl, sameCount⟩ := same
    exact first earlier listed ⟨sameCase, sameCount, channel, asksEarlier, asks⟩

theorem links_once_nodup : LinksOnce d s ↔ (linkKeys d s.runs).Nodup := List.nodup_iff_count_le_one.symm

/-- One step keeps the keys distinct exactly if it repeats no earlier link. -/
theorem links_once_step (once : LinksOnce d s) (stepped : step d s e = some s') :
    LinksOnce d s' ↔ FirstLink d s e := by
  rw [links_once_nodup] at once ⊢
  rcases runs_step stepped with ⟨same, other⟩ | ⟨w, rows, decision, clock, state, finish, rfl, phase, grown⟩
  · rw [same]
    constructor
    · intro _ w finish _ _ _ _ finishes
      exact absurd finishes (other w finish)
    · intro _
      exact once
  · rw [grown, link_keys_nodup]
    constructor
    · rintro ⟨_, first⟩ w' finish' rows' decision' clock' state' finishes phase'
      cases finishes
      cases phase.symm.trans phase'
      exact first
    · intro first
      exact ⟨once, first w finish rows decision clock state rfl phase⟩

theorem links_once_start : LinksOnce d {} := by
  intro key
  simp [linkKeys]

/-- Along a run, no key is ever used twice exactly when no step finishes a graph
run that repeats an earlier one. -/
theorem links_once_iff (ran : run (step d) {} es = some s) :
    (∀ n t, run (step d) {} (es.take n) = some t → LinksOnce d t) ↔
      Meets (step d) (FirstLink d) {} es := by
  constructor
  · intro once fs e gs shape before ranBefore
    have taken : es.take fs.length = fs := by simp [shape]
    have next : es.take (fs.length + 1) = fs ++ [e] := by simp [shape, List.take_append]
    obtain ⟨after, ranAfter⟩ := run_take ran (fs.length + 1)
    rw [next] at ranAfter
    obtain ⟨before', ranBefore', stepped⟩ := run_snoc_iff.mp ranAfter
    cases ranBefore.symm.trans ranBefore'
    have onceBefore := once fs.length before (taken.symm ▸ ranBefore)
    exact (links_once_step onceBefore stepped).mp (once (fs.length + 1) after (next.symm ▸ ranAfter))
  · intro met n t ranPart
    exact meets_invariant links_once_start
      (fun _ _ _ once first stepped => (links_once_step once stepped).mpr first) (meets_take met n) ranPart

/-- The first graph run to be finished. -/
def firstRun (s : System) : Event → Bool
  | .worker _ (.finish _) => s.runs.isEmpty
  | _ => true

/-- A single delivery of a case for which the language model wants a payment link. -/
def singleDelivery : List Event :=
  sampleIntake 0 "00000007" 250000 ++ [.request 0 (.push .delivered)] ++
    sampleProcess 0 "payment_link" 1788501600000000 "action-1"

theorem links_once_single : ∃ s, run (step sampleDeployment) {} singleDelivery = some s ∧
    s.runs.length = 1 ∧ LinksOnce sampleDeployment s := by
  obtain ⟨s, ran, recorded⟩ : ∃ s, run (step sampleDeployment) {} singleDelivery = some s ∧
      s.runs.length = 1 := ⟨_, rfl, rfl⟩
  have alone : Meets (step sampleDeployment) (fun s e => firstRun s e = true) {} singleDelivery :=
    meets_of_checks (by decide)
  have met : Meets (step sampleDeployment) (FirstLink sampleDeployment) {} singleDelivery := by
    refine meets_mono alone ?_
    rintro s _ first w finish rows decision clock state rfl _ earlier listed
    rw [List.isEmpty_iff.mp first] at listed
    cases listed
  have once := (links_once_iff ran).mpr met singleDelivery.length s (by rw [List.take_length]; exact ran)
  exact ⟨s, ran, recorded, once⟩

/-- No key is used twice in any run. -/
def NeverLinksTwice (d : Deployment) : Prop := ∀ es s, run (step d) {} es = some s → LinksOnce d s

/-- The reply to a push that went through is lost, so the case is pushed again and
delivered twice. -/
def doubleDelivery : List Event :=
  sampleIntake 0 "00000007" 250000 ++ [.request 0 (.push .failedAfter), .request 0 (.push .delivered)] ++
    sampleProcess 0 "payment_link" 1788501600000000 "action-1" ++
    sampleProcess 0 "payment_link" 1788501700000000 "action-2"

theorem link_created_twice : ¬ NeverLinksTwice sampleDeployment := by
  intro never
  obtain ⟨s, ran, keys⟩ : ∃ s, run (step sampleDeployment) {} doubleDelivery = some s ∧
      linkKeys sampleDeployment s.runs =
        [{ caseId := "REC-00000007", actionType := .paymentLink, channel := none, retryCount := 0 },
         { caseId := "REC-00000007", actionType := .paymentLink, channel := none, retryCount := 0 }] :=
    ⟨_, rfl, rfl⟩
  have once := never doubleDelivery s ran
    { caseId := "REC-00000007", actionType := .paymentLink, channel := none, retryCount := 0 }
  rw [keys] at once
  exact absurd once (by decide)

end RevenueGuard.PaymentLinkProofs
