import RevenueGuard.AggregatorProofs
import RevenueGuard.BreakerProofs

/-!
The aggregator and the breaker over one history.  The window of the statistics, 15
minutes, is longer than the first cooldown, 10 minutes, and nothing empties it when a
rail recovers: the failures that opened a rail can open it a second time.
`reopened_on_failures` bounds how long.
-/

namespace RevenueGuard.ReopenProofs

open Library Library.Backoff Library.Raises Library.Runs BreakerProofs AggregatorProofs
open CircuitBreaker (key EvaluateClock)

/-! ## Histories -/

/-- What Redis holds of the gateway monitor. -/
structure GatewayStore where
  sets : SortedSets := fun _ => {}
  breakers : String → Option StateDict := fun _ => none

/-- A call that no other call disturbs.  An evaluation takes its statistics first. -/
inductive HistoryEvent where
  | recordOutcome (bank rail outcome : String) (now : ℚ) (uuid : String)
  | recordProbeResult (bank rail : String) (success : Bool) (fresh saved : ℚ)
  | evaluate (bank rail : String) (counted : ℚ) (clock : EvaluateClock)

def historyReadings : HistoryEvent → List ℚ
  | .recordOutcome _ _ _ now _ => [now]
  | .recordProbeResult _ _ _ fresh saved => [fresh, saved]
  | .evaluate _ _ counted clock => [counted, clock.fresh, clock.now, clock.saved]

/-- The value that a call leaves under the key of its rail, or as it is where the call raises. -/
def GatewayStore.saveBreaker (s : GatewayStore) (bank rail : String) (left : Except String (Option StateDict)) :
    GatewayStore :=
  match left with
  | .error _ => s
  | .ok left => { s with breakers := Function.update s.breakers (key bank rail) left }

/-- One call, with the default parameters. -/
def historyStep (s : GatewayStore) (e : HistoryEvent) : Option GatewayStore :=
  match e with
  | .recordOutcome bank rail outcome now uuid =>
    match Aggregator.recordOutcome bank rail outcome now uuid s.sets with
    | .error _ => some s
    | .ok sets => some { s with sets }
  | .recordProbeResult bank rail success fresh saved =>
    some (s.saveBreaker bank rail
      (CircuitBreaker.recordProbeResult {} success fresh saved (s.breakers (key bank rail))))
  | .evaluate bank rail counted clock =>
    match Aggregator.getStats bank rail 15 counted s.sets with
    | .error _ => some s
    | .ok (sets, stats) =>
      some ({ s with sets }.saveBreaker bank rail
        (Prod.fst <$> CircuitBreaker.evaluate {} stats clock (s.breakers (key bank rail))))

/-- The state of a rail. -/
def GatewayStore.state (s : GatewayStore) (bank rail : String) : GatewayHealthState :=
  storedState (s.breakers (key bank rail))

variable {bank rail k : String} {s s' : GatewayStore} {e : HistoryEvent} {es : List HistoryEvent}
  {b b' : Breaker ℚ}

/-! ## What a call does -/

/-- A call leaves the breaker under a key, counts a probe for it, or evaluates it on
statistics that it has just taken. -/
inductive BreakerStep (s : GatewayStore) (e : HistoryEvent) (k : String) (b : Breaker ℚ) :
    Breaker ℚ → Prop where
  | same : BreakerStep s e k b b
  | probed (success : Bool) : BreakerStep s e k b (b.probe success)
  | evaluated {bank rail : String} {counted : ℚ} {clock : EvaluateClock} {sets : SortedSets} {stats : GatewayStats}
      (event : e = .evaluate bank rail counted clock) (named : key bank rail = k)
      (taken : Aggregator.getStats bank rail 15 counted s.sets = .ok (sets, stats)) :
      BreakerStep s e k b (b.evaluate (policy {}) (trips {} stats) clock.now)

theorem save_breaker_represents {left : Except String (Option StateDict)} (sets : SortedSets)
    (represents : Represents {} (s.breakers k) b)
    (leaves : key bank rail = k → ∃ raw, left = .ok raw ∧ Represents {} raw b')
    (elsewhere : key bank rail ≠ k → b' = b) :
    Represents {} (({ s with sets }.saveBreaker bank rail left).breakers k) b' := by
  by_cases mine : key bank rail = k
  · obtain ⟨raw, rfl, next⟩ := leaves mine
    subst mine
    simp only [GatewayStore.saveBreaker, Function.update_self]
    exact next
  · rw [elsewhere mine]
    cases left with
    | error => exact represents
    | ok raw =>
      simp only [GatewayStore.saveBreaker, Function.update_of_ne (Ne.symm mine)]
      exact represents

/-- Every call takes the breaker under a key to its next. -/
theorem step_breaker (positive : ∀ t ∈ historyReadings e, 0 < t) (represents : Represents {} (s.breakers k) b)
    (stepped : historyStep s e = some s') :
    ∃ b', Represents {} (s'.breakers k) b' ∧ BreakerStep s e k b b' := by
  cases e with
  | recordOutcome bank rail outcome now uuid =>
    simp only [historyStep] at stepped
    split at stepped
    · cases stepped
      exact ⟨b, represents, .same⟩
    · cases stepped
      exact ⟨b, represents, .same⟩
  | recordProbeResult bank rail success fresh saved =>
    cases stepped
    by_cases mine : key bank rail = k
    · refine ⟨b.probe success, ?_, .probed success⟩
      refine save_breaker_represents s.sets represents (fun _ => ?_) fun other => (other mine).elim
      subst mine
      exact record_probe_represents success fresh saved represents
    · exact ⟨b, save_breaker_represents s.sets represents (fun same => (mine same).elim) fun _ => rfl,
        .same⟩
  | evaluate bank rail counted clock =>
    simp only [historyStep] at stepped
    split at stepped
    · cases stepped
      exact ⟨b, represents, .same⟩
    · rename_i sets stats taken
      cases stepped
      by_cases mine : key bank rail = k
      · refine ⟨_, ?_, .evaluated rfl mine taken⟩
        refine save_breaker_represents sets represents (fun _ => ?_) fun other => (other mine).elim
        subst mine
        obtain ⟨left, evaluated, next⟩ := evaluate_represents stats
          (positive clock.now (by simp [historyReadings])) represents
        exact ⟨left, by rw [evaluated]; rfl, next⟩
      · exact ⟨b, save_breaker_represents sets represents (fun same => (mine same).elim) fun _ => rfl, .same⟩

/-- Every breaker of a history is represented. -/
theorem run_represents (positive : ∀ e ∈ es, ∀ t ∈ historyReadings e, 0 < t)
    (ran : run historyStep {} es = some s) (k : String) : ∃ b, Represents {} (s.breakers k) b := by
  refine meets_invariant (P := fun s => ∃ b, Represents {} (s.breakers k) b) ⟨.closed, .absent⟩ ?_
    (meets_of_events positive) ran
  rintro s e s' ⟨b, represents⟩ positive stepped
  obtain ⟨b', next, _⟩ := step_breaker positive represents stepped
  exact ⟨b', next⟩

/-! ## Members come from recorded outcomes -/

/-- The event recorded this member under a key. -/
def Records (k : String) (m : String × ℚ) (e : HistoryEvent) : Prop :=
  ∃ bank rail outcome uuid, e = .recordOutcome bank rail outcome m.2 uuid ∧ outcome ∈ Aggregator.outcomes ∧
    ∃ w ∈ Aggregator.windows, k = Aggregator.key bank rail w outcome

theorem save_breaker_sets (left : Except String (Option StateDict)) :
    (s.saveBreaker bank rail left).sets = s.sets := by
  cases left <;> rfl

theorem step_member {m : String × ℚ} (stepped : historyStep s e = some s') (listed : m ∈ (s'.sets k).members) :
    m ∈ (s.sets k).members ∨ Records k m e := by
  cases e with
  | recordOutcome bank rail outcome now uuid =>
    simp only [historyStep] at stepped
    split at stepped
    · cases stepped
      exact .inl listed
    · rename_i recorded
      cases stepped
      rcases mem_record_outcome recorded listed with before | ⟨rfl, known, named⟩
      · exact .inl before
      · exact .inr ⟨bank, rail, outcome, uuid, rfl, known, named⟩
  | recordProbeResult =>
    cases stepped
    rw [save_breaker_sets] at listed
    exact .inl listed
  | evaluate bank rail counted clock =>
    simp only [historyStep] at stepped
    split at stepped
    · cases stepped
      exact .inl listed
    · rename_i taken
      cases stepped
      rw [save_breaker_sets] at listed
      obtain ⟨window, rfl, _⟩ := get_stats_ok taken
      exact .inl (mem_cleanup window listed).1

theorem run_member {m : String × ℚ} (ran : run historyStep {} es = some s) (listed : m ∈ (s.sets k).members) :
    ∃ e ∈ es, Records k m e := by
  refine run_history (P := fun es s => ∀ m ∈ (s.sets k).members, ∃ e ∈ es, Records k m e) ?_ ?_ ran m listed
  · intro m nothing
    cases nothing
  · intro es s e s' _ before stepped m listed
    rcases step_member stepped listed with old | new
    · obtain ⟨earlier, there, records⟩ := before m old
      exact ⟨earlier, List.mem_append_left _ there, records⟩
    · exact ⟨e, List.mem_append_right _ (List.mem_singleton.mpr rfl), new⟩

/-! ## Openings -/

theorem health_probe (success : Bool) (b : Breaker ℚ) : health (b.probe success) = health b := by
  cases b with
  | closed => rfl
  | opened => rfl
  | halfOpen => cases success <;> rfl

/-- A rail goes OPEN in an evaluation: from CLOSED because it trips, from HALF_OPEN at
level 1 or more. -/
theorem opening_cases (moved : BreakerStep s e k b b') (before : health b ≠ .open) (after : health b' = .open) :
    ∃ bank rail counted clock sets stats level, e = .evaluate bank rail counted clock ∧ key bank rail = k ∧
      Aggregator.getStats bank rail 15 counted s.sets = .ok (sets, stats) ∧ b' = .opened clock.now level ∧
      (b = .closed ∧ trips {} stats = true ∨ health b = .halfOpen ∧ 1 ≤ level) := by
  cases moved with
  | same => exact (before after).elim
  | probed success =>
    rw [health_probe] at after
    exact (before after).elim
  | @evaluated bank rail counted clock sets stats event named taken =>
    generalize evaluated : b.evaluate (policy {}) (trips {} stats) clock.now = b' at after
    cases b' with
    | closed => cases after
    | halfOpen => cases after
    | opened opened level =>
      rcases Breaker.evaluate_opens evaluated with rfl | ⟨rfl, ⟨rfl, trips⟩ | ⟨_, _, _, rfl, rfl⟩⟩
      · exact (before rfl).elim
      · exact ⟨bank, rail, counted, clock, sets, stats, level, event, named, taken, rfl, .inl ⟨rfl, trips⟩⟩
      · exact ⟨bank, rail, counted, clock, sets, stats, _, event, named, taken, rfl,
          .inr ⟨rfl, Nat.le_add_left 1 _⟩⟩

/-- An opening lasts until a reading at which it is over. -/
theorem opened_until {opened : ℚ} {level : ℕ} (positive : ∀ e ∈ es, ∀ t ∈ historyReadings e, 0 < t)
    (represents : Represents {} (s.breakers k) (.opened opened level)) (ran : run historyStep s es = some s') :
    Represents {} (s'.breakers k) (.opened opened level) ∨
      ∃ e ∈ es, ∃ t ∈ historyReadings e, opened + cooldownAt {} level ≤ t := by
  refine meets_history (P := fun es s => Represents {} (s.breakers k) (.opened opened level) ∨
    ∃ e ∈ es, ∃ t ∈ historyReadings e, opened + cooldownAt {} level ≤ t) (.inl represents) ?_
    (meets_of_events positive) ran
  intro es s e s' _ held positive stepped
  rcases held with represents | ⟨earlier, listed, passed⟩
  · obtain ⟨b', next, moved⟩ := step_breaker positive represents stepped
    cases moved with
    | same => exact .inl next
    | probed => exact .inl next
    | @evaluated bank rail counted clock sets stats event named taken =>
      rcases Breaker.evaluate_opened (policy {}) (trips {} stats) clock.now opened level with same | ⟨late, _⟩
      · rw [same] at next
        exact .inl next
      · rw [expiry_eq] at late
        refine .inr ⟨e, List.mem_append_right _ (List.mem_singleton.mpr rfl), clock.now, ?_, late⟩
        rw [event]
        simp [historyReadings]
  · exact .inr ⟨earlier, List.mem_append_left _ listed, passed⟩

/-! ## Opening again -/

/-- A technical failure recorded for a rail, as far as its key tells it from others. -/
def FailureOn (bank rail : String) (e : HistoryEvent) : Prop :=
  ∃ bank' rail' outcome now uuid, e = .recordOutcome bank' rail' outcome now uuid ∧ outcome ∈ failures ∧
    key bank' rail' = key bank rail

theorem reading_positive (forward : ClockForward (es.flatMap historyReadings)) :
    ∀ e ∈ es, ∀ t ∈ historyReadings e, 0 < t :=
  fun e listed t read => forward.1 t (List.mem_flatMap.mpr ⟨e, listed, read⟩)

theorem readings_in_order {fs : List HistoryEvent} (forward : ClockForward ((es ++ fs).flatMap historyReadings))
    {e' : HistoryEvent} {t t' : ℚ} (listed : e ∈ es) (later : e' ∈ fs) (read : t ∈ historyReadings e)
    (read' : t' ∈ historyReadings e') : t ≤ t' := by
  have sorted := forward.2
  rw [List.flatMap_append, List.pairwise_append] at sorted
  exact sorted.2.2 t (List.mem_flatMap.mpr ⟨e, listed, read⟩) t' (List.mem_flatMap.mpr ⟨e', later, read'⟩)

/-- Statistics that trip a closed breaker rest on a failure recorded in the last 15 minutes. -/
theorem trip_rests_on_failure {counted : ℚ} {sets : SortedSets} {stats : GatewayStats}
    (positive : ∀ e ∈ es, ∀ t ∈ historyReadings e, 0 < t) (ran : run historyStep {} es = some s)
    (taken : Aggregator.getStats bank rail 15 counted s.sets = .ok (sets, stats))
    (trip : trips {} stats = true) :
    ∃ e ∈ es, FailureOn bank rail e ∧ ∃ t ∈ historyReadings e, counted < t + 900 := by
  have rate : 0 < stats.technicalFailureRate := lt_trans (by norm_num) (of_decide_eq_true trip).2
  obtain ⟨outcome, failed, m, listed, young⟩ := failure_in_window taken rate
  obtain ⟨e, there, bank', rail', outcome', uuid, rfl, known', w, window, named⟩ := run_member ran listed
  have known : outcome ∈ Aggregator.outcomes := by
    simp only [failures, List.mem_cons, List.not_mem_nil, or_false] at failed
    rcases failed with rfl | rfl <;> simp [Aggregator.outcomes]
  obtain ⟨rails, _, rfl⟩ := key_inj known known' (by simp [Aggregator.windows]) window named
  refine ⟨_, there, ⟨bank', rail', outcome, m.2, uuid, rfl, failed, ?_⟩, m.2, by simp [historyReadings], ?_⟩
  · rw [breaker_key_eq, breaker_key_eq, rails]
  · have scored : 0 < m.2 := positive _ there m.2 (by simp [historyReadings])
    by_contra old
    refine young ⟨scored.le, ?_⟩
    push_cast
    linarith

/-- A rail goes OPEN at one event of a history, and from CLOSED to OPEN at a later one. -/
structure Reopens (bank rail : String) (es₁ : List HistoryEvent) (opening : HistoryEvent)
    (es₂ : List HistoryEvent) (reopening : HistoryEvent) (s₀ s₁ s₂ s₃ : GatewayStore) : Prop where
  forward : ClockForward ((es₁ ++ opening :: (es₂ ++ [reopening])).flatMap historyReadings)
  start : run historyStep {} es₁ = some s₀
  opens : historyStep s₀ opening = some s₁
  meanwhile : run historyStep s₁ es₂ = some s₂
  reopens : historyStep s₂ reopening = some s₃
  before : s₀.state bank rail ≠ .open
  opened : s₁.state bank rail = .open
  closed : s₂.state bank rail = .closed
  again : s₃.state bank rail = .open

/-- The first opening left CLOSED, and the statistics of the second are taken less than 15
minutes after it. -/
def WithinWindow (bank rail : String) (s₀ s₁ : GatewayStore) (reopening : HistoryEvent) : Prop :=
  s₀.state bank rail = .closed ∧ ∃ dict opened bank' rail' counted clock,
    s₁.breakers (key bank rail) = some dict ∧ dict.openedAt = some opened ∧
    reopening = .evaluate bank' rail' counted clock ∧ counted < opened + 900

variable {es₁ es₂ : List HistoryEvent} {opening reopening : HistoryEvent} {s₀ s₁ s₂ s₃ : GatewayStore}

/-- The first opening, and a reading before the second at which it is over. -/
theorem first_opening (reopens : Reopens bank rail es₁ opening es₂ reopening s₀ s₁ s₂ s₃) :
    ∃ bank' rail' counted clock level, opening = .evaluate bank' rail' counted clock ∧
      Represents {} (s₁.breakers (key bank rail)) (.opened clock.now level) ∧
      (s₀.state bank rail = .closed ∨ 1 ≤ level) ∧
      ∃ e ∈ es₂, ∃ t ∈ historyReadings e, clock.now + cooldownAt {} level ≤ t := by
  have positive := reading_positive reopens.forward
  obtain ⟨b₀, represents₀⟩ :=
    run_represents (fun e listed => positive e (by simp [listed])) reopens.start (key bank rail)
  obtain ⟨b₁, represents₁, moved⟩ := step_breaker (positive opening (by simp)) represents₀ reopens.opens
  have before := reopens.before
  have opened := reopens.opened
  rw [GatewayStore.state, stored_state_represents represents₀] at before
  rw [GatewayStore.state, stored_state_represents represents₁] at opened
  obtain ⟨bank', rail', counted, clock, _, _, level, event, _, _, rfl, cause⟩ :=
    opening_cases moved before opened
  refine ⟨bank', rail', counted, clock, level, event, represents₁, ?_, ?_⟩
  · rcases cause with ⟨rfl, _⟩ | ⟨_, again⟩
    · exact .inl (stored_state_represents represents₀)
    · exact .inr again
  · have positive₂ : ∀ e ∈ es₂, ∀ t ∈ historyReadings e, 0 < t := fun e listed => positive e (by simp [listed])
    refine (opened_until positive₂ represents₁ reopens.meanwhile).resolve_left ?_
    intro represents
    have closed := reopens.closed
    rw [GatewayStore.state, stored_state_represents represents] at closed
    cases closed

/-- The second opening, and a failure of the 15 minutes before its statistics. -/
theorem second_opening (reopens : Reopens bank rail es₁ opening es₂ reopening s₀ s₁ s₂ s₃) :
    ∃ bank' rail' counted clock, reopening = .evaluate bank' rail' counted clock ∧
      ∃ e ∈ es₁ ++ opening :: es₂, FailureOn bank rail e ∧ ∃ t ∈ historyReadings e, counted < t + 900 := by
  have positive := reading_positive reopens.forward
  have ran : run historyStep {} (es₁ ++ opening :: es₂) = some s₂ := by
    rw [run_append, reopens.start, Option.bind_some, run, reopens.opens, Option.bind_some, reopens.meanwhile]
  have positive' : ∀ e ∈ es₁ ++ opening :: es₂, ∀ t ∈ historyReadings e, 0 < t := by
    intro e listed
    refine positive e ?_
    rw [← List.cons_append, ← List.append_assoc]
    exact List.mem_append_left _ listed
  obtain ⟨b₂, represents₂⟩ := run_represents positive' ran (key bank rail)
  obtain ⟨b₃, represents₃, moved⟩ := step_breaker (positive reopening (by simp)) represents₂ reopens.reopens
  have closed := reopens.closed
  have again := reopens.again
  rw [GatewayStore.state, stored_state_represents represents₂] at closed
  rw [GatewayStore.state, stored_state_represents represents₃] at again
  obtain ⟨bank', rail', counted, clock, _, _, _, event, named, taken, _, cause⟩ :=
    opening_cases moved (by rw [closed]; exact fun isOpen => by cases isOpen) again
  rcases cause with ⟨_, trip⟩ | ⟨halfOpen, _⟩
  · obtain ⟨e, there, ⟨bank'', rail'', outcome, now, uuid, rfl, failed, same⟩, young⟩ :=
      trip_rests_on_failure positive' ran taken trip
    exact ⟨bank', rail', counted, clock, event, _, there,
      ⟨bank'', rail'', outcome, now, uuid, rfl, failed, same.trans named⟩, young⟩
  · rw [closed] at halfOpen
    cases halfOpen

/-- A rail that was open opens again from CLOSED only on a failure recorded after the earlier
opening, or within the window of the failures that tripped it. -/
theorem reopened_on_failures (reopens : Reopens bank rail es₁ opening es₂ reopening s₀ s₁ s₂ s₃) :
    (∃ e ∈ es₂, FailureOn bank rail e) ∨ WithinWindow bank rail s₀ s₁ reopening := by
  obtain ⟨_, _, _, clock₁, level, rfl, represents, from_, passing, there, t, read, passed⟩ :=
    first_opening reopens
  obtain ⟨bank', rail', counted, clock, rfl, failure, listed, onRail, t', read', young⟩ :=
    second_opening reopens
  have forward := reopens.forward
  rcases List.mem_append.mp listed with early | late
  · -- A failure before the first opening: the statistics reach back behind it.
    have recent : counted < clock₁.now + 900 := by
      have earlier : t' ≤ clock₁.now :=
        readings_in_order forward early List.mem_cons_self read' (by simp [historyReadings])
      linarith
    right
    refine ⟨from_.resolve_right ?_, ?_⟩
    · -- The second cooldown and every later one outlast the window.
      intro again
      have longer : (1200 : ℚ) ≤ cooldownAt {} level := by
        have doubled : (2 : ℚ) ^ 1 ≤ 2 ^ level := pow_le_pow_right₀ (by norm_num) again
        simp only [cooldownAt]
        push_cast
        linarith
      have later : t ≤ counted := by
        rw [← List.cons_append, ← List.append_assoc] at forward
        exact readings_in_order forward (by simp [there]) (List.mem_singleton.mpr rfl) read
          (by simp [historyReadings])
      linarith
    · generalize stored : s₁.breakers (key bank rail) = raw at represents
      cases represents with
      | record u b dated => exact ⟨_, clock₁.now, bank', rail', counted, clock, rfl, rfl, rfl, recent⟩
  · rcases List.mem_cons.mp late with rfl | after
    · obtain ⟨_, _, _, _, _, shape, _⟩ := onRail
      cases shape
    · exact .inl ⟨failure, after, onRail⟩

/-! ## Failures of one moment -/

/-- The 15-minute windows of a rail hold technical declines recorded at `t`, and nothing
else. -/
structure Declined (bank rail : String) (t : ℚ) (uuids : List String) (sets : SortedSets) : Prop where
  members : (sets (Aggregator.key bank rail 15 "technical_decline")).members =
    uuids.map fun uuid => (Aggregator.sixDecimals t ++ ":" ++ uuid, t)
  expiry : ∀ expiry, (sets (Aggregator.key bank rail 15 "technical_decline")).expiresAt = some expiry →
    expiry = t + 960
  others : ∀ outcome ∈ Aggregator.outcomes, outcome ≠ "technical_decline" →
    sets (Aggregator.key bank rail 15 outcome) = {}

variable {t now : ℚ} {uuids : List String} {uuid : String} {sets : SortedSets}

/-- What `record_outcome` writes has another key than the other outcomes. -/
theorem decline_key_apart {outcome : String} (known : outcome ∈ Aggregator.outcomes)
    (other : outcome ≠ "technical_decline") :
    ∀ w ∈ Aggregator.windows,
      Aggregator.key bank rail w "technical_decline" ≠ Aggregator.key bank rail 15 outcome := by
  intro w window same
  exact other (key_inj (by simp [Aggregator.outcomes]) known window (by simp [Aggregator.windows]) same).2.2.symm

theorem declined_record (declined : Declined bank rail t uuids sets) (new : uuid ∉ uuids) :
    ∃ sets', Aggregator.recordOutcome bank rail "technical_decline" t uuid sets = .ok sets' ∧
      Declined bank rail t (uuids ++ [uuid]) sets' := by
  have fifteen : (15 : ℤ) ∈ Aggregator.windows := by simp [Aggregator.windows]
  have decline : "technical_decline" ∈ Aggregator.outcomes := by simp [Aggregator.outcomes]
  refine ⟨_, if_neg (not_not.mpr decline), ?_⟩
  have scored : ¬(0 ≤ t ∧ t ≤ t - (15 : ℤ) * 60) := by
    rintro ⟨_, old⟩
    push_cast at old
    linarith
  have window : Aggregator.windows.foldl
      (Aggregator.recordWindow bank rail "technical_decline" (Aggregator.sixDecimals t ++ ":" ++ uuid) t) sets
      (Aggregator.key bank rail 15 "technical_decline") =
        { members := (sets (Aggregator.key bank rail 15 "technical_decline")).members ++
            [(Aggregator.sixDecimals t ++ ":" ++ uuid, t)]
          expiresAt := some (t + ((15 : ℤ) * 60 + 60)) } := by
    rw [record_windows_at decline fifteen]
    refine SortedSet.recorded_eq ?_ ?_ ?_ scored
    · intro expiry there
      rw [declined.expiry expiry there]
      linarith
    · intro m listed same
      rw [declined.members] at listed
      obtain ⟨earlier, there, rfl⟩ := List.mem_map.mp listed
      exact new (String.append_right_inj _ |>.mp same ▸ there)
    · intro m listed
      rw [declined.members] at listed
      obtain ⟨_, _, rfl⟩ := List.mem_map.mp listed
      exact scored
  refine ⟨?_, ?_, ?_⟩
  · rw [window, declined.members, List.map_append]
    rfl
  · intro expiry there
    rw [window] at there
    cases there
    push_cast
    ring
  · intro outcome known other
    rw [record_windows_other (decline_key_apart known other)]
    exact declined.others outcome known other

/-- Any number of declines at one moment are recorded. -/
theorem declined_run (bank rail : String) (t : ℚ) (uuids : List String) (distinct : uuids.Nodup) :
    ∃ s, run historyStep {} (uuids.map fun uuid => .recordOutcome bank rail "technical_decline" t uuid) = some s ∧
      Declined bank rail t uuids s.sets ∧ s.breakers = fun _ => none := by
  induction uuids using List.reverseRecOn with
  | nil => exact ⟨{}, rfl, ⟨rfl, (by intro _ there; cases there), fun _ _ _ => rfl⟩, rfl⟩
  | append_singleton uuids uuid ih =>
    obtain ⟨nodup, _, apart⟩ := List.nodup_append.mp distinct
    obtain ⟨s, ran, declined, untouched⟩ := ih nodup
    have new : uuid ∉ uuids := fun listed => apart uuid listed uuid (List.mem_singleton.mpr rfl) rfl
    obtain ⟨sets', recorded, next⟩ := declined_record declined new
    refine ⟨{ s with sets := sets' }, ?_, next, untouched⟩
    rw [List.map_append, List.map_singleton, run_snoc_iff]
    exact ⟨s, ran, by rw [historyStep, recorded]⟩

theorem cleanup_window_declined (declined : Declined bank rail t uuids sets) (recent : now < t + 900) :
    Declined bank rail t uuids (Aggregator.cleanupWindow bank rail 15 now sets) := by
  have fifteen : (15 : ℤ) ∈ Aggregator.windows := by simp [Aggregator.windows]
  have kept : Aggregator.cleanupWindow bank rail 15 now sets (Aggregator.key bank rail 15 "technical_decline") =
      (sets (Aggregator.key bank rail 15 "technical_decline")).withMembers
        (sets (Aggregator.key bank rail 15 "technical_decline")).members := by
    rw [cleanup_window_at (by simp [Aggregator.outcomes]) fifteen]
    refine SortedSet.removeByScore_eq ?_ ?_
    · intro expiry there
      rw [declined.expiry expiry there]
      linarith
    · intro m listed
      rw [declined.members] at listed
      obtain ⟨_, _, rfl⟩ := List.mem_map.mp listed
      rintro ⟨_, old⟩
      push_cast at old
      linarith
  refine ⟨?_, ?_, ?_⟩
  · rw [kept, SortedSet.members_withMembers]
    exact declined.members
  · intro expiry there
    rw [kept] at there
    exact declined.expiry expiry (SortedSet.expires_withMembers there)
  · intro other known apart
    rw [cleanup_window_at known fifteen, declined.others other known apart]
    rfl

/-- For 15 minutes the declines are all there is to count. -/
theorem stats_declined (declined : Declined bank rail t uuids sets) (recent : now < t + 900) :
    ∃ sets' stats, Aggregator.getStats bank rail 15 now sets = .ok (sets', stats) ∧
      Declined bank rail t uuids sets' ∧ stats.sampleSize = uuids.length ∧
      stats.technicalFailureRate = Aggregator.rate uuids.length uuids.length := by
  have next : Declined bank rail t uuids (Aggregator.cleanupWindow bank rail 15 now sets) :=
    cleanup_window_declined declined recent
  have decline : (Aggregator.cleanupWindow bank rail 15 now sets
      (Aggregator.key bank rail 15 "technical_decline")).card now = uuids.length := by
    rw [SortedSet.card, SortedSet.live_eq, next.members, List.length_map]
    intro expiry there
    rw [next.expiry expiry there]
    linarith
  have others : ∀ outcome ∈ Aggregator.outcomes, outcome ≠ "technical_decline" →
      (Aggregator.cleanupWindow bank rail 15 now sets (Aggregator.key bank rail 15 outcome)).card now = 0 := by
    intro outcome known other
    rw [next.others outcome known other]
    rfl
  have success := others "success" (by simp [Aggregator.outcomes]) (by decide)
  have business := others "business_decline" (by simp [Aggregator.outcomes]) (by decide)
  have timeout := others "timeout" (by simp [Aggregator.outcomes]) (by decide)
  refine ⟨_, _, rfl, next, ?_, ?_⟩
  · simp [Aggregator.stats, Aggregator.outcomes, decline, success, business, timeout]
  · simp [Aggregator.stats, Aggregator.outcomes, decline, success, business, timeout]

/-! ## A rail that opens again -/

theorem rate_all {n : ℕ} (some_ : 0 < n) : Aggregator.rate n n = 1 := by
  have whole : (n : ℚ) / n = 1 := div_self (by positivity)
  rw [Aggregator.rate, if_neg (Nat.pos_iff_ne_zero.mp some_), whole]
  have million : roundQuotient 1 = 1000000 := by decide +kernel
  rw [million]
  norm_num

/-- An evaluation while more than fifty declines are in the window. -/
theorem evaluate_declined (now : ℚ) {b : Breaker ℚ} (positive : 0 < now) (many : 50 < uuids.length)
    (declined : Declined bank rail t uuids s.sets) (recent : now < t + 900)
    (represents : Represents {} (s.breakers (key bank rail)) b) :
    ∃ s', historyStep s (.evaluate bank rail now ⟨now, now, now⟩) = some s' ∧
      Declined bank rail t uuids s'.sets ∧
      Represents {} (s'.breakers (key bank rail)) (b.evaluate (policy {}) true now) := by
  obtain ⟨sets', stats, taken, next, size, rate⟩ := stats_declined declined recent
  have trip : trips {} stats = true := by
    refine decide_eq_true ⟨?_, ?_⟩
    · rw [size]
      show (50 : ℤ) < uuids.length
      exact_mod_cast many
    · rw [rate, rate_all (by omega)]
      norm_num
  have clocked : 0 < (EvaluateClock.mk now now now).now := positive
  obtain ⟨left, evaluated, after⟩ := evaluate_represents stats clocked represents
  rw [trip] at after
  refine ⟨{ sets := sets', breakers := Function.update s.breakers (key bank rail) left }, ?_, next, ?_⟩
  · simp only [historyStep, taken, evaluated]
    rfl
  · simp only [Function.update_self]
    exact after

theorem probe_declined (now : ℚ) {b : Breaker ℚ} (success : Bool)
    (declined : Declined bank rail t uuids s.sets) (represents : Represents {} (s.breakers (key bank rail)) b) :
    ∃ s', historyStep s (.recordProbeResult bank rail success now now) = some s' ∧
      Declined bank rail t uuids s'.sets ∧ Represents {} (s'.breakers (key bank rail)) (b.probe success) := by
  obtain ⟨left, recorded, after⟩ := record_probe_represents success now now represents
  refine ⟨{ s with breakers := Function.update s.breakers (key bank rail) left }, ?_, declined, ?_⟩
  · simp only [historyStep, recorded]
    rfl
  · simp only [Function.update_self]
    exact after

/-- Fifty-one names. -/
def names : List String := (List.range 51).map toString

/-- The failures that open the rail: one moment of an outage. -/
def outageHistory : List HistoryEvent :=
  names.map fun uuid => .recordOutcome "SBI" "upi" "technical_decline" 1000 uuid

/-- The rail cools down for ten minutes, and two probes succeed. -/
def recovery : List HistoryEvent :=
  [.evaluate "SBI" "upi" 1600 ⟨1600, 1600, 1600⟩, .recordProbeResult "SBI" "upi" true 1600 1600,
   .recordProbeResult "SBI" "upi" true 1600 1600, .evaluate "SBI" "upi" 1600 ⟨1600, 1600, 1600⟩]

theorem recovered_rail_reopens : ∃ s₀ s₁ s₂ s₃, Reopens "SBI" "upi" outageHistory
    (.evaluate "SBI" "upi" 1000 ⟨1000, 1000, 1000⟩) recovery (.evaluate "SBI" "upi" 1601 ⟨1601, 1601, 1601⟩)
    s₀ s₁ s₂ s₃ := by
  have many : 50 < names.length := by simp [names]
  have distinct : names.Nodup := by decide +kernel
  obtain ⟨s₀, start, declined₀, untouched⟩ := declined_run "SBI" "upi" 1000 names distinct
  have closed₀ : Represents {} (s₀.breakers (key "SBI" "upi")) .closed := by
    rw [untouched]
    exact .absent
  -- The outage opens the rail, and each call of the recovery takes it on.
  obtain ⟨s₁, opens, declined₁, opened⟩ :=
    evaluate_declined 1000 (by norm_num) many declined₀ (by norm_num) closed₀
  obtain ⟨t₁, cools, declined, halfOpen⟩ :=
    evaluate_declined 1600 (by norm_num) many declined₁ (by norm_num) opened
  obtain ⟨t₂, probes, declined, probed⟩ := probe_declined 1600 true declined halfOpen
  obtain ⟨t₃, probesAgain, declined, probed⟩ := probe_declined 1600 true declined probed
  obtain ⟨s₂, closes, declined, closed⟩ :=
    evaluate_declined 1600 (by norm_num) many declined (by norm_num) probed
  obtain ⟨s₃, reopens, _, reopened⟩ :=
    evaluate_declined 1601 (by norm_num) many declined (by norm_num) closed
  have cooled : Breaker.evaluate (policy {}) true 1600 (.opened 1000 0) = .halfOpen 0 0 0 :=
    if_pos (by rw [expiry_eq]; norm_num [cooldownAt])
  have trips : Breaker.evaluate (policy {}) true 1000 .closed = .opened 1000 0 := rfl
  rw [trips] at opened halfOpen probed closed reopened
  rw [cooled] at closed reopened
  refine ⟨s₀, s₁, s₂, s₃, ?_, start, opens, ?_, reopens, ?_, ?_, ?_, ?_⟩
  · constructor <;> decide +kernel
  · simp only [recovery, run, cools, probes, probesAgain, closes, Option.bind_some]
  · rw [GatewayStore.state, stored_state_represents closed₀]
    decide
  · exact stored_state_represents opened
  · exact stored_state_represents closed
  · exact stored_state_represents reopened

theorem reopened_on_failures_recovered : (∃ e ∈ recovery, FailureOn "SBI" "upi" e) ∨
    ∃ s₀ s₁, WithinWindow "SBI" "upi" s₀ s₁ (.evaluate "SBI" "upi" 1601 ⟨1601, 1601, 1601⟩) := by
  obtain ⟨s₀, s₁, s₂, s₃, reopens⟩ := recovered_rail_reopens
  exact (reopened_on_failures reopens).imp_right fun within => ⟨s₀, s₁, within⟩

/-- A rail that was open opens again from CLOSED only on a failure recorded since. -/
def ReopensOnFailuresOnly : Prop :=
  ∀ bank rail es₁ opening es₂ reopening s₀ s₁ s₂ s₃,
    Reopens bank rail es₁ opening es₂ reopening s₀ s₁ s₂ s₃ → ∃ e ∈ es₂, FailureOn bank rail e

theorem reopened_without_failure : ¬ ReopensOnFailuresOnly := by
  intro only
  obtain ⟨s₀, s₁, s₂, s₃, reopens⟩ := recovered_rail_reopens
  obtain ⟨e, listed, _, _, _, _, _, rfl, _⟩ := only _ _ _ _ _ _ _ _ _ _ reopens
  simp [recovery] at listed

end RevenueGuard.ReopenProofs
