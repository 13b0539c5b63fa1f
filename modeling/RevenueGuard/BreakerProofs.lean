import RevenueGuard.CircuitBreaker
import RevenueGuard.Library.Backoff
import RevenueGuard.Library.Raises

/-!
What the dictionaries of the circuit breaker stand for.  `Represents` relates the
value under a key to a `Breaker`, whose states hold no more than they need, and
the operations on the dictionary refine those on the breaker: from a value that
represents one they do not raise, and leave a value that represents the next.
-/

namespace RevenueGuard.BreakerProofs

open Library Library.Backoff Library.Raises Library.Runs CircuitBreaker

variable {cfg : BreakerConfig} {stats : GatewayStats} {now u : ℚ} {b : Breaker ℚ} {raw : Option StateDict}

/-! ## The breaker a record stands for -/

/-- The policy that the parameters of a `GatewayCircuitBreaker` make. -/
def policy (cfg : BreakerConfig) : Policy ℚ :=
  { base := cfg.cooldownSeconds
    successes := cfg.probeRequiredSuccesses
    failures := max 1 (cfg.probeCount - cfg.probeRequiredSuccesses + 1) }

/-- Whether the statistics open a closed breaker. -/
def trips (cfg : BreakerConfig) (stats : GatewayStats) : Bool :=
  decide (stats.sampleSize > cfg.minSamples ∧ stats.technicalFailureRate > cfg.failureThreshold)

def health : Breaker ℚ → GatewayHealthState
  | .closed => .closed
  | .opened _ _ => .open
  | .halfOpen _ _ _ => .halfOpen

/-- The counts of the successful and of the failed probes. -/
def counts : Breaker ℚ → ℕ × ℕ
  | .halfOpen _ successes failures => (successes, failures)
  | _ => (0, 0)

def since : Breaker ℚ → Option ℚ
  | .opened since _ => some since
  | _ => none

/-- The cooldown that is on record at a level. -/
def cooldownAt (cfg : BreakerConfig) (level : ℕ) : ℤ := cfg.cooldownSeconds * 2 ^ level

/-- The dictionary for a breaker, last saved at `u`. -/
def record (cfg : BreakerConfig) (u : ℚ) (b : Breaker ℚ) : StateDict :=
  { state := some (health b).value
    updatedAt := some u
    cooldownSeconds := some (cooldownAt cfg b.level)
    probeSuccesses := some (counts b).1
    probeFailures := some (counts b).2
    openedAt := since b }

/-- An opening is dated by a clock that counts from an epoch in the past. -/
def Dated (b : Breaker ℚ) : Prop := ∀ opened, since b = some opened → 0 < opened

/-- The value under a key stands for a breaker; a missing one for a closed breaker. -/
inductive Represents (cfg : BreakerConfig) : Option StateDict → Breaker ℚ → Prop where
  | absent : Represents cfg none .closed
  | record (u : ℚ) (b : Breaker ℚ) (dated : Dated b) : Represents cfg (some (record cfg u b)) b

/-! ## Fields and fall-backs -/

theorem of_value (state : GatewayHealthState) : GatewayHealthState.ofValue state.value = .ok state := by
  cases state <;> rfl

theorem value_inj {state state' : GatewayHealthState} (same : state.value = state'.value) : state = state' := by
  have := of_value state
  rw [same, of_value] at this
  exact (Except.ok.inj this).symm

theorem num_or_cooldown (level : ℕ) :
    numOr (cooldownAt cfg level) cfg.cooldownSeconds = cooldownAt cfg level := by
  unfold numOr cooldownAt
  split
  · rename_i zero
    rcases Int.mul_eq_zero.mp zero with base | power
    · rw [base, Int.zero_mul]
    · exact absurd power (by positivity)
  · rfl

theorem num_or_pos {x y : ℚ} (positive : 0 < x) : numOr x y = x := if_neg (ne_of_gt positive)

theorem expiry_eq (since : ℚ) (level : ℕ) :
    Breaker.expiry (policy cfg) since level = since + cooldownAt cfg level := by
  simp only [Breaker.expiry, policy, cooldownAt, nsmul_eq_mul]
  push_cast
  ring

theorem new_state_closed (now : ℚ) : newState .closed now cfg.cooldownSeconds = record cfg now .closed := by
  simp [newState, record, cooldownAt, Breaker.level, health, counts, since]

theorem new_state_open (now : ℚ) (level : ℕ) :
    newState .open now (cooldownAt cfg level) = record cfg now (.opened now level) := by
  simp [newState, record, Breaker.level, health, counts, since]

theorem new_state_half_open (now : ℚ) (level : ℕ) :
    newState .halfOpen now (cooldownAt cfg level) = record cfg now (.halfOpen level 0 0) := by
  simp [newState, record, Breaker.level, health, counts, since]

/-- What `_get_state` makes of a value that stands for a breaker. -/
theorem get_state_represents (represents : Represents cfg raw b) (now : ℚ) :
    Dated b ∧ ∃ u, getState cfg raw now = record cfg u b := by
  cases represents with
  | absent => exact ⟨(by simp [Dated, since]), now, new_state_closed now⟩
  | record u _ dated => exact ⟨dated, u, rfl⟩

/-! ## `evaluate` -/

theorem dated_evaluate (positive : 0 < now) (dated : Dated b) :
    Dated (b.evaluate (policy cfg) (trips cfg stats) now) := by
  intro opened shape
  cases b with
  | closed =>
    simp only [Breaker.evaluate] at shape
    split at shape
    · cases shape
      exact positive
    · cases shape
  | opened at_ level =>
    rcases Breaker.evaluate_opened (policy cfg) (trips cfg stats) now at_ level with same | ⟨_, moved⟩
    · rw [same] at shape
      exact dated opened shape
    · rw [moved] at shape
      cases shape
  | halfOpen level successes failures =>
    simp only [Breaker.evaluate] at shape
    split at shape
    · cases shape
    · split at shape
      · cases shape
        exact positive
      · cases shape

/-- An open breaker within its cooldown is returned as open, and nothing is saved. -/
theorem evaluate_state_running {at_ : ℚ} {level : ℕ} (positive : 0 < at_)
    (running : now < at_ + cooldownAt cfg level) :
    evaluateState cfg stats now (record cfg u (.opened at_ level)) = .ok (none, .open) := by
  simp only [evaluateState, record, health, Option.getD_some, of_value, ok_bind, since, Breaker.level,
    num_or_pos positive, num_or_cooldown]
  have early : ¬ (now - at_ ≥ (cooldownAt cfg level : ℚ)) := by
    intro late
    linarith
  rw [if_neg early]
  rfl

/-- What an operation saves that takes one breaker to another: the record of the new
one, or nothing where it is the old one. -/
def Saves (cfg : BreakerConfig) (b b' : Breaker ℚ) (save : Option StateDict) : Prop :=
  save = none ∧ b' = b ∨ ∃ u, save = some (record cfg u b')

theorem saves_record {b' : Breaker ℚ} {new : StateDict} (saves : Saves cfg b b' (some new)) :
    ∃ u, new = record cfg u b' := by
  rcases saves with ⟨none, _⟩ | ⟨u, shape⟩
  · cases none
  · exact ⟨u, Option.some.inj shape⟩

/-- A closed breaker is always saved, also where it stays closed. -/
theorem evaluate_state_closed (cfg : BreakerConfig) (stats : GatewayStats) (now u : ℚ) : ∃ u',
    evaluateState cfg stats now (record cfg u .closed) =
      .ok (some (record cfg u' (Breaker.closed.evaluate (policy cfg) (trips cfg stats) now)),
        health (Breaker.closed.evaluate (policy cfg) (trips cfg stats) now)) := by
  by_cases bad : stats.sampleSize > cfg.minSamples ∧ stats.technicalFailureRate > cfg.failureThreshold
  · have opens : Breaker.evaluate (policy cfg) (trips cfg stats) now .closed = .opened now 0 := by
      simp [Breaker.evaluate, trips, bad]
    refine ⟨now, ?_⟩
    rw [opens, ← new_state_open, cooldownAt, pow_zero, mul_one]
    simp only [evaluateState, record, health, Option.getD_some, of_value, ok_bind, if_pos bad]
    rfl
  · have stays : Breaker.evaluate (policy cfg) (trips cfg stats) now .closed = .closed := by
      simp [Breaker.evaluate, trips, bad]
    refine ⟨u, ?_⟩
    rw [stays]
    simp only [evaluateState, record, health, Option.getD_some, of_value, ok_bind, if_neg bad]
    rfl

theorem evaluate_state_opened {at_ : ℚ} {level : ℕ} (u : ℚ) (positive : 0 < at_) : ∃ save,
    evaluateState cfg stats now (record cfg u (.opened at_ level)) =
      .ok (save, health (Breaker.evaluate (policy cfg) (trips cfg stats) now (.opened at_ level))) ∧
    Saves cfg (.opened at_ level) (Breaker.evaluate (policy cfg) (trips cfg stats) now (.opened at_ level))
      save := by
  by_cases running : now < at_ + cooldownAt cfg level
  · have stays : Breaker.evaluate (policy cfg) (trips cfg stats) now (.opened at_ level) = .opened at_ level :=
      Breaker.evaluate_running (expiry_eq at_ level ▸ running)
    exact ⟨none, by rw [evaluate_state_running positive running, stays]; rfl, .inl ⟨rfl, stays⟩⟩
  · have late : now - at_ ≥ (cooldownAt cfg level : ℚ) := by linarith
    have halfOpens : Breaker.evaluate (policy cfg) (trips cfg stats) now (.opened at_ level) =
        .halfOpen level 0 0 := by
      refine if_pos ?_
      rw [expiry_eq]
      exact not_lt.mp running
    refine ⟨some (newState .halfOpen now (cooldownAt cfg level)), ?_, .inr ⟨now, ?_⟩⟩
    · simp only [evaluateState, record, health, Option.getD_some, of_value, ok_bind, since, Breaker.level,
        num_or_pos positive, num_or_cooldown, if_pos late, halfOpens]
      rfl
    · rw [halfOpens, new_state_half_open]

theorem evaluate_state_half_open {level m n : ℕ} (u : ℚ) : ∃ save,
    evaluateState cfg stats now (record cfg u (.halfOpen level m n)) =
      .ok (save, health (Breaker.evaluate (policy cfg) (trips cfg stats) now (.halfOpen level m n))) ∧
    Saves cfg (.halfOpen level m n) (Breaker.evaluate (policy cfg) (trips cfg stats) now (.halfOpen level m n))
      save := by
  by_cases enough : (m : ℤ) ≥ cfg.probeRequiredSuccesses
  · have closes : Breaker.evaluate (policy cfg) (trips cfg stats) now (.halfOpen level m n) = .closed :=
      if_pos enough
    refine ⟨some (newState .closed now cfg.cooldownSeconds), ?_, .inr ⟨now, ?_⟩⟩
    · simp only [evaluateState, record, health, Option.getD_some, of_value, ok_bind, counts, Breaker.level,
        num_or_cooldown, if_pos enough, closes]
      rfl
    · rw [closes, new_state_closed]
  · by_cases failed : (n : ℤ) ≥ max 1 (cfg.probeCount - cfg.probeRequiredSuccesses + 1)
    · have opens : Breaker.evaluate (policy cfg) (trips cfg stats) now (.halfOpen level m n) =
          .opened now (level + 1) :=
        (if_neg enough).trans (if_pos failed)
      refine ⟨some (newState .open now (cooldownAt cfg level * 2)), ?_, .inr ⟨now, ?_⟩⟩
      · simp only [evaluateState, record, health, Option.getD_some, of_value, ok_bind, counts, Breaker.level,
          num_or_cooldown, if_neg enough, if_pos failed, opens]
        rfl
      · rw [opens, ← new_state_open, cooldownAt, cooldownAt, pow_succ, mul_assoc]
    · have stays : Breaker.evaluate (policy cfg) (trips cfg stats) now (.halfOpen level m n) =
          .halfOpen level m n :=
        (if_neg enough).trans (if_neg failed)
      refine ⟨none, ?_, .inl ⟨rfl, stays⟩⟩
      simp only [evaluateState, record, health, Option.getD_some, of_value, ok_bind, counts, Breaker.level,
        num_or_cooldown, if_neg enough, if_neg failed, stays]
      rfl

/-- `evaluate` decides as the breaker does. -/
theorem evaluate_state_record (stats : GatewayStats) (now u : ℚ) (dated : Dated b) : ∃ save,
    evaluateState cfg stats now (record cfg u b) =
      .ok (save, health (b.evaluate (policy cfg) (trips cfg stats) now)) ∧
    Saves cfg b (b.evaluate (policy cfg) (trips cfg stats) now) save := by
  cases b with
  | closed =>
    obtain ⟨u', decided⟩ := evaluate_state_closed cfg stats now u
    exact ⟨_, decided, .inr ⟨u', rfl⟩⟩
  | opened at_ level => exact evaluate_state_opened u (dated at_ rfl)
  | halfOpen level m n => exact evaluate_state_half_open u

/-- What is stored after a save stands for the next breaker. -/
theorem stored_represents {b' : Breaker ℚ} {save : Option StateDict} (represents : Represents cfg raw b)
    (saves : Saves cfg b b' save) (dated : Dated b') (saved : ℚ) :
    Represents cfg (stored raw save saved) b' := by
  rcases saves with ⟨rfl, rfl⟩ | ⟨u', rfl⟩
  · exact represents
  · exact .record saved b' dated

/-- `evaluate` refines the breaker's. -/
theorem evaluate_represents (stats : GatewayStats) {clock : EvaluateClock} (positive : 0 < clock.now)
    (represents : Represents cfg raw b) : ∃ left,
    evaluate cfg stats clock raw = .ok (left, health (b.evaluate (policy cfg) (trips cfg stats) clock.now)) ∧
    Represents cfg left (b.evaluate (policy cfg) (trips cfg stats) clock.now) := by
  obtain ⟨dated, u, read⟩ := get_state_represents represents clock.fresh
  obtain ⟨save, decided, saves⟩ := evaluate_state_record stats clock.now u dated
  refine ⟨stored raw save clock.saved, ?_, stored_represents represents saves (dated_evaluate positive dated) _⟩
  unfold evaluate
  rw [read, decided]
  rfl

/-! ## `record_probe_result` -/

theorem dated_probe (success : Bool) (dated : Dated b) : Dated (b.probe success) := by
  cases b with
  | closed => exact dated
  | opened => exact dated
  | halfOpen =>
    intro opened shape
    cases success <;> cases shape

theorem record_probe_state (cfg : BreakerConfig) (success : Bool) (u : ℚ) (b : Breaker ℚ) : ∃ save,
    recordProbeState success (record cfg u b) = .ok save ∧ Saves cfg b (b.probe success) save := by
  cases b with
  | closed => exact ⟨none, rfl, .inl ⟨rfl, rfl⟩⟩
  | opened => exact ⟨none, rfl, .inl ⟨rfl, rfl⟩⟩
  | halfOpen level m n =>
    cases success with
    | true => exact ⟨_, rfl, .inr ⟨u, rfl⟩⟩
    | false => exact ⟨_, rfl, .inr ⟨u, rfl⟩⟩

theorem record_probe_represents (success : Bool) (fresh saved : ℚ) (represents : Represents cfg raw b) :
    ∃ left, recordProbeResult cfg success fresh saved raw = .ok left ∧
      Represents cfg left (b.probe success) := by
  obtain ⟨dated, u, read⟩ := get_state_represents represents fresh
  obtain ⟨save, recorded, saves⟩ := record_probe_state cfg success u b
  refine ⟨stored raw save saved, ?_, stored_represents represents saves (dated_probe success dated) saved⟩
  unfold recordProbeResult
  rw [read, recorded]
  rfl

/-! ## `get_health` -/

theorem truncate_le (x : ℚ) : ((max 0 (Json.truncate x) : ℤ) : ℚ) ≤ max 0 x := by
  unfold Json.truncate
  split
  · rename_i nonneg
    rw [max_eq_right (Int.floor_nonneg.mpr nonneg), max_eq_right nonneg]
    exact Int.floor_le x
  · rename_i negative
    have below : ⌈x⌉ ≤ 0 := Int.ceil_le.mpr (by simpa using (not_le.mp negative).le)
    rw [max_eq_left below]
    exact_mod_cast le_max_left 0 x

/-- The snapshot of an open breaker defers, and for no longer than its cooldown still
runs. -/
theorem health_snapshot_opened (bank rail : String) (stats : GatewayStats) (u : ℚ) {at_ : ℚ} {level : ℕ}
    (positive : 0 < at_) (clock : HealthClock) :
    let snapshot := healthSnapshot cfg bank rail stats .open clock (some (record cfg u (.opened at_ level)))
    snapshot.state = .open ∧ snapshot.recommendedAction = "DEFER" ∧ 0 ≤ snapshot.retryAfterSeconds ∧
      (snapshot.retryAfterSeconds : ℚ) ≤ max 0 (at_ + cooldownAt cfg level - clock.now) := by
  refine ⟨rfl, rfl, le_max_left _ _, ?_⟩
  have read : (healthSnapshot cfg bank rail stats .open clock
      (some (record cfg u (.opened at_ level)))).retryAfterSeconds =
      max 0 (Json.truncate (cooldownAt cfg level - (clock.now - at_))) := by
    simp only [healthSnapshot, getState, record, since, Option.getD_some, num_or_pos positive, Breaker.level,
      num_or_cooldown, if_true]
  rw [read, show at_ + (cooldownAt cfg level : ℚ) - clock.now = cooldownAt cfg level - (clock.now - at_) by ring]
  exact truncate_le _

/-! ## One rail over time -/

/-- A call on the rail that no other call disturbs. -/
inductive RailCall where
  | evaluate (stats : GatewayStats) (clock : EvaluateClock)
  | getHealth (stats : GatewayStats) (evaluated : EvaluateClock) (clock : HealthClock)
  | recordProbeResult (success : Bool) (fresh saved : ℚ)

/-- The readings that a call takes of the clock, in their order. -/
def readings : RailCall → List ℚ
  | .evaluate _ clock => [clock.fresh, clock.now, clock.saved]
  | .getHealth _ evaluated clock =>
    [evaluated.fresh, evaluated.now, evaluated.saved, clock.fresh, clock.opened, clock.now]
  | .recordProbeResult _ fresh saved => [fresh, saved]

/-- `time.time()` counts from an epoch in the past and does not run backwards. -/
def ClockForward (readings : List ℚ) : Prop := (∀ t ∈ readings, 0 < t) ∧ readings.Pairwise (· ≤ ·)

/-- The value that a call leaves under the key. -/
def leaves (cfg : BreakerConfig) (bank rail : String) (raw : Option StateDict) :
    RailCall → Except String (Option StateDict)
  | .evaluate stats clock => (·.1) <$> evaluate cfg stats clock raw
  | .getHealth stats evaluated clock => (·.1) <$> getHealth cfg bank rail stats evaluated clock raw
  | .recordProbeResult success fresh saved => recordProbeResult cfg success fresh saved raw

/-- The state of the rail that a value under its key tells. -/
def storedState (raw : Option StateDict) : GatewayHealthState :=
  ((raw.bind (·.state)).bind fun text => (GatewayHealthState.ofValue text).toOption).getD .closed

/-- The number of transitions from HALF_OPEN to OPEN since the rail was last CLOSED, after one
more transition. -/
def reopenings (count : ℕ) : GatewayHealthState → GatewayHealthState → ℕ
  | _, .closed => 0
  | .halfOpen, .open => count + 1
  | _, _ => count

/-- The value under the key of the rail.  `reopened` is not stored anywhere: it counts
the transitions of the run. -/
structure Rail where
  raw : Option StateDict := none
  reopened : ℕ := 0
  deriving DecidableEq

/-- One call.  A call that raises writes nothing. -/
def railStep (cfg : BreakerConfig) (bank rail : String) (s : Rail) (call : RailCall) : Option Rail :=
  match leaves cfg bank rail s.raw call with
  | .error _ => some s
  | .ok raw => some { raw, reopened := reopenings s.reopened (storedState s.raw) (storedState raw) }

theorem stored_state_represents (represents : Represents cfg raw b) : storedState raw = health b := by
  cases represents with
  | absent => rfl
  | record u b dated =>
    simp only [storedState, record, Option.bind_some, of_value]
    rfl

theorem reopenings_health (count : ℕ) (b b' : Breaker ℚ) :
    reopenings count (health b) (health b') = Breaker.reopenings count b b' := by
  cases b <;> cases b' <;> rfl

/-- The breaker after a call. -/
def after (cfg : BreakerConfig) (b : Breaker ℚ) : RailCall → Breaker ℚ
  | .evaluate stats clock => b.evaluate (policy cfg) (trips cfg stats) clock.now
  | .getHealth stats evaluated _ => b.evaluate (policy cfg) (trips cfg stats) evaluated.now
  | .recordProbeResult success _ _ => b.probe success

variable {bank rail : String} {s s' : Rail} {call : RailCall} {es : List RailCall}

theorem level_after (b : Breaker ℚ) (call : RailCall) :
    (after cfg b call).level = Breaker.reopenings b.level b (after cfg b call) := by
  cases call with
  | evaluate => exact Breaker.level_evaluate ..
  | getHealth => exact Breaker.level_evaluate ..
  | recordProbeResult => exact Breaker.level_probe ..

/-- Every call refines the step of the breaker. -/
theorem leaves_represents (bank rail : String) (positive : ∀ t ∈ readings call, 0 < t)
    (represents : Represents cfg raw b) :
    ∃ left, leaves cfg bank rail raw call = .ok left ∧ Represents cfg left (after cfg b call) := by
  cases call with
  | evaluate stats clock =>
    obtain ⟨left, evaluated, next⟩ :=
      evaluate_represents stats (positive clock.now (by simp [readings])) represents
    exact ⟨left, by rw [leaves, evaluated]; rfl, next⟩
  | getHealth stats clock healthClock =>
    obtain ⟨left, evaluated, next⟩ :=
      evaluate_represents stats (positive clock.now (by simp [readings])) represents
    exact ⟨left, by rw [leaves, getHealth, evaluated]; rfl, next⟩
  | recordProbeResult success fresh saved => exact record_probe_represents success fresh saved represents

/-- The record stands for a breaker whose level is the number of its openings again. -/
def Follows (cfg : BreakerConfig) (s : Rail) (b : Breaker ℚ) : Prop :=
  Represents cfg s.raw b ∧ s.reopened = b.level

theorem step_follows (positive : ∀ t ∈ readings call, 0 < t) (follows : Follows cfg s b)
    (stepped : railStep cfg bank rail s call = some s') : Follows cfg s' (after cfg b call) := by
  obtain ⟨represents, counted⟩ := follows
  obtain ⟨left, left_eq, next⟩ := leaves_represents bank rail positive represents
  simp only [railStep, left_eq, Option.some.injEq] at stepped
  subst stepped
  refine ⟨next, ?_⟩
  rw [stored_state_represents represents, stored_state_represents next, reopenings_health, counted,
    level_after]

theorem run_follows (forward : ClockForward (es.flatMap readings))
    (ran : run (railStep cfg bank rail) {} es = some s) : ∃ b, Follows cfg s b := by
  have positive : ∀ call ∈ es, ∀ t ∈ readings call, 0 < t :=
    fun call listed t read => forward.1 t (List.mem_flatMap.mpr ⟨call, listed, read⟩)
  refine meets_invariant (P := fun s => ∃ b, Follows cfg s b) ⟨.closed, .absent, rfl⟩ ?_
    (meets_of_events positive) ran
  rintro s call s' ⟨b, follows⟩ positive stepped
  exact ⟨after cfg b call, step_follows positive follows stepped⟩

/-! ## What holds on every run -/

/-- What a record holds after any calls. -/
structure RecordSound (cfg : BreakerConfig) (s : Rail) : Prop where
  openedAt : ∀ d, s.raw = some d → d.state = some "open" → ∃ opened, d.openedAt = some opened
  unprobed : ∀ d, s.raw = some d → d.state ≠ some "half_open" →
    d.probeSuccesses = some 0 ∧ d.probeFailures = some 0
  probed : ∀ d, s.raw = some d →
    ∃ m n, d.probeSuccesses = some m ∧ d.probeFailures = some n ∧ 0 ≤ m ∧ 0 ≤ n
  backoff : ∀ d, s.raw = some d → d.cooldownSeconds = some (cfg.cooldownSeconds * 2 ^ s.reopened)

/-- The value under the key is an OPEN record whose cooldown is over at `expiry`. -/
def OpenUntil (raw : Option StateDict) (expiry : ℚ) : Prop :=
  ∃ d opened cooldown, raw = some d ∧ d.state = some "open" ∧ d.openedAt = some opened ∧
    d.cooldownSeconds = some cooldown ∧ expiry = opened + cooldown

/-- Before the cooldown is over every evaluation returns OPEN and nothing is written, by
no probe result either, and the health that is reported defers for no longer than the
cooldown still runs. -/
structure KeepsOpening (cfg : BreakerConfig) (bank rail : String) (raw : Option StateDict) (expiry : ℚ) :
    Prop where
  evaluate : ∀ stats (clock : EvaluateClock), clock.now < expiry →
    evaluate cfg stats clock raw = .ok (raw, .open)
  recordProbeResult : ∀ success fresh saved, recordProbeResult cfg success fresh saved raw = .ok raw
  getHealth : ∀ stats (evaluated : EvaluateClock) (clock : HealthClock), evaluated.now < expiry →
    evaluated.now ≤ clock.now → ∃ snapshot,
      getHealth cfg bank rail stats evaluated clock raw = .ok (raw, snapshot) ∧ snapshot.state = .open ∧
      snapshot.recommendedAction = "DEFER" ∧ 0 ≤ snapshot.retryAfterSeconds ∧
      (snapshot.retryAfterSeconds : ℚ) ≤ max 0 (expiry - clock.now) ∧
      (snapshot.retryAfterSeconds : ℚ) ≤ expiry - evaluated.now

theorem record_sound (follows : Follows cfg s b) : RecordSound cfg s := by
  obtain ⟨represents, counted⟩ := follows
  generalize shape : s.raw = raw at represents
  cases represents with
  | absent => constructor <;> (intro d there; rw [shape] at there; cases there)
  | record u b dated =>
    constructor <;> intro d there <;> rw [shape] at there <;> cases there
    · intro isOpen
      have state : health b = .open := value_inj (Option.some.inj isOpen)
      cases b with
      | closed => cases state
      | opened at_ level => exact ⟨at_, rfl⟩
      | halfOpen => cases state
    · intro other
      cases b with
      | closed => exact ⟨rfl, rfl⟩
      | opened => exact ⟨rfl, rfl⟩
      | halfOpen => exact (other rfl).elim
    · exact ⟨_, _, rfl, rfl, Int.natCast_nonneg _, Int.natCast_nonneg _⟩
    · rw [counted]
      rfl

/-- An OPEN record stands for an open breaker, dated and with its expiry. -/
theorem open_until_represents {expiry : ℚ} (represents : Represents cfg raw b) (isOpen : OpenUntil raw expiry) :
    ∃ u at_ level, raw = some (record cfg u (.opened at_ level)) ∧ 0 < at_ ∧
      expiry = at_ + cooldownAt cfg level := by
  obtain ⟨d, opened, cooldown, rfl, state, dated_, cooled, rfl⟩ := isOpen
  cases represents with
  | record u b dated =>
    have state : health b = .open := value_inj (Option.some.inj state)
    cases b with
    | closed => cases state
    | opened at_ level =>
      cases dated_
      cases cooled
      exact ⟨u, opened, level, rfl, dated opened rfl, rfl⟩
    | halfOpen => cases state

theorem keeps_opening {expiry : ℚ} (represents : Represents cfg raw b) (isOpen : OpenUntil raw expiry) :
    KeepsOpening cfg bank rail raw expiry := by
  obtain ⟨u, at_, level, rfl, positive, rfl⟩ := open_until_represents represents isOpen
  have running : ∀ stats (clock : EvaluateClock), clock.now < at_ + cooldownAt cfg level →
      evaluate cfg stats clock (some (record cfg u (.opened at_ level))) =
        .ok (some (record cfg u (.opened at_ level)), .open) := by
    intro stats clock early
    unfold CircuitBreaker.evaluate
    rw [getState, Option.getD_some, evaluate_state_running positive early]
    rfl
  refine ⟨running, fun _ _ _ => rfl, ?_⟩
  intro stats evaluated clock early forward
  have left := running stats evaluated early
  obtain ⟨state, action, nonneg, bounded⟩ :=
    health_snapshot_opened bank rail stats u positive clock
  refine ⟨_, by rw [CircuitBreaker.getHealth, left]; rfl, state, action, nonneg, bounded, ?_⟩
  refine le_trans bounded (max_le ?_ ?_)
  · linarith
  · linarith

/-- A rail leaves OPEN only to HALF_OPEN. -/
theorem leaves_open (positive : ∀ t ∈ readings call, 0 < t) (follows : Follows cfg s b)
    (isOpen : storedState s.raw = .open) (stepped : railStep cfg bank rail s call = some s') :
    storedState s'.raw = .open ∨ storedState s'.raw = .halfOpen := by
  have next := (step_follows positive follows stepped).1
  rw [stored_state_represents follows.1] at isOpen
  rw [stored_state_represents next]
  cases b with
  | closed => cases isOpen
  | halfOpen => cases isOpen
  | opened at_ level =>
    cases call with
    | evaluate stats clock =>
      rcases Breaker.evaluate_opened (policy cfg) (trips cfg stats) clock.now at_ level with same | ⟨_, moved⟩
      · exact .inl (congrArg health same)
      · exact .inr (congrArg health moved)
    | getHealth stats clock _ =>
      rcases Breaker.evaluate_opened (policy cfg) (trips cfg stats) clock.now at_ level with same | ⟨_, moved⟩
      · exact .inl (congrArg health same)
      · exact .inr (congrArg health moved)
    | recordProbeResult => exact .inl rfl

/-- The breaker of one rail over any calls, with any parameters: the record is sound,
an opening lasts its cooldown, and a rail leaves OPEN only to HALF_OPEN. -/
theorem breaker_kept (forward : ClockForward (es.flatMap readings))
    (ran : run (railStep cfg bank rail) {} es = some s) :
    RecordSound cfg s ∧ (∀ expiry, OpenUntil s.raw expiry → KeepsOpening cfg bank rail s.raw expiry) ∧
      ∀ call s', ClockForward ((es ++ [call]).flatMap readings) → storedState s.raw = .open →
        railStep cfg bank rail s call = some s' →
        storedState s'.raw = .open ∨ storedState s'.raw = .halfOpen := by
  obtain ⟨b, follows⟩ := run_follows forward ran
  refine ⟨record_sound follows, fun expiry isOpen => keeps_opening follows.1 isOpen, ?_⟩
  intro call s' later isOpen stepped
  have positive : ∀ t ∈ readings call, 0 < t :=
    fun t read => later.1 t
      (List.mem_flatMap.mpr ⟨call, List.mem_append_right _ (List.mem_singleton.mpr rfl), read⟩)
  exact leaves_open positive follows isOpen stepped

/-- The statistics of sixty technical declines. -/
def outage : GatewayStats :=
  { totalAttempts := 60
    successRate := 0
    technicalFailureRate := 1
    businessDeclineRate := 0
    timeoutRate := 0
    sampleSize := 60 }

/-- The rail an outage has just opened. -/
def tripped : Rail := { raw := some (record {} 100 (.opened 100 0)) }

theorem breaker_kept_tripped :
    RecordSound {} tripped ∧
      (∀ expiry, OpenUntil tripped.raw expiry → KeepsOpening {} "SBI" "upi" tripped.raw expiry) ∧
      ∀ call s', ClockForward ([RailCall.evaluate outage ⟨100, 100, 100⟩, call].flatMap readings) →
        storedState tripped.raw = .open → railStep {} "SBI" "upi" tripped call = some s' →
        storedState s'.raw = .open ∨ storedState s'.raw = .halfOpen :=
  have forward : ClockForward ([RailCall.evaluate outage ⟨100, 100, 100⟩].flatMap readings) := by
    constructor <;> simp [readings]
  breaker_kept forward (by decide +kernel)

end RevenueGuard.BreakerProofs
