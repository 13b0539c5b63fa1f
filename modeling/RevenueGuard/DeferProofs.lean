import RevenueGuard.BreakerProofs
import RevenueGuard.GraphProofs

/-!
How long a case is deferred while the circuit is open.  The breaker reports the rest of
its cooldown in whole seconds, cut off; the strategy waits ten minutes where that is
zero; and the execution counts from its own reading of the clock.
-/

namespace RevenueGuard.DeferProofs

open Library Library.Raises CircuitBreaker BreakerProofs

variable {cfg : BreakerConfig} {settings : Settings} {record : StateDict} {opened : ℚ} {cooldown : ℤ}
  {bank rail : String} {stats : GatewayStats} {evaluated : EvaluateClock} {clock : HealthClock}
  {s : RecoveryState} {t : ℤ}

/-- An OPEN record with its opening time and the cooldown that is read from it. -/
structure OpenSince (cfg : BreakerConfig) (record : StateDict) (opened : ℚ) (cooldown : ℤ) : Prop where
  state : record.state = some "open"
  openedAt : record.openedAt = some opened
  dated : opened ≠ 0
  cooldown : numOr (record.cooldownSeconds.getD cfg.cooldownSeconds) cfg.cooldownSeconds = cooldown

/-- An instant as seconds since the epoch. -/
def secondsOf (t : ℤ) : ℚ := t / 1000000

theorem seconds_of_later (t delay : ℤ) : secondsOf (t + Instant.seconds delay) = secondsOf t + delay := by
  simp only [secondsOf, Instant.seconds]
  push_cast
  ring

/-! ## The reading -/

theorem OpenSince.num_or (since : OpenSince cfg record opened cooldown) (other : ℚ) :
    numOr opened other = opened :=
  if_neg since.dated

/-- An evaluation returns OPEN for an opening exactly until its cooldown is over. -/
theorem evaluate_open_since (since : OpenSince cfg record opened cooldown) (stats : GatewayStats)
    (clock : EvaluateClock) :
    (clock.now < opened + cooldown → evaluate cfg stats clock (some record) = .ok (some record, .open)) ∧
      (opened + cooldown ≤ clock.now →
        ∃ left, evaluate cfg stats clock (some record) = .ok (left, .halfOpen)) := by
  have state : GatewayHealthState.ofValue "open" = .ok .open := rfl
  simp only [evaluate, getState, evaluateState, since.state, since.openedAt, Option.getD_some, state, ok_bind,
    since.cooldown, since.num_or]
  constructor
  · intro running
    rw [if_neg (by rw [ge_iff_le, not_le]; linarith)]
    rfl
  · intro elapsed
    rw [if_pos (by rw [ge_iff_le]; linarith)]
    exact ⟨_, rfl⟩

/-- Within the cooldown the breaker reports the rest of it, cut to whole seconds. -/
theorem get_health_open_since (since : OpenSince cfg record opened cooldown)
    (ordered : evaluated.now ≤ clock.now)
    (running : clock.now < opened + cooldown) (bank rail : String) (stats : GatewayStats) :
    ∃ snapshot, getHealth cfg bank rail stats evaluated clock (some record) = .ok (some record, snapshot) ∧
      snapshot.state = .open ∧ snapshot.retryAfterSeconds = ⌊opened + cooldown - clock.now⌋ := by
  have early : evaluated.now < opened + cooldown := ordered.trans_lt running
  refine ⟨CircuitBreaker.healthSnapshot cfg bank rail stats .open clock (some record), ?_, rfl, ?_⟩
  · rw [getHealth, (evaluate_open_since since stats evaluated).1 early]
    rfl
  have rest : (0 : ℚ) ≤ opened + cooldown - clock.now := by linarith
  have exactly : (cooldown : ℚ) - (clock.now - opened) = opened + cooldown - clock.now := by ring
  simp only [CircuitBreaker.healthSnapshot, getState, since.openedAt, Option.getD_some, since.cooldown,
    since.num_or, if_true]
  rw [exactly, Json.truncate, if_pos rest, max_eq_right (Int.floor_nonneg.mpr rest)]

/-- The override defers by what the breaker reports, and by ten minutes for a zero. -/
theorem override_open {snapshot : GatewayHealthSnapshot} (seen : s.gatewayHealth = some snapshot)
    (isOpen : snapshot.state = .open) (settings : Settings) :
    ∃ strategy, deterministicOverride settings s = some strategy ∧
      strategy.actionType = .defer ∧
      strategy.retryDelaySeconds = if snapshot.retryAfterSeconds = 0 then 600 else snapshot.retryAfterSeconds := by
  simp only [deterministicOverride, seen, Option.map_some, isOpen, if_true]
  exact ⟨_, rfl, rfl, rfl⟩

/-- From the reading to the date of the deferral. -/
theorem defers (since : OpenSince cfg record opened cooldown) (ordered : evaluated.now ≤ clock.now)
    (running : clock.now < opened + cooldown) (bank rail : String) (stats : GatewayStats) (settings : Settings)
    (s : RecoveryState) :
    ∃ snapshot strategy, getHealth cfg bank rail stats evaluated clock (some record) =
      .ok (some record, snapshot) ∧
      deterministicOverride settings { s with gatewayHealth := some snapshot } = some strategy ∧
      strategy.actionType = .defer ∧ strategy.retryDelaySeconds =
        if ⌊opened + cooldown - clock.now⌋ = 0 then 600 else ⌊opened + cooldown - clock.now⌋ := by
  obtain ⟨snapshot, reads, isOpen, rest⟩ := get_health_open_since since ordered running bank rail stats
  obtain ⟨strategy, overrides, action, delay⟩ :=
    @override_open { s with gatewayHealth := some snapshot } snapshot rfl isOpen settings
  exact ⟨snapshot, strategy, reads, overrides, action, by rw [delay, rest]⟩

/-! ## The wait -/

/-- A deferral that outlasts the cooldown of an opening, and not by much. -/
structure Waits (cfg : BreakerConfig) (record : StateDict) (opened : ℚ) (cooldown : ℤ) (read : ℚ) (t due : ℤ) :
    Prop where
  outlasts : opened + cooldown ≤ secondsOf due
  reopened : ∀ stats (clock : EvaluateClock), clock.now = secondsOf due →
    ∃ left, evaluate cfg stats clock (some record) = .ok (left, .halfOpen)
  soon : secondsOf due < opened + cooldown + 1 + (secondsOf t - read)

/-- A deferral outlasts the cooldown and not by much exactly if a whole second of the
cooldown was left when the breaker was read, and what was left beyond whole seconds had
passed when the deferral was executed. -/
theorem deferral_waits_iff (since : OpenSince cfg record opened cooldown) (ordered : evaluated.now ≤ clock.now)
    (running : clock.now < opened + cooldown) {left : Option StateDict}
    {snapshot : GatewayHealthSnapshot} {strategy : StrategyDecision} {link : Except String Json}
    {channel : Option RecoveryChannel} {due : ℤ} {status : String}
    (read : getHealth cfg bank rail stats evaluated clock (some record) = .ok (left, snapshot))
    (seen : s.gatewayHealth = some snapshot) (overridden : deterministicOverride settings s = some strategy)
    (executed : execute t link strategy.actionType (some strategy) channel = .ok (.deferredUntil due, status)) :
    Waits cfg record opened cooldown clock.now t due ↔
      1 ≤ opened + cooldown - clock.now ∧
        Int.fract (opened + cooldown - clock.now) ≤ secondsOf t - clock.now := by
  obtain ⟨_, reads, isOpen, rest⟩ := get_health_open_since since ordered running bank rail stats
  cases reads.symm.trans read
  obtain ⟨_, overrides, action, delay⟩ := override_open seen isOpen settings
  cases overrides.symm.trans overridden
  generalize rests : opened + cooldown - clock.now = x at rest
  have remaining : 0 < x := by linarith
  have date : secondsOf due = secondsOf t + (if ⌊x⌋ = 0 then 600 else ⌊x⌋ : ℤ) := by
    rw [action] at executed
    obtain ⟨date, scheduled, same⟩ := bind_pure_ok.mp executed
    cases same
    obtain ⟨_, _, rfl⟩ := Instant.addSeconds_ok.mp scheduled
    rw [Option.map_some, Option.getD_some, delay, rest, seconds_of_later, max_eq_right]
    have whole := Int.floor_nonneg.mpr remaining.le
    split <;> omega
  by_cases none : ⌊x⌋ = 0
  · -- Ten minutes are more than the second that is left.
    have short : x < 1 := (Int.floor_eq_zero_iff.mp none).2
    rw [if_pos none] at date
    push_cast at date
    constructor
    · intro waits
      have := waits.soon
      linarith
    · rintro ⟨second, _⟩
      linarith
  · rw [if_neg none] at date
    have second : 1 ≤ x := by
      have whole : 1 ≤ ⌊x⌋ := by
        have := Int.floor_nonneg.mpr remaining.le
        omega
      exact_mod_cast Int.le_floor.mp whole
    have split := Int.floor_add_fract x
    have fraction := Int.fract_nonneg x
    constructor
    · intro waits
      have := waits.outlasts
      exact ⟨second, by linarith⟩
    · rintro ⟨_, passed⟩
      have outlasts : opened + cooldown ≤ secondsOf due := by linarith
      refine ⟨outlasts, fun stats clock reading => ?_, by linarith⟩
      exact (evaluate_open_since since stats clock).2 (by rwa [reading])

def sampleOpening : StateDict :=
  { state := some "open"
    updatedAt := some 1000
    cooldownSeconds := some 600
    probeSuccesses := some 0
    probeFailures := some 0
    openedAt := some 1000 }

theorem sample_open_since : OpenSince {} sampleOpening 1000 600 := ⟨rfl, rfl, by norm_num, rfl⟩

def sampleStats : GatewayStats :=
  { totalAttempts := 100
    successRate := 1 / 2
    technicalFailureRate := 1 / 2
    businessDeclineRate := 0
    timeoutRate := 0
    sampleSize := 100 }

/-- Read half a second after a full one, the breaker defers by the 299 seconds of the
299.5 that are left. -/
theorem sample_deferral {t : ℤ} (early : t ≤ 2000000000) :
    ∃ (s : RecoveryState) (snapshot : GatewayHealthSnapshot)
    (strategy : StrategyDecision), s.gatewayHealth = some snapshot ∧
    getHealth {} "HDFC" "upi" sampleStats ⟨2601 / 2, 2601 / 2, 2601 / 2⟩ ⟨2601 / 2, 2601 / 2, 2601 / 2⟩
      (some sampleOpening) = .ok (some sampleOpening, snapshot) ∧
    deterministicOverride {} s = some strategy ∧
    execute t (.ok .null) strategy.actionType (some strategy) none =
      .ok (.deferredUntil (t + Instant.seconds 299), "deferred") := by
  obtain ⟨init, _⟩ : ∃ init, buildState (GraphProofs.sampleCase "REC-00000007" 250000) none = .ok init :=
    ⟨_, rfl⟩
  obtain ⟨snapshot, strategy, reads, overrides, action, delay⟩ :=
    @defers {} sampleOpening 1000 600 ⟨2601 / 2, 2601 / 2, 2601 / 2⟩ ⟨2601 / 2, 2601 / 2, 2601 / 2⟩
      sample_open_since le_rfl (by norm_num) "HDFC" "upi" sampleStats {} init
  have whole : ⌊(1000 : ℚ) + (600 : ℤ) - 2601 / 2⌋ = 299 := by norm_num [Int.floor_eq_iff]
  have seconds : strategy.retryDelaySeconds = 299 := by
    rw [delay, whole]
    rfl
  refine ⟨{ init with gatewayHealth := some snapshot }, snapshot, strategy, rfl, reads, overrides, ?_⟩
  rw [action]
  have date : Instant.addSeconds t 299 = .ok (t + Instant.seconds 299) := by
    rw [Instant.addSeconds_ok]
    exact ⟨by decide, by simp only [Instant.seconds, Instant.latest]; omega, rfl⟩
  simp only [execute, Option.map_some, Option.getD_some, seconds, bind_pure_ok]
  exact ⟨_, date, rfl⟩

/-- Executed half a second later, it waits for the circuit. -/
theorem deferral_waits_iff_sample : ∃ (s : RecoveryState) (snapshot : GatewayHealthSnapshot)
    (strategy : StrategyDecision), s.gatewayHealth = some snapshot ∧
    getHealth {} "HDFC" "upi" sampleStats ⟨2601 / 2, 2601 / 2, 2601 / 2⟩ ⟨2601 / 2, 2601 / 2, 2601 / 2⟩
      (some sampleOpening) = .ok (some sampleOpening, snapshot) ∧
    deterministicOverride {} s = some strategy ∧
    (Waits {} sampleOpening 1000 600 (2601 / 2) 1301000000 (1301000000 + Instant.seconds 299) ↔
      1 ≤ (1000 : ℚ) + (600 : ℤ) - 2601 / 2 ∧
        Int.fract ((1000 : ℚ) + (600 : ℤ) - 2601 / 2) ≤ secondsOf 1301000000 - 2601 / 2) := by
  obtain ⟨s, snapshot, strategy, seen, reads, overrides, executed⟩ :=
    sample_deferral (show (1301000000 : ℤ) ≤ 2000000000 by norm_num)
  exact ⟨s, snapshot, strategy, seen, reads, overrides,
    deferral_waits_iff sample_open_since le_rfl (by norm_num) reads seen overrides executed⟩

/-- Executed at once, it comes half a second before the cooldown is over. -/
theorem deferral_early : ∃ (s : RecoveryState) (snapshot : GatewayHealthSnapshot) (strategy : StrategyDecision)
    (due : ℤ), s.gatewayHealth = some snapshot ∧
    getHealth {} "HDFC" "upi" sampleStats ⟨2601 / 2, 2601 / 2, 2601 / 2⟩ ⟨2601 / 2, 2601 / 2, 2601 / 2⟩
      (some sampleOpening) = .ok (some sampleOpening, snapshot) ∧
    deterministicOverride {} s = some strategy ∧
    execute 1300500000 (.ok .null) strategy.actionType (some strategy) none =
      .ok (.deferredUntil due, "deferred") ∧
    ¬ (1000 : ℚ) + (600 : ℤ) ≤ secondsOf due := by
  obtain ⟨s, snapshot, strategy, seen, reads, overrides, executed⟩ :=
    sample_deferral (show (1300500000 : ℤ) ≤ 2000000000 by norm_num)
  refine ⟨s, snapshot, strategy, _, seen, reads, overrides, executed, ?_⟩
  norm_num [secondsOf, Instant.seconds]

end RevenueGuard.DeferProofs
