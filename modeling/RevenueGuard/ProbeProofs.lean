import RevenueGuard.BreakerProofs
import RevenueGuard.Library.Race

/-!
One HALF_OPEN phase of a rail, from the evaluation that begins it to the first that
resolves it.  The record keeps the sums of the probe results and no order, and the
sum of the successes is looked at first: a failure that decided the probes is lost
when successes that came after it reach their number before anyone evaluates.
-/

namespace RevenueGuard.ProbeProofs

open Library Library.Backoff Library.Race Library.Raises Library.Runs CircuitBreaker BreakerProofs

variable {cfg : BreakerConfig} {bank rail : String} {raw left : Option StateDict} {call : RailCall}
  {calls : List RailCall} {u : ℚ} {level m n : ℕ} {r k : ℤ}

/-! ## The calls of a phase -/

/-- The value under the key once an evaluation at `now` has turned the rail HALF_OPEN. -/
def turned (cfg : BreakerConfig) (now : ℚ) (level : ℕ) (saved : ℚ) : Option StateDict :=
  some (savedState (newState .halfOpen now (cooldownAt cfg level)) saved)

def evaluates : RailCall → Bool
  | .recordProbeResult _ _ _ => false
  | _ => true

def result : RailCall → Option Bool
  | .recordProbeResult success _ _ => some success
  | _ => none

/-- The probe results that calls record, in the order of the calls. -/
def results (calls : List RailCall) : List Bool := calls.filterMap result

/-- What an evaluation leaves under the key, and the state it returns. -/
inductive Returns (cfg : BreakerConfig) (bank rail : String) (raw : Option StateDict) :
    RailCall → Option StateDict → GatewayHealthState → Prop where
  | evaluate (stats : GatewayStats) (clock : EvaluateClock) (left : Option StateDict)
      (state : GatewayHealthState) (returned : evaluate cfg stats clock raw = .ok (left, state)) :
      Returns cfg bank rail raw (.evaluate stats clock) left state
  | getHealth (stats : GatewayStats) (evaluated : EvaluateClock) (clock : HealthClock)
      (left : Option StateDict) (snapshot : GatewayHealthSnapshot)
      (returned : getHealth cfg bank rail stats evaluated clock raw = .ok (left, snapshot)) :
      Returns cfg bank rail raw (.getHealth stats evaluated clock) left snapshot.state

/-- One call of a phase, which is over when the rail is no longer HALF_OPEN. -/
def phaseStep (cfg : BreakerConfig) (bank rail : String) (raw : Option StateDict) (call : RailCall) :
    Option (Option StateDict) :=
  match leaves cfg bank rail raw call with
  | .ok left => if storedState left = .halfOpen then some left else none
  | .error _ => none

/-- The cooldown on record under the key. -/
def cooldownOf (raw : Option StateDict) : Option ℤ := raw.bind (·.cooldownSeconds)

/-- The required success arrived before the failure after which the probes cannot bring it. -/
def SucceededFirst (cfg : BreakerConfig) (points : List Bool) : Prop :=
  First true cfg.probeRequiredSuccesses (cfg.probeCount - cfg.probeRequiredSuccesses + 1) points

/-- That failure arrived before the required success. -/
def FailedFirst (cfg : BreakerConfig) (points : List Bool) : Prop :=
  First false (cfg.probeCount - cfg.probeRequiredSuccesses + 1) cfg.probeRequiredSuccesses points

/-- What an evaluation decides after these results is what arrived first. -/
structure ByArrival (cfg : BreakerConfig) (points : List Bool) (before left : Option StateDict)
    (state : GatewayHealthState) : Prop where
  closed : state = .closed ↔ SucceededFirst cfg points
  opened : state = .open ↔ FailedFirst cfg points
  doubled : state = .open → ∃ cooldown,
    cooldownOf before = some cooldown ∧ cooldownOf left = some (cooldown * 2)
  resolved : cfg.probeCount ≤ points.length → state ≠ .halfOpen

/-- Every evaluation of the phase, wherever it stands among the results. -/
def VerdictByArrival (cfg : BreakerConfig) (bank rail : String) (raw : Option StateDict)
    (calls : List RailCall) : Prop :=
  ∀ before call after, calls = before ++ call :: after → evaluates call = true →
    ∀ there, run (phaseStep cfg bank rail) raw before = some there →
      ∃ left state, Returns cfg bank rail there call left state ∧ storedState left = state ∧
        ByArrival cfg (results before) there left state

/-- Whenever the deciding failure came first and the successes reach their number all the
same, an evaluation has read the failures before that. -/
def FailuresReadInTime (cfg : BreakerConfig) (calls : List RailCall) : Prop :=
  ∀ before call after, calls = before ++ call :: after → evaluates call = true →
    FailedFirst cfg (results before) → cfg.probeRequiredSuccesses ≤ (results before).count true →
    ∃ earlier reading between, before = earlier ++ reading :: between ∧ evaluates reading = true ∧
      FailedFirst cfg (results earlier) ∧ (results earlier).count true < cfg.probeRequiredSuccesses

/-! ## What one call does to a HALF_OPEN rail -/

theorem turned_eq (cfg : BreakerConfig) (now : ℚ) (level : ℕ) (saved : ℚ) :
    turned cfg now level saved = some (record cfg saved (.halfOpen level 0 0)) := by
  rw [turned, new_state_half_open]
  rfl

theorem evaluate_half_open (cfg : BreakerConfig) (stats : GatewayStats) (clock : EvaluateClock) (u : ℚ)
    (level m n : ℕ) : ∃ u',
    evaluate cfg stats clock (some (record cfg u (.halfOpen level m n))) =
      .ok (some (record cfg u' (after cfg (.halfOpen level m n) (.evaluate stats clock))),
        health (after cfg (.halfOpen level m n) (.evaluate stats clock))) := by
  obtain ⟨save, decided, saves⟩ := @evaluate_state_half_open cfg stats clock.now level m n u
  unfold CircuitBreaker.evaluate
  rw [getState, Option.getD_some, decided]
  rcases saves with ⟨rfl, same⟩ | ⟨u', rfl⟩
  · refine ⟨u, ?_⟩
    rw [after, same]
    rfl
  · exact ⟨clock.saved, rfl⟩

theorem get_health_of_evaluate {stats : GatewayStats} {evaluated : EvaluateClock} {clock : HealthClock}
    {state : GatewayHealthState} (returned : evaluate cfg stats evaluated raw = .ok (left, state)) :
    getHealth cfg bank rail stats evaluated clock raw =
      .ok (left, healthSnapshot cfg bank rail stats state clock left) := by
  rw [getHealth, returned]
  rfl

theorem leaves_of_returns {state : GatewayHealthState} (returns : Returns cfg bank rail raw call left state) :
    leaves cfg bank rail raw call = .ok left := by
  cases returns with
  | evaluate _ _ _ _ returned =>
    rw [leaves, returned]
    rfl
  | getHealth _ _ _ _ _ returned =>
    rw [leaves, returned]
    rfl

theorem returns_half_open (reading : evaluates call = true) (u : ℚ) (level m n : ℕ) : ∃ u',
    Returns cfg bank rail (some (record cfg u (.halfOpen level m n))) call
      (some (record cfg u' (after cfg (.halfOpen level m n) call)))
      (health (after cfg (.halfOpen level m n) call)) := by
  cases call with
  | evaluate stats clock =>
    obtain ⟨u', evaluated⟩ := evaluate_half_open cfg stats clock u level m n
    exact ⟨u', .evaluate stats clock _ _ evaluated⟩
  | getHealth stats evaluated clock =>
    obtain ⟨u', returned⟩ := evaluate_half_open cfg stats evaluated u level m n
    exact ⟨u', .getHealth stats evaluated clock _ _ (get_health_of_evaluate returned)⟩
  | recordProbeResult => cases reading

/-- Every call on a HALF_OPEN rail leaves the record of the breaker after it. -/
theorem leaves_half_open (cfg : BreakerConfig) (bank rail : String) (call : RailCall) (u : ℚ) (level m n : ℕ) :
    ∃ u', leaves cfg bank rail (some (record cfg u (.halfOpen level m n))) call =
      .ok (some (record cfg u' (after cfg (.halfOpen level m n) call))) := by
  cases reading : evaluates call with
  | true =>
    obtain ⟨u', returns⟩ := returns_half_open reading u level m n
    exact ⟨u', leaves_of_returns returns⟩
  | false =>
    cases call with
    | recordProbeResult success fresh saved =>
      refine ⟨saved, ?_⟩
      cases success <;> rfl
    | evaluate => cases reading
    | getHealth => cases reading

theorem stored_state_record (cfg : BreakerConfig) (u : ℚ) (b : Breaker ℚ) :
    storedState (some (record cfg u b)) = health b := by
  simp only [storedState, record, Option.bind_some, of_value]
  rfl

/-! ## A phase that goes on -/

/-- Neither number has been reached. -/
def Undecided (cfg : BreakerConfig) (points : List Bool) : Prop :=
  (points.count true : ℤ) < (policy cfg).successes ∧ (points.count false : ℤ) < (policy cfg).failures

/-- No evaluation has read a sum that resolves the phase. -/
def Unread (cfg : BreakerConfig) (calls : List RailCall) : Prop :=
  ∀ before call after, calls = before ++ call :: after → evaluates call = true → Undecided cfg (results before)

/-- The breaker at the end of calls none of which resolved the phase. -/
def probed (level : ℕ) (calls : List RailCall) : Breaker ℚ :=
  .halfOpen level ((results calls).count true) ((results calls).count false)

theorem results_reading (reading : evaluates call = true) : results (calls ++ [call]) = results calls := by
  cases call with
  | recordProbeResult => cases reading
  | evaluate => simp [results, result]
  | getHealth => simp [results, result]

theorem after_reading (cfg : BreakerConfig) (reading : evaluates call = true) (b : Breaker ℚ) :
    ∃ trips now, after cfg b call = b.evaluate (policy cfg) trips now := by
  cases call with
  | recordProbeResult => cases reading
  | evaluate stats clock => exact ⟨_, _, rfl⟩
  | getHealth stats evaluated _ => exact ⟨_, _, rfl⟩

theorem after_undecided (reading : evaluates call = true) (undecided : Undecided cfg (results calls)) :
    after cfg (probed level calls) call = probed level (calls ++ [call]) := by
  obtain ⟨trips, now, next⟩ := after_reading cfg reading (probed level calls)
  rw [next, probed, probed, results_reading reading, Breaker.evaluate, if_neg (not_le.mpr undecided.1),
    if_neg (not_le.mpr undecided.2)]

theorem after_result (notReading : evaluates call = false) :
    after cfg (probed level calls) call = probed level (calls ++ [call]) := by
  cases call with
  | evaluate => cases notReading
  | getHealth => cases notReading
  | recordProbeResult success => cases success <;> simp [after, Breaker.probe, probed, results, result]

/-- An evaluation that does not resolve the phase read neither number. -/
theorem undecided_of_half_open (reading : evaluates call = true)
    (same : health (after cfg (probed level calls) call) = .halfOpen) : Undecided cfg (results calls) := by
  obtain ⟨trips, now, next⟩ := after_reading cfg reading (probed level calls)
  rw [next, probed, Breaker.evaluate] at same
  split at same
  · cases same
  · rename_i fewSuccesses
    split at same
    · cases same
    · rename_i fewFailures
      exact ⟨not_le.mp fewSuccesses, not_le.mp fewFailures⟩

theorem unread_snoc (unread : Unread cfg calls) (last : evaluates call = true → Undecided cfg (results calls)) :
    Unread cfg (calls ++ [call]) := by
  intro before reading after shape evaluating
  rcases List.eq_nil_or_concat after with rfl | ⟨rest, final, rfl⟩
  · obtain ⟨rfl, same⟩ := List.append_inj' shape rfl
    cases same
    exact last evaluating
  · rw [List.concat_eq_append, ← List.cons_append, ← List.append_assoc] at shape
    exact unread before reading rest (List.append_inj' shape rfl).1 evaluating

/-- A phase goes on as long as no evaluation reads a number that resolves it. -/
theorem phase_goes_on (bank rail : String) (unread : Unread cfg calls) (u : ℚ) (level : ℕ) : ∃ u',
    run (phaseStep cfg bank rail) (some (record cfg u (.halfOpen level 0 0))) calls =
      some (some (record cfg u' (probed level calls))) := by
  induction calls using List.reverseRecOn with
  | nil => exact ⟨u, rfl⟩
  | append_singleton calls call ih =>
    obtain ⟨u', ran⟩ := ih fun before reading after shape =>
      unread before reading (after ++ [call]) (by simp [shape])
    obtain ⟨u'', left⟩ := leaves_half_open cfg bank rail call u' level
      ((results calls).count true) ((results calls).count false)
    have next : after cfg (probed level calls) call = probed level (calls ++ [call]) := by
      cases reading : evaluates call with
      | true => exact after_undecided reading (unread calls call [] rfl reading)
      | false => exact after_result reading
    rw [← probed, next] at left
    refine ⟨u'', run_snoc_iff.mpr ⟨_, ran, ?_⟩⟩
    simp only [phaseStep, left, stored_state_record]
    rfl

/-- Conversely, no evaluation of a phase that goes on has read such a number. -/
theorem unread_of_phase {there : Option StateDict}
    (ran : run (phaseStep cfg bank rail) (some (record cfg u (.halfOpen level 0 0))) calls = some there) :
    Unread cfg calls := by
  refine run_history (P := fun calls _ => Unread cfg calls) ?_ ?_ ran
  · intro before call after shape
    simp at shape
  · intro calls there call next ranBefore unread stepped
    refine unread_snoc unread fun reading => ?_
    obtain ⟨u', ran'⟩ := phase_goes_on bank rail unread u level
    cases ran'.symm.trans ranBefore
    obtain ⟨u'', left⟩ := leaves_half_open cfg bank rail call u' level
      ((results calls).count true) ((results calls).count false)
    rw [← probed] at left
    simp only [phaseStep, left, stored_state_record, Option.ite_none_right_eq_some] at stepped
    exact undecided_of_half_open reading stepped.1

/-- Where an evaluation has read a number that resolves the phase, there was a first one. -/
theorem first_reading (read : ¬ Unread cfg calls) : ∃ before call after,
    calls = before ++ call :: after ∧ evaluates call = true ∧ Unread cfg before ∧
      ¬ Undecided cfg (results before) := by
  induction calls using List.reverseRecOn with
  | nil =>
    refine absurd ?_ read
    intro before call after shape
    simp at shape
  | append_singleton calls last ih =>
    by_cases unread : Unread cfg calls
    · refine ⟨calls, last, [], rfl, ?_⟩
      by_contra missed
      refine read (unread_snoc unread fun reading => ?_)
      by_contra decided
      exact missed ⟨reading, unread, decided⟩
    · obtain ⟨before, call, after, rfl, found⟩ := ih unread
      exact ⟨before, call, after ++ [last], by simp, found⟩

/-! ## The verdict -/

theorem returns_unique {left' : Option StateDict} {state state' : GatewayHealthState}
    (returns : Returns cfg bank rail raw call left state)
    (returns' : Returns cfg bank rail raw call left' state') : left = left' ∧ state = state' := by
  cases returns with
  | evaluate _ _ _ _ returned =>
    cases returns' with
    | evaluate _ _ _ _ returned' =>
      cases returned.symm.trans returned'
      exact ⟨rfl, rfl⟩
  | getHealth _ _ _ _ _ returned =>
    cases returns' with
    | getHealth _ _ _ _ _ returned' =>
      cases returned.symm.trans returned'
      exact ⟨rfl, rfl⟩

theorem policy_failures (enough : cfg.probeRequiredSuccesses ≤ cfg.probeCount) :
    (policy cfg).failures = cfg.probeCount - cfg.probeRequiredSuccesses + 1 :=
  max_eq_right (by omega)

/-- The sums tell the order of arrival unless the successes have caught up with a failure
that decided the probes before them. -/
theorem by_arrival_iff (required : 1 ≤ cfg.probeRequiredSuccesses)
    (enough : cfg.probeRequiredSuccesses ≤ cfg.probeCount) (reading : evaluates call = true) (u u' : ℚ)
    (level : ℕ) (calls : List RailCall) :
    ByArrival cfg (results calls) (some (record cfg u (probed level calls)))
        (some (record cfg u' (after cfg (probed level calls) call)))
        (health (after cfg (probed level calls) call)) ↔
      ¬ (FailedFirst cfg (results calls) ∧ cfg.probeRequiredSuccesses ≤ (results calls).count true) := by
  obtain ⟨trips, now, next⟩ := after_reading cfg reading (probed level calls)
  have failures := policy_failures enough
  rw [next]
  by_cases succeeded : cfg.probeRequiredSuccesses ≤ (results calls).count true
  · have closes : (probed level calls).evaluate (policy cfg) trips now = .closed := if_pos succeeded
    rw [closes]
    constructor
    · rintro verdict ⟨failedFirst, _⟩
      exact first_exclusive (verdict.closed.mp rfl) failedFirst
    · intro inTime
      have failedLater : ¬ FailedFirst cfg (results calls) := fun failedFirst => inTime ⟨failedFirst, succeeded⟩
      refine ⟨iff_of_true rfl ?_, iff_of_false ?_ failedLater, ?_, fun _ => ?_⟩
      · exact (first_or (by omega) succeeded).resolve_right failedLater
      all_goals rintro ⟨⟩
  · refine iff_of_true ?_ fun overtaken => succeeded overtaken.2
    have notClosed : ¬ SucceededFirst cfg (results calls) := fun first => succeeded (first_reached first)
    by_cases failed : (policy cfg).failures ≤ (results calls).count false
    · have opens : (probed level calls).evaluate (policy cfg) trips now = .opened now (level + 1) :=
        (if_neg succeeded).trans (if_pos failed)
      rw [opens]
      have doubled : cooldownAt cfg (level + 1) = cooldownAt cfg level * 2 := by
        rw [cooldownAt, cooldownAt, pow_succ, mul_assoc]
      refine ⟨iff_of_false ?_ notClosed, iff_of_true rfl ?_, fun _ => ?_, fun _ => ?_⟩
      · rintro ⟨⟩
      · exact (first_or (by omega) (failures ▸ failed)).resolve_right notClosed
      · exact ⟨cooldownAt cfg level, rfl, congrArg some doubled⟩
      · rintro ⟨⟩
    · have stays : (probed level calls).evaluate (policy cfg) trips now = probed level calls :=
        (if_neg succeeded).trans (if_neg failed)
      rw [stays]
      refine ⟨iff_of_false ?_ notClosed, iff_of_false ?_ ?_, ?_, fun many => ?_⟩
      · rintro ⟨⟩
      · rintro ⟨⟩
      · exact fun first => failed (failures ▸ first_reached first)
      · rintro ⟨⟩
      · rw [failures] at failed
        have decided : cfg.probeRequiredSuccesses ≤ (results calls).count true ∨
            cfg.probeCount - cfg.probeRequiredSuccesses + 1 ≤ (results calls).count false :=
          decided_of_length (by omega)
        exact absurd decided (not_or.mpr ⟨succeeded, failed⟩)

theorem results_append (calls later : List RailCall) :
    results (calls ++ later) = results calls ++ results later :=
  List.filterMap_append ..

/-- An evaluation that no earlier one has forestalled decides by arrival only if no
successes have caught up. -/
theorem verdict_in_order (required : 1 ≤ cfg.probeRequiredSuccesses)
    (enough : cfg.probeRequiredSuccesses ≤ cfg.probeCount) {before after : List RailCall}
    (verdicts : VerdictByArrival cfg bank rail (some (record cfg u (.halfOpen level 0 0)))
      (before ++ call :: after))
    (reading : evaluates call = true) (unread : Unread cfg before) :
    ¬ (FailedFirst cfg (results before) ∧ cfg.probeRequiredSuccesses ≤ (results before).count true) := by
  obtain ⟨u', ran⟩ := phase_goes_on bank rail unread u level
  obtain ⟨left, state, returns, _, verdict⟩ := verdicts before call after rfl reading _ ran
  obtain ⟨u'', returns'⟩ := returns_half_open reading u' level _ _
  obtain ⟨rfl, rfl⟩ := returns_unique returns returns'
  exact (by_arrival_iff required enough reading u' u'' level before).mp verdict

/-- A number that resolves the phase was reached, but not by the successes first. -/
theorem failed_first_of_decided (required : 1 ≤ cfg.probeRequiredSuccesses)
    (enough : cfg.probeRequiredSuccesses ≤ cfg.probeCount) {points : List Bool}
    (decided : ¬ Undecided cfg points) (notSucceeded : ¬ SucceededFirst cfg points) :
    FailedFirst cfg points := by
  by_cases many : cfg.probeRequiredSuccesses ≤ points.count true
  · exact (first_or (by omega) many).resolve_left notSucceeded
  · have failed : (policy cfg).failures ≤ points.count false := by
      by_contra few
      exact decided ⟨not_le.mp many, not_le.mp few⟩
    rw [policy_failures enough] at failed
    exact (first_or (by omega) failed).resolve_right notSucceeded

theorem in_time_of_verdicts (required : 1 ≤ cfg.probeRequiredSuccesses)
    (enough : cfg.probeRequiredSuccesses ≤ cfg.probeCount)
    (verdicts : VerdictByArrival cfg bank rail (some (record cfg u (.halfOpen level 0 0))) calls) :
    FailuresReadInTime cfg calls := by
  rintro before call after rfl reading failedFirst succeeded
  by_cases unread : Unread cfg before
  · exact absurd ⟨failedFirst, succeeded⟩ (verdict_in_order required enough verdicts reading unread)
  · obtain ⟨earlier, first, between, rfl, firstReading, unread, decided⟩ := first_reading unread
    rw [List.append_assoc, List.cons_append] at verdicts
    have inOrder := verdict_in_order required enough verdicts firstReading unread
    rw [results_append] at failedFirst
    have failedEarlier : FailedFirst cfg (results earlier) :=
      failed_first_of_decided required enough decided
        fun succeededFirst => first_exclusive (first_append succeededFirst) failedFirst
    exact ⟨earlier, first, between, rfl, firstReading, failedEarlier,
      not_le.mp fun many => inOrder ⟨failedEarlier, many⟩⟩

theorem verdicts_of_in_time (required : 1 ≤ cfg.probeRequiredSuccesses)
    (enough : cfg.probeRequiredSuccesses ≤ cfg.probeCount) (inTime : FailuresReadInTime cfg calls) :
    VerdictByArrival cfg bank rail (some (record cfg u (.halfOpen level 0 0))) calls := by
  intro before call after shape reading there ran
  have unread := unread_of_phase ran
  obtain ⟨u', ran'⟩ := phase_goes_on bank rail unread u level
  cases ran'.symm.trans ran
  obtain ⟨u'', returns⟩ := returns_half_open reading u' level
    ((results before).count true) ((results before).count false)
  refine ⟨_, _, returns, stored_state_record .., ?_⟩
  refine (by_arrival_iff required enough reading u' u'' level before).mpr ?_
  -- An earlier evaluation that has read the failures would have ended the phase.
  rintro ⟨failedFirst, succeeded⟩
  obtain ⟨earlier, first, between, rfl, firstReading, failedEarlier, _⟩ :=
    inTime before call after shape reading failedFirst succeeded
  have few := (unread earlier first between rfl firstReading).2
  rw [policy_failures enough] at few
  exact absurd (first_reached failedEarlier) (not_le.mpr few)

/-- The verdict on the probes follows their order, at every evaluation of a HALF_OPEN phase,
if and only if no deciding failure goes unread until the successes reach their number. -/
theorem verdict_by_arrival_iff (required : 1 ≤ cfg.probeRequiredSuccesses)
    (enough : cfg.probeRequiredSuccesses ≤ cfg.probeCount) (bank rail : String) (now : ℚ) (level : ℕ)
    (saved : ℚ) (calls : List RailCall) :
    VerdictByArrival cfg bank rail (turned cfg now level saved) calls ↔ FailuresReadInTime cfg calls := by
  rw [turned_eq]
  exact ⟨in_time_of_verdicts required enough, verdicts_of_in_time required enough⟩

/-- With no more results than `probe_count` the failures are always read in time: the two
numbers cannot both be reached. -/
theorem in_time_of_few (few : ((results calls).length : ℤ) ≤ cfg.probeCount) :
    FailuresReadInTime cfg calls := by
  rintro before call after rfl reading failedFirst succeeded
  have failed := first_reached failedFirst
  have total : (results before).count true + (results before).count false = (results before).length :=
    List.count_true_add_count_false _
  have within : (results before).length ≤ (results (before ++ call :: after)).length := by
    rw [results_append, List.length_append]
    omega
  omega

/-- A success, then a failure that decides nothing, and each of them read. -/
def probesRead : List RailCall :=
  [.recordProbeResult true 701 701, .evaluate outage ⟨702, 702, 702⟩, .recordProbeResult false 703 703,
    .evaluate outage ⟨704, 704, 704⟩]

theorem verdict_by_arrival_probes_read :
    VerdictByArrival {} "SBI" "upi" (turned {} 700 0 700) probesRead :=
  (verdict_by_arrival_iff (by decide) (by decide) "SBI" "upi" 700 0 700 probesRead).mpr
    (in_time_of_few (by decide))

/-- Two failures, which of three probes leave no two to succeed, and then two successes. -/
def lateSuccesses : List RailCall :=
  [.recordProbeResult false 701 701, .recordProbeResult false 702 702, .recordProbeResult true 703 703,
    .recordProbeResult true 704 704]

/-- Read after all four results, the rail closes. -/
theorem late_successes_close :
    (1 : ℤ) ≤ ({} : BreakerConfig).probeRequiredSuccesses ∧
      ({} : BreakerConfig).probeRequiredSuccesses ≤ ({} : BreakerConfig).probeCount ∧
      ¬ VerdictByArrival {} "SBI" "upi" (turned {} 700 0 700)
        (lateSuccesses ++ [.evaluate outage ⟨705, 705, 705⟩]) := by
  refine ⟨by decide, by decide, fun verdicts => ?_⟩
  have ran : run (phaseStep {} "SBI" "upi") (turned {} 700 0 700) lateSuccesses =
      some (some (record {} 704 (.halfOpen 0 2 2))) := by
    decide +kernel
  obtain ⟨left, state, returns, _, verdict⟩ := verdicts lateSuccesses _ [] rfl rfl _ ran
  have closes : Returns {} "SBI" "upi" (some (record {} 704 (.halfOpen 0 2 2)))
      (.evaluate outage ⟨705, 705, 705⟩) (some (record {} 705 .closed)) .closed :=
    .evaluate _ _ _ _ rfl
  obtain ⟨rfl, rfl⟩ := returns_unique returns closes
  have failedFirst : FailedFirst {} (results lateSuccesses) := ⟨[false, false], by decide, by decide, by decide⟩
  exact first_exclusive (verdict.closed.mp rfl) failedFirst

/-! ## The phases of a run -/

/-- No probe counts for a breaker that a call has just turned half-open. -/
theorem unprobed_after (cfg : BreakerConfig) {b : Breaker ℚ} (call : RailCall) (before : health b ≠ .halfOpen) :
    (after cfg b call).Unprobed := by
  have unprobed : b.Unprobed := by
    cases b with
    | halfOpen => exact absurd rfl before
    | closed => trivial
    | opened => trivial
  cases call with
  | evaluate => exact Breaker.unprobed_evaluate unprobed
  | getHealth => exact Breaker.unprobed_evaluate unprobed
  | recordProbeResult =>
    cases b with
    | halfOpen => exact absurd rfl before
    | closed => trivial
    | opened => trivial

/-- A rail of any run that a call turns HALF_OPEN begins a phase. -/
theorem half_open_turned {s s' : Rail} {es : List RailCall} (forward : ClockForward (es.flatMap readings))
    (ran : run (railStep cfg bank rail) {} es = some s) (positive : ∀ t ∈ readings call, 0 < t)
    (stepped : railStep cfg bank rail s call = some s') (before : storedState s.raw ≠ .halfOpen)
    (turns : storedState s'.raw = .halfOpen) :
    ∃ now level saved, s'.raw = turned cfg now level saved := by
  obtain ⟨b, follows⟩ := run_follows forward ran
  have next := (step_follows positive follows stepped).1
  rw [stored_state_represents follows.1] at before
  rw [stored_state_represents next] at turns
  have unprobed := unprobed_after cfg call before
  generalize s'.raw = value at next
  generalize after cfg b call = b' at next turns unprobed
  cases next with
  | absent => cases turns
  | record u _ _ =>
    cases b' with
    | closed => cases turns
    | opened => cases turns
    | halfOpen level successes failures =>
      obtain ⟨rfl, rfl⟩ := unprobed
      exact ⟨u, level, u, (turned_eq ..).symm⟩

end RevenueGuard.ProbeProofs
