import RevenueGuard.BreakerProofs

/-!
Calls of `evaluate` on one rail, with their GETs and SETs in any order.  `evaluate`
writes back what it read even where nothing changes, so a call that read the
rail before an outage can put it back to CLOSED after another call has opened it.
`trips_kept` says that nothing else can: where no call writes over an opening
that it has not seen, every opening lasts its cooldown.
-/

namespace RevenueGuard.TripProofs

open Library Library.Backoff Library.Raises Library.Runs Library.ReadModifyWrite CircuitBreaker BreakerProofs

variable {cfg : BreakerConfig} {stats : GatewayStats} {b : Breaker ℚ} {raw : Option StateDict} {begun : ℚ}
  {c : Cell ℚ StateDict GatewayStats GatewayHealthState}
  {es : List (ReadModifyWrite.Event ℚ GatewayStats)}

/-- Without another call in between, the actions of a call are what `evaluate` does. -/
theorem evaluate_actions {clock : EvaluateClock} {left : Option StateDict} {result : GatewayHealthState}
    (evaluated : evaluate cfg stats clock raw = .ok (left, result)) :
    act (evaluateCall cfg) clock.fresh raw .idle (.get stats) =
      some (raw, .read stats (getState cfg raw clock.fresh)) ∧
    ∃ value, act (evaluateCall cfg) clock.now raw (.read stats (getState cfg raw clock.fresh)) .decide =
        some (raw, .returned value result) ∧ left = raw ∨
      ∃ new, act (evaluateCall cfg) clock.now raw (.read stats (getState cfg raw clock.fresh)) .decide =
        some (raw, .writing new result) ∧
      act (evaluateCall cfg) clock.saved raw (.writing new result) .set =
        some (left, .returned value result) := by
  refine ⟨rfl, ?_⟩
  obtain ⟨⟨save, state⟩, decided, shape⟩ := bind_pure_ok.mp evaluated
  cases shape
  simp only [act, evaluateCall, decided, stored]
  cases save with
  | none => exact ⟨_, .inl ⟨rfl, rfl⟩⟩
  | some new => exact ⟨_, .inr ⟨new, rfl, rfl⟩⟩

/-! ## The records of the calls -/

/-- A dictionary that stands for a breaker. -/
def Recorded (cfg : BreakerConfig) (d : StateDict) : Prop := ∃ u b, d = record cfg u b ∧ Dated b

/-- A dictionary whose state is the one told. -/
def Tells (d : StateDict) (state : GatewayHealthState) : Prop := d.state = some state.value

theorem recorded_decision {now : ℚ} {d : StateDict} {decision : Option StateDict × GatewayHealthState}
    (positive : 0 < now) (recorded : Recorded cfg d) (decided : evaluateState cfg stats now d = .ok decision) :
    Tells (decision.1.getD d) decision.2 ∧ ∀ new, decision.1 = some new → Recorded cfg new := by
  obtain ⟨u, b, rfl, dated⟩ := recorded
  obtain ⟨save, spec, saves⟩ := evaluate_state_record stats now u dated
  rw [spec] at decided
  cases decided
  rcases saves with ⟨rfl, same⟩ | ⟨u', rfl⟩
  · rw [same]
    exact ⟨rfl, fun new none => by cases none⟩
  · refine ⟨rfl, ?_⟩
    intro new shape
    cases shape
    exact ⟨u', _, rfl, dated_evaluate positive dated⟩

theorem keeps_recorded (cfg : BreakerConfig) (epoch : 0 < begun) :
    Keeps (evaluateCall cfg) (begun ≤ ·) (Recorded cfg) where
  fresh now _ := ⟨now, .closed, new_state_closed now, by simp [Dated, since]⟩
  decide now stats d new result later recorded decided :=
    (recorded_decision (lt_of_lt_of_le epoch later) recorded decided).2 new rfl
  write now d _ recorded := by
    obtain ⟨u, b, rfl, dated⟩ := recorded
    exact ⟨now, b, rfl, dated⟩

theorem answers_told (epoch : 0 < begun) :
    Answers (evaluateCall cfg) (begun ≤ ·) (Recorded cfg) Tells where
  kept _ _ _ _ later recorded decided :=
    (recorded_decision (lt_of_lt_of_le epoch later) recorded decided).1
  new _ _ _ _ _ later recorded decided :=
    (recorded_decision (lt_of_lt_of_le epoch later) recorded decided).1
  write _ _ _ told := told

/-! ## Openings -/

/-- As long as the cooldown of the opening `r` runs, `d` is an opening that lasts at least as
long. -/
def Covers (now : ℚ) (d r : StateDict) : Prop :=
  ∀ expiry, OpenUntil (some r) expiry → now < expiry → ∃ later, OpenUntil (some d) later ∧ expiry ≤ later

theorem honours_openings : Honours (evaluateCall cfg) begun (Recorded cfg) Covers where
  self _ _ expiry opening _ := ⟨expiry, opening, le_refl expiry⟩
  later _ _ _ _ forward covers expiry opening running :=
    covers expiry opening (lt_of_le_of_lt forward running)
  decide now stats d r new result _ recorded covers decided := by
    intro expiry opening running
    obtain ⟨later, isOpen, longer⟩ := covers expiry opening running
    obtain ⟨u, b, rfl, dated⟩ := recorded
    -- An opening whose cooldown runs is not written over by a call that has read it.
    obtain ⟨u', at_, level, shape, positive, rfl⟩ := open_until_represents (.record u b dated) isOpen
    have stays : (evaluateCall cfg).decide stats now (record cfg u' (.opened at_ level)) = .ok (none, .open) :=
      evaluate_state_running positive (lt_of_lt_of_le running longer)
    rw [Option.some.inj shape, stays] at decided
    cases decided
  write now d r covers := by
    intro expiry opening running
    obtain ⟨later, ⟨_, opened, cooldown, shape, state, dated, cooled, rfl⟩, longer⟩ :=
      covers expiry opening running
    cases shape
    exact ⟨_, ⟨_, opened, cooldown, rfl, state, dated, cooled, rfl⟩, longer⟩

/-- Every call that returned OPEN did so on an opening, and until its cooldown is over the
rail is OPEN. -/
def TripsKept (c : Cell ℚ StateDict GatewayStats GatewayHealthState) : Prop :=
  ∀ i d, c.phases i = .returned d .open →
    ∃ expiry, OpenUntil (some d) expiry ∧ (c.clock < expiry → storedState c.stored = .open)

/-- An opening lasts its cooldown, in any order of the GETs and SETs of any calls, if
no call writes over an opening stored since its own GET that would last longer than what
it writes. -/
theorem trips_kept (epoch : 0 < begun) (represents : Represents cfg raw b)
    (met : Meets (step (evaluateCall cfg)) (Informed Covers) (start raw begun) es)
    (ran : run (step (evaluateCall cfg)) (start raw begun) es = some c) : TripsKept c := by
  have recorded : ∀ d, raw = some d → Recorded cfg d := by
    rintro d rfl
    cases represents with
    | record u b dated => exact ⟨u, b, rfl, dated⟩
  have keeps := keeps_recorded cfg epoch
  intro i d returned
  -- The value the call returned with is an opening.
  have told := run_told keeps (answers_told epoch) recorded ran i
  obtain ⟨u, b', rfl, dated⟩ := (run_good keeps recorded ran).held i d (by rw [returned]; rfl)
  rw [returned] at told
  have isOpen : health b' = .open := value_inj (Option.some.inj told)
  obtain ⟨at_, level, rfl⟩ : ∃ at_ level, b' = .opened at_ level := by
    cases b' with
    | closed => cases isOpen
    | opened at_ level => exact ⟨at_, level, rfl⟩
    | halfOpen => cases isOpen
  refine ⟨at_ + cooldownAt cfg level, ⟨_, at_, cooldownAt cfg level, rfl, rfl, rfl, rfl, rfl⟩, ?_⟩
  intro running
  -- It was written, so that what is stored covers it.
  have written : record cfg u (.opened at_ level) ∈ c.written := by
    have known := (run_known ran).held i
    rw [returned] at known
    refine known.resolve_right ?_
    rintro ⟨now, fresh⟩
    have same : record cfg u (.opened at_ level) = record cfg now .closed := fresh.trans (new_state_closed now)
    exact absurd (congrArg (·.state) same) (by simp [record, health, GatewayHealthState.value])
  have covered := written_covered keeps honours_openings recorded met ran
  obtain ⟨v, there, covers⟩ := covered.stored _ written
  obtain ⟨later, ⟨_, _, _, shape, state, _⟩, _⟩ :=
    covers _ ⟨_, at_, cooldownAt cfg level, rfl, rfl, rfl, rfl, rfl⟩ running
  cases shape
  rw [there]
  simp only [storedState, Option.bind_some, state]
  rfl

/-- The statistics of a rail without traffic. -/
def calm : GatewayStats :=
  { totalAttempts := 0
    successRate := 0
    technicalFailureRate := 0
    businessDeclineRate := 0
    timeoutRate := 0
    sampleSize := 0 }

/-- One call after the other. -/
def inTurn : List (ReadModifyWrite.Event ℚ GatewayStats) :=
  [⟨0, 100, .get calm⟩, ⟨0, 100, .decide⟩, ⟨0, 100, .set⟩, ⟨1, 101, .get outage⟩, ⟨1, 101, .decide⟩, ⟨1, 101, .set⟩]

theorem trips_kept_in_turn :
    ∃ c, run (step (evaluateCall {})) (start none 100) inTurn = some c ∧ TripsKept c := by
  obtain ⟨c, ran⟩ := Option.isSome_iff_exists.mp
    (show (run (step (evaluateCall {})) (start none 100) inTurn).isSome from by decide +kernel)
  -- Nothing is written between the GET and the SET of a call.
  have alone : Meets (step (evaluateCall {}))
      (fun c e => e.action = .set → c.written.drop (c.seen e.call) = []) (start none 100) inTurn :=
    meets_of_checks (by decide +kernel)
  refine ⟨c, ran, trips_kept (by norm_num) .absent (meets_mono alone ?_) ran⟩
  intro c e empty action value result _ r listed
  rw [empty action] at listed
  cases listed

/-! ## A lost trip -/

/-- Call 0 reads before call 1 opens the rail, and writes after it. -/
def overlapping : List (ReadModifyWrite.Event ℚ GatewayStats) :=
  [⟨0, 100, .get calm⟩, ⟨1, 100, .get outage⟩, ⟨1, 101, .decide⟩, ⟨1, 101, .set⟩, ⟨0, 101, .decide⟩, ⟨0, 102, .set⟩]

/-- What the run leaves: what call 1 returned with, the state of the rail and the clock. -/
def outcome (es : List (ReadModifyWrite.Event ℚ GatewayStats)) :
    Option (Phase StateDict GatewayStats GatewayHealthState × GatewayHealthState × ℚ) :=
  (run (step (evaluateCall {})) (start none 100) es).map fun c => (c.phases 1, storedState c.stored, c.clock)

theorem trip_lost : ¬ ∀ es c, run (step (evaluateCall {})) (start none 100) es = some c → TripsKept c := by
  intro kept
  have lost : outcome overlapping = some (.returned (record {} 101 (.opened 101 0)) .open, .closed, 102) := by
    decide +kernel
  obtain ⟨c, ran, seen⟩ := Option.map_eq_some_iff.mp lost
  obtain ⟨returned, stored, clock⟩ : c.phases 1 = _ ∧ storedState c.stored = _ ∧ c.clock = _ := by
    simpa only [Prod.mk.injEq] using seen
  obtain ⟨expiry, ⟨_, opened, cooldown, shape, _, at_, cooled, rfl⟩, isOpen⟩ :=
    kept overlapping c ran 1 _ returned
  cases shape
  cases at_
  cases cooled
  rw [stored, clock] at isOpen
  exact absurd (isOpen (by norm_num [cooldownAt, Breaker.level])) (by decide)

end RevenueGuard.TripProofs
