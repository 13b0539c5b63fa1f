import RevenueGuard.AggregatorProofs
import RevenueGuard.Library.Runs
import RevenueGuard.Library.SlidingWindow

/-!
The counts of the aggregator over a history of its calls.  Old members leave a set when
an outcome is recorded, when the statistics are taken and when the key expires; every
set is still the window of the outcomes recorded under its key, and a count is that of
the recorded outcomes within the window.
-/

namespace RevenueGuard.WindowProofs

open Library Library.Runs Library.Separators Library.SlidingWindow Aggregator AggregatorProofs

/-! ## Histories -/

/-- A call at one reading of the clock. -/
inductive WindowEvent where
  | recordOutcome (bank rail outcome : String) (now : ℚ) (uuid : String)
  | getStats (bank rail : String) (windowMinutes : ℤ) (now : ℚ)

def reading : WindowEvent → ℚ
  | .recordOutcome _ _ _ now _ => now
  | .getStats _ _ _ now => now

/-- The sorted sets and the last reading, which counts from the epoch. -/
structure WindowStore where
  clock : ℚ := 0
  sets : SortedSets := fun _ => {}

/-- One call; the clock does not go back.  A call that raises leaves the sets as they are. -/
def windowStep (s : WindowStore) (e : WindowEvent) : Option WindowStore :=
  if reading e < s.clock then none
  else match e with
    | .recordOutcome bank rail outcome now uuid =>
      match recordOutcome bank rail outcome now uuid s.sets with
      | .error _ => some { s with clock := now }
      | .ok sets => some { clock := now, sets }
    | .getStats bank rail windowMinutes now =>
      match getStats bank rail windowMinutes now s.sets with
      | .error _ => some { s with clock := now }
      | .ok (sets, _) => some { clock := now, sets }

/-- The number of calls that record the outcome for the rail after `low` and until `high`. -/
def recordedWithin (bank rail outcome : String) (low high : ℚ) (es : List WindowEvent) : ℕ :=
  es.countP fun
    | .recordOutcome bank' rail' outcome' now _ =>
      bank' = bank ∧ rail' = rail ∧ outcome' = outcome ∧ low < now ∧ now ≤ high
    | .getStats .. => false

/-- The identifiers that `uuid4` has drawn. -/
def drawn (es : List WindowEvent) : List String :=
  es.filterMap fun
    | .recordOutcome _ _ _ _ uuid => some uuid
    | .getStats .. => none

/-- A name that a key tells from what stands beside it. -/
def Plain (name : String) : Prop := ':' ∉ name.toList

/-- The rail of an outcome is plain. -/
def PlainRail : WindowEvent → Prop
  | .recordOutcome _ rail _ _ _ => Plain rail
  | .getStats .. => True

variable {bank rail bank' rail' outcome outcome' uuid : String} {w w' : ℤ} {now t : ℚ} {sets sets' : SortedSets}
  {s s' : WindowStore} {e : WindowEvent} {es : List WindowEvent} {m : String × ℚ}

/-! ## Steps -/

inductive WindowStep (s : WindowStore) : WindowEvent → WindowStore → Prop where
  | refused {bank rail outcome : String} {now : ℚ} {uuid : String} : s.clock ≤ now → outcome ∉ outcomes →
      WindowStep s (.recordOutcome bank rail outcome now uuid) { s with clock := now }
  | recorded {bank rail outcome : String} {now : ℚ} {uuid : String} : s.clock ≤ now → outcome ∈ outcomes →
      WindowStep s (.recordOutcome bank rail outcome now uuid)
        { clock := now
          sets := windows.foldl (recordWindow bank rail outcome (sixDecimals now ++ ":" ++ uuid) now) s.sets }
  | unsupported {bank rail : String} {w : ℤ} {now : ℚ} : s.clock ≤ now → w ∉ windows →
      WindowStep s (.getStats bank rail w now) { s with clock := now }
  | counted {bank rail : String} {w : ℤ} {now : ℚ} : s.clock ≤ now → w ∈ windows →
      WindowStep s (.getStats bank rail w now) { clock := now, sets := cleanupWindow bank rail w now s.sets }

theorem window_step_cases (stepped : windowStep s e = some s') : WindowStep s e s' := by
  unfold windowStep at stepped
  split at stepped
  · cases stepped
  · rename_i onward
    have later := not_lt.mp onward
    cases e with
    | recordOutcome bank rail outcome now uuid =>
      by_cases known : outcome ∈ outcomes
      · simp only [recordOutcome, if_neg (not_not.mpr known)] at stepped
        cases stepped
        exact .recorded later known
      · simp only [recordOutcome, if_pos known] at stepped
        cases stepped
        exact .refused later known
    | getStats bank rail w now =>
      by_cases window : w ∈ windows
      · simp only [get_stats_eq bank rail now s.sets window] at stepped
        cases stepped
        exact .counted later window
      · simp only [getStats, validateWindow, if_pos window] at stepped
        cases stepped
        exact .unsupported later window

theorem window_step_clock (stepped : windowStep s e = some s') :
    s.clock ≤ reading e ∧ s'.clock = reading e := by
  cases window_step_cases stepped with
  | refused later | recorded later | unsupported later | counted later => exact ⟨later, rfl⟩

/-- Every reading lies between the epoch and the clock. -/
theorem readings_run (ran : run windowStep {} es = some s) : ∀ e ∈ es, 0 ≤ reading e ∧ reading e ≤ s.clock := by
  have bounded : 0 ≤ s.clock ∧ ∀ e ∈ es, 0 ≤ reading e ∧ reading e ≤ s.clock := by
    refine run_history (P := fun es (s : WindowStore) =>
      0 ≤ s.clock ∧ ∀ e ∈ es, 0 ≤ reading e ∧ reading e ≤ s.clock) ⟨le_refl 0, by simp⟩ ?_ ran
    rintro es s e s' - ⟨epoch, earlier⟩ stepped
    obtain ⟨later, now⟩ := window_step_clock stepped
    rw [now]
    refine ⟨le_trans epoch later, ?_⟩
    intro e' listed
    rcases List.mem_append.mp listed with before | last
    · exact ⟨(earlier e' before).1, le_trans (earlier e' before).2 later⟩
    · rw [List.mem_singleton.mp last]
      exact ⟨le_trans epoch later, le_refl _⟩
  exact bounded.2

/-! ## Names -/

/-- Of plain rails a key is that of no other rail, window or outcome. -/
theorem plain_key_inj (plain : Plain rail) (plain' : Plain rail') (known : outcome ∈ outcomes)
    (known' : outcome' ∈ outcomes) (window : w ∈ windows) (window' : w' ∈ windows)
    (same : key bank rail w outcome = key bank' rail' w' outcome') :
    bank = bank' ∧ rail = rail' ∧ w = w' ∧ outcome = outcome' := by
  obtain ⟨rails, rfl, rfl⟩ := key_inj known known' window window' same
  have texts : bank.toList ++ ':' :: rail.toList = bank'.toList ++ ':' :: rail'.toList := by
    simpa [railName, String.toList_append] using congrArg String.toList rails
  obtain ⟨banks, rails⟩ := append_separator_inj plain plain' texts
  exact ⟨String.toList_inj.mp banks, String.toList_inj.mp rails, rfl, rfl⟩

theorem int_plain (z : ℤ) : Plain (toString z) := by
  have digits (n : ℕ) : ':' ∉ n.repr.toList := by
    intro listed
    rw [Nat.toList_repr] at listed
    exact absurd (Nat.isDigit_of_mem_toDigits (by decide) (by decide) listed) (by decide)
  cases z with
  | ofNat n => exact digits n
  | negSucc n =>
    change ':' ∉ ("-" ++ (n + 1).repr).toList
    rw [String.toList_append, List.mem_append, not_or]
    exact ⟨by decide, digits (n + 1)⟩

theorem six_decimals_plain (now : ℚ) : Plain (sixDecimals now) := by
  have zeros (n : ℕ) : ':' ∉ List.replicate n '0' :=
    fun listed => absurd (List.eq_of_mem_replicate listed) (by decide)
  simp only [Plain, sixDecimals, String.toList_append, List.mem_append, not_or, String.toList_ofList]
  exact ⟨⟨⟨int_plain _, by decide⟩, zeros _⟩, int_plain _⟩

/-- A member carries its identifier. -/
theorem member_inj {now now' : ℚ} {uuid uuid' : String}
    (same : sixDecimals now ++ ":" ++ uuid = sixDecimals now' ++ ":" ++ uuid') : uuid = uuid' := by
  have texts : (sixDecimals now).toList ++ ':' :: uuid.toList =
      (sixDecimals now').toList ++ ':' :: uuid'.toList := by
    simpa [String.toList_append] using congrArg String.toList same
  exact String.toList_inj.mp (prefix_separator_inj (six_decimals_plain now) (six_decimals_plain now') texts).2

/-! ## Logs -/

/-- What the calls have recorded of one outcome for one rail. -/
def logged (bank rail outcome : String) (es : List WindowEvent) : List (String × ℚ) :=
  es.filterMap fun
    | .recordOutcome bank' rail' outcome' now uuid =>
      if bank' = bank ∧ rail' = rail ∧ outcome' = outcome then some (sixDecimals now ++ ":" ++ uuid, now) else none
    | .getStats .. => none

theorem mem_logged (listed : m ∈ logged bank rail outcome es) :
    ∃ uuid, .recordOutcome bank rail outcome m.2 uuid ∈ es ∧ m.1 = sixDecimals m.2 ++ ":" ++ uuid := by
  obtain ⟨e, there, logs⟩ := List.mem_filterMap.mp listed
  cases e with
  | recordOutcome bank' rail' outcome' now uuid =>
    simp only at logs
    split at logs
    · rename_i same
      obtain ⟨rfl, rfl, rfl⟩ := same
      cases logs
      exact ⟨uuid, there, rfl⟩
    · cases logs
  | getStats => cases logs

/-- Another call logs nothing for this outcome of this rail. -/
theorem logged_other (other : ∀ now uuid, e ≠ .recordOutcome bank rail outcome now uuid) :
    logged bank rail outcome (es ++ [e]) = logged bank rail outcome es := by
  have nothing : logged bank rail outcome [e] = [] := by
    refine List.eq_nil_iff_forall_not_mem.mpr fun m listed => ?_
    obtain ⟨uuid, there, _⟩ := mem_logged listed
    exact other m.2 uuid (List.mem_singleton.mp there).symm
  rw [logged, List.filterMap_append]
  exact (congrArg (_ ++ ·) nothing).trans (List.append_nil _)

theorem logged_recorded (es : List WindowEvent) (now : ℚ) (uuid : String) :
    logged bank rail outcome (es ++ [.recordOutcome bank rail outcome now uuid]) =
      logged bank rail outcome es ++ [(sixDecimals now ++ ":" ++ uuid, now)] := by
  simp [logged]

/-- The recent entries of a log are the calls within the window. -/
theorem length_recent_logged (upto : ∀ e ∈ es, reading e ≤ t) (span : ℚ) :
    (recent span t (logged bank rail outcome es)).length =
      recordedWithin bank rail outcome (t - span) t es := by
  induction es with
  | nil => rfl
  | cons e es ih =>
    have ih := ih fun e' listed => upto e' (List.mem_cons_of_mem _ listed)
    unfold logged recent recordedWithin at ih ⊢
    rw [List.filterMap_cons, List.countP_cons, ← ih]
    cases e with
    | getStats => rfl
    | recordOutcome bank' rail' outcome' now uuid =>
      have past : now ≤ t := upto _ List.mem_cons_self
      by_cases same : bank' = bank ∧ rail' = rail ∧ outcome' = outcome
      · by_cases young : t - span < now <;> simp [same, young, past]
      · have apart : ¬(bank' = bank ∧ rail' = rail ∧ outcome' = outcome ∧ t - span < now ∧ now ≤ t) :=
          fun within => same ⟨within.1, within.2.1, within.2.2.1⟩
        simp [same, apart]

/-! ## Sets and logs -/

/-- Every set of a plain rail is the window of what has been recorded under its key. -/
def Windowed (es : List WindowEvent) (s : WindowStore) : Prop :=
  ∀ bank rail outcome, Plain rail → outcome ∈ outcomes → ∀ w ∈ windows,
    Tracks (w * 60 : ℚ) (logged bank rail outcome es) s.clock (s.sets (key bank rail w outcome))

/-- An identifier that has not been drawn before makes a new member. -/
theorem member_new (fresh : (drawn (es ++ [.recordOutcome bank' rail' outcome' now uuid])).Nodup) :
    ∀ m ∈ logged bank rail outcome es, m.1 ≠ sixDecimals now ++ ":" ++ uuid := by
  intro m listed same
  obtain ⟨before, there, named⟩ := mem_logged listed
  have again : before = uuid := member_inj (named.symm.trans same)
  subst again
  rw [drawn, List.filterMap_append] at fresh
  exact List.disjoint_of_nodup_append fresh (List.mem_filterMap.mpr ⟨_, there, rfl⟩) (by simp)

theorem windowed_step (fresh : (drawn (es ++ [e])).Nodup) (plain : PlainRail e) (windowed : Windowed es s)
    (stepped : windowStep s e = some s') : Windowed (es ++ [e]) s' := by
  intro bank rail outcome plainRail known w window
  have tracks := windowed bank rail outcome plainRail known w window
  cases window_step_cases stepped with
  | refused later unknown =>
    rw [logged_other]
    · exact tracks_later tracks later
    · intro now uuid same
      cases same
      exact unknown known
  | @recorded bank' rail' outcome' now uuid later known' =>
    by_cases same : bank' = bank ∧ rail' = rail ∧ outcome' = outcome
    · obtain ⟨rfl, rfl, rfl⟩ := same
      dsimp only
      rw [logged_recorded, record_windows_at known window]
      exact tracks_recorded tracks later (member_new fresh) (by linarith)
    · have apart : ∀ w' ∈ windows, key bank' rail' w' outcome' ≠ key bank rail w outcome := by
        intro w' window' equal
        obtain ⟨banks, rails, _, outcomes⟩ := plain_key_inj plain plainRail known' known window' window equal
        exact same ⟨banks, rails, outcomes⟩
      dsimp only
      rw [logged_other, record_windows_other apart]
      · exact tracks_later tracks later
      · intro now uuid equal
        cases equal
        exact same ⟨rfl, rfl, rfl⟩
  | unsupported later =>
    rw [logged_other (by simp)]
    exact tracks_later tracks later
  | @counted bank' rail' w' now later window' =>
    rw [logged_other (by simp)]
    by_cases mine : ∃ outcome' ∈ outcomes, key bank' rail' w' outcome' = key bank rail w outcome
    · obtain ⟨outcome', known', same⟩ := mine
      obtain ⟨_, rfl, _⟩ := key_inj known' known window' window same
      dsimp only
      rw [← same, cleanup_window_at known' window', same]
      exact tracks_remove tracks later (le_refl _)
    · dsimp only
      rw [cleanup_window_other fun outcome' known' same => mine ⟨outcome', known', same⟩]
      exact tracks_later tracks later

/-- Along every history the sets are the windows of what has been recorded. -/
theorem windowed_run (fresh : (drawn es).Nodup) (plain : ∀ e ∈ es, PlainRail e)
    (ran : run windowStep {} es = some s) : Windowed es s := by
  refine run_history (P := fun es (s : WindowStore) =>
    (drawn es).Nodup → (∀ e ∈ es, PlainRail e) → Windowed es s) ?_ ?_ ran fresh plain
  · intro _ _ bank rail outcome _ _ w _
    exact tracks_start 0
  · intro es s e s' _ windowed stepped fresh plain
    have earlier : (drawn es).Nodup := by
      rw [drawn, List.filterMap_append] at fresh
      exact fresh.of_append_left
    refine windowed_step fresh (plain e (by simp)) (windowed earlier fun e' listed => ?_) stepped
    exact plain e' (List.mem_append_left _ listed)

/-! ## Counts and rates -/

/-- A rate is its share of the total, rounded to six digits. -/
structure RoundedShare (count total : ℕ) (r : ℚ) : Prop where
  none : total = 0 → r = 0
  digits : ∃ millionths : ℤ, r = millionths / 1000000
  nearest : total ≠ 0 → |r - count / total| ≤ 1 / 2000000

theorem rate_rounded (count total : ℕ) : RoundedShare count total (rate count total) := by
  unfold rate
  split
  · rename_i nothing
    refine ⟨fun _ => rfl, ⟨0, by simp⟩, fun some_ => absurd nothing some_⟩
  · rename_i some_
    refine ⟨fun nothing => absurd nothing some_, ⟨_, rfl⟩, fun _ => ?_⟩
    have near := round_quotient_nearest ((count : ℚ) / total)
    rw [abs_le] at near ⊢
    constructor <;> linarith

/-- The total of the counts, and what the rates are of it. -/
structure StatsOf (count : String → ℕ) (stats : GatewayStats) : Prop where
  total : stats.totalAttempts = (outcomes.map count).sum
  success : RoundedShare (count "success") (outcomes.map count).sum stats.successRate
  technical : RoundedShare (count "technical_decline" + count "timeout") (outcomes.map count).sum
    stats.technicalFailureRate
  business : RoundedShare (count "business_decline") (outcomes.map count).sum stats.businessDeclineRate
  timeout : RoundedShare (count "timeout") (outcomes.map count).sum stats.timeoutRate

theorem stats_of (w : ℤ) (count : String → ℕ) : StatsOf count (stats w count) := by
  constructor
  case total => rfl
  case success => exact rate_rounded ..
  case technical => exact rate_rounded ..
  case business => exact rate_rounded ..
  case timeout => exact rate_rounded ..

/-- What a query counts is what has been recorded within its window: after the cut-off,
and up to its own reading. -/
theorem counts_exact (fresh : (drawn es).Nodup) (plain : ∀ e ∈ es, PlainRail e)
    (ran : run windowStep {} es = some s) (plainRail : Plain rail) (window : w ∈ windows)
    (stepped : windowStep s (.getStats bank rail w t) = some s') :
    ∃ stats, getStats bank rail w t s.sets = .ok (s'.sets, stats) ∧
      (∀ outcome ∈ outcomes,
        (s'.sets (key bank rail w outcome)).card t = recordedWithin bank rail outcome (t - w * 60) t es) ∧
      StatsOf (fun outcome => recordedWithin bank rail outcome (t - w * 60) t es) stats := by
  cases window_step_cases stepped with
  | unsupported _ other => exact absurd window other
  | counted later =>
    have readings := readings_run ran
    have counts : ∀ outcome ∈ outcomes, (cleanupWindow bank rail w t s.sets (key bank rail w outcome)).card t =
        recordedWithin bank rail outcome (t - w * 60) t es := by
      intro outcome known
      have tracks := windowed_run fresh plain ran bank rail outcome plainRail known w window
      have epoch : ∀ m ∈ logged bank rail outcome es, 0 ≤ m.2 := by
        intro m listed
        obtain ⟨uuid, there, _⟩ := mem_logged listed
        exact (readings _ there).1
      rw [cleanup_window_at known window, card_removeByScore tracks later epoch]
      exact length_recent_logged (fun e there => le_trans (readings e there).2 later) _
    refine ⟨_, get_stats_eq bank rail t s.sets window, counts, ?_⟩
    rw [stats_congr counts]
    exact stats_of w _

/-- Outcomes at the cut-off of a query and after it. -/
def straddling : List WindowEvent :=
  [.recordOutcome "HDFC" "upi" "success" 1000 "a", .recordOutcome "HDFC" "upi" "timeout" 1000 "b",
    .recordOutcome "HDFC" "upi" "timeout" 1001 "c"]

theorem counts_exact_at_cutoff :
    ∃ s s' stats, run windowStep {} straddling = some s ∧
      windowStep s (.getStats "HDFC" "upi" 5 1300) = some s' ∧
      getStats "HDFC" "upi" 5 1300 s.sets = .ok (s'.sets, stats) ∧ stats.totalAttempts = 1 := by
  obtain ⟨s', ran'⟩ := Option.isSome_iff_exists.mp
    (show (run windowStep {} (straddling ++ [.getStats "HDFC" "upi" 5 1300])).isSome from by decide +kernel)
  obtain ⟨s, ran, stepped⟩ := run_snoc_iff.mp ran'
  have plain : ∀ e ∈ straddling, PlainRail e := by
    intro e listed
    simp only [straddling, List.mem_cons, List.not_mem_nil, or_false] at listed
    rcases listed with rfl | rfl | rfl <;> exact (by decide : ':' ∉ "upi".toList)
  obtain ⟨stats, counted, -, of⟩ := counts_exact (by decide) plain ran
    (by decide : ':' ∉ "upi".toList) (by simp [windows]) stepped
  refine ⟨s, s', stats, ran, stepped, counted, of.total.trans ?_⟩
  decide +kernel

end RevenueGuard.WindowProofs
