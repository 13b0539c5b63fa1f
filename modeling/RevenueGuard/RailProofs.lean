import RevenueGuard.Library.Raises
import RevenueGuard.Outage
import RevenueGuard.ScanProofs

/-!
What the keys of both stores tell of a rail.  A key joins the names with a separator that the
names may contain, so two rails share their health state exactly if the one bank is the
other with a piece of its rail; and the keys of a set of rails tell them apart and lead back
to them exactly if no name contains the separator.
-/

namespace RevenueGuard.RailProofs

open Library Library.Raises Library.Separators Aggregator AggregatorProofs WindowProofs ScanProofs

variable {bank rail outcome outcome' uuid : String} {w w' : ℤ} {now : ℚ} {sets sets' : SortedSets}
  {names names' : String × String} {rails : Set (String × String)}

/-! ## Rails that share their keys -/

/-- The second bank is the first with a piece of the first rail. -/
def Shifted (names names' : String × String) : Prop :=
  ∃ piece, names'.1 = names.1 ++ ":" ++ piece ∧ names.2 = piece ++ ":" ++ names'.2

/-- The keys of two rails are the same text. -/
def SameKeys (names names' : String × String) : Prop := railName names.1 names.2 = railName names'.1 names'.2

theorem shifted_iff : Shifted names names' ↔ ∃ piece : List Char,
    names'.1.toList = names.1.toList ++ ':' :: piece ∧ names.2.toList = piece ++ ':' :: names'.2.toList := by
  constructor
  · rintro ⟨piece, banks, rails⟩
    exact ⟨piece.toList, by simp [banks], by simp [rails]⟩
  · rintro ⟨piece, banks, rails⟩
    exact ⟨String.ofList piece, String.toList_inj.mp (by simp [banks]), String.toList_inj.mp (by simp [rails])⟩

/-- Two rails have the same keys exactly if they are one rail, or a piece of the rail of the one
is a piece of the bank of the other. -/
theorem same_keys_iff :
    SameKeys names names' ↔ names = names' ∨ Shifted names names' ∨ Shifted names' names := by
  rw [SameKeys, railName, railName, ← String.toList_inj, shifted_iff, shifted_iff, Prod.ext_iff, ← String.toList_inj,
    ← String.toList_inj]
  simpa [String.toList_append] using append_separator_iff

/-- The breaker knows a rail by its keys. -/
theorem breaker_key_iff :
    CircuitBreaker.key names.1 names.2 = CircuitBreaker.key names'.1 names'.2 ↔ SameKeys names names' := by
  rw [breaker_key_eq, breaker_key_eq, String.append_right_inj]
  rfl

theorem keys_eq (same : SameKeys names names') : key names.1 names.2 = key names'.1 names'.2 := by
  funext w outcome
  have texts := congrArg String.toList same
  exact String.toList_inj.mp (by rw [key_to_list, key_to_list, texts])

/-- The aggregator knows a rail by its keys, a window and an outcome. -/
theorem aggregator_key_iff (window : w ∈ windows) (window' : w' ∈ windows) (known : outcome ∈ outcomes)
    (known' : outcome' ∈ outcomes) :
    key names.1 names.2 w outcome = key names'.1 names'.2 w' outcome' ↔
      SameKeys names names' ∧ w = w' ∧ outcome = outcome' := by
  constructor
  · exact key_inj known known' window window'
  · rintro ⟨same, rfl, rfl⟩
    rw [keys_eq same]

/-! ## The health state of a rail -/

/-- Rails of the same keys share their statistics. -/
theorem stats_shared (same : SameKeys names names') :
    getStats names.1 names.2 = getStats names'.1 names'.2 := by
  funext w now sets
  unfold getStats cleanupWindow cleanupOutcome
  rw [keys_eq same]

theorem recorded_elsewhere (apart : ¬ SameKeys names names')
    (recorded : recordOutcome names.1 names.2 outcome now uuid sets = .ok sets') (window : w ∈ windows)
    (known' : outcome' ∈ outcomes) :
    sets' (key names'.1 names'.2 w outcome') = sets (key names'.1 names'.2 w outcome') := by
  unfold recordOutcome at recorded
  split at recorded
  · cases recorded
  · rename_i known
    cases recorded
    refine record_windows_other fun w' window' same => apart ?_
    exact ((aggregator_key_iff window' window (not_not.mp known) known').mp same).1

/-- The statistics of a rail depend on its sets only. -/
theorem stats_of_sets (same : ∀ w ∈ windows, ∀ outcome ∈ outcomes,
    sets' (key names.1 names.2 w outcome) = sets (key names.1 names.2 w outcome)) (w : ℤ) (now : ℚ) :
    Agree (fun counted counted' => counted.2 = counted'.2) (getStats names.1 names.2 w now sets')
      (getStats names.1 names.2 w now sets) := by
  by_cases window : w ∈ windows
  · have counted : (Aggregator.stats w fun outcome =>
        (cleanupWindow names.1 names.2 w now sets' (key names.1 names.2 w outcome)).card now) =
        Aggregator.stats w fun outcome =>
          (cleanupWindow names.1 names.2 w now sets (key names.1 names.2 w outcome)).card now := by
      refine stats_congr fun outcome known => ?_
      rw [cleanup_window_at known window, cleanup_window_at known window, same w window outcome known]
    rw [get_stats_eq names.1 names.2 now sets' window, get_stats_eq names.1 names.2 now sets window]
    exact .ok counted
  · rw [getStats, getStats, validateWindow, if_pos window]
    exact .error _

/-- A simulated outage leaves the statistics of every rail that it does not share its keys with. -/
theorem outage_elsewhere {body : OutageSimulationRequest} {calls : Fin 60 → ℚ × String}
    (apart : ¬ SameKeys body.names names) (recorded : body.record calls sets = .ok sets') (w : ℤ) (now : ℚ) :
    Agree (fun counted counted' => counted.2 = counted'.2) (getStats names.1 names.2 w now sets')
      (getStats names.1 names.2 w now sets) := by
  unfold OutageSimulationRequest.record at recorded
  refine stats_of_sets (fun w window outcome known => ?_) w now
  generalize List.ofFn calls = calls at recorded
  induction calls generalizing sets with
  | nil => rw [pure_ok.mp recorded]
  | cons call calls ih =>
    rw [List.foldlM_cons] at recorded
    obtain ⟨between, first, rest⟩ := bind_ok.mp recorded
    rw [ih rest, recorded_elsewhere apart first window known]

/-! ## Rails that are told apart -/

/-- The keys tell the rails apart, and lead back to them. -/
structure ToldApart (rails : Set (String × String)) : Prop where
  aggregator : ∀ names ∈ rails, ∀ names' ∈ rails, ∀ w ∈ windows, ∀ w' ∈ windows, ∀ outcome ∈ outcomes,
    ∀ outcome' ∈ outcomes, key names.1 names.2 w outcome = key names'.1 names'.2 w' outcome' →
      names = names' ∧ w = w' ∧ outcome = outcome'
  breaker : ∀ names ∈ rails, ∀ names' ∈ rails,
    CircuitBreaker.key names.1 names.2 = CircuitBreaker.key names'.1 names'.2 → names = names'
  parsed : ∀ names ∈ rails, parseSuccessKey (key names.1 names.2 15 "success") = some names

theorem same_of_plain (plain : Plain names.2) (plain' : Plain names'.2) (same : SameKeys names names') :
    names = names' := by
  rcases same_keys_iff.mp same with same | ⟨piece, -, within⟩ | ⟨piece, -, within⟩
  · exact same
  · exact (plain (by simp [within])).elim
  · exact (plain' (by simp [within])).elim

/-- Rails are told apart, and the keys of their successes lead back to them, exactly if no name of
theirs contains the separator. -/
theorem told_apart_iff (rails : Set (String × String)) :
    ToldApart rails ↔ ∀ names ∈ rails, Plain names.1 ∧ Plain names.2 := by
  constructor
  · intro apart names admitted
    exact (parse_success_key_iff.mp (apart.parsed names admitted)).1
  · intro plain
    constructor
    case aggregator =>
      intro names admitted names' admitted' w window w' window' outcome known outcome' known' same
      obtain ⟨same, windows, outcomes⟩ := (aggregator_key_iff window window' known known').mp same
      exact ⟨same_of_plain (plain names admitted).2 (plain names' admitted').2 same, windows, outcomes⟩
    case breaker =>
      intro names admitted names' admitted' same
      exact same_of_plain (plain names admitted).2 (plain names' admitted').2 (breaker_key_iff.mp same)
    case parsed =>
      intro names admitted
      exact parse_success_key_iff.mpr ⟨plain names admitted, rfl⟩

/-- The rails that the requests for an outage name. -/
def requested : Set (String × String) :=
  {names | (∃ body : OutageSimulationRequest, body.names = names) ∧ names.1 ≠ "" ∧ names.2 ≠ ""}

/-- Two banks whose names differ by a piece of the rail. -/
theorem requested_confused :
    ("SBI:upi", "intent") ∈ requested ∧ ("SBI", "upi:intent") ∈ requested ∧
      key "SBI:upi" "intent" 15 "success" = key "SBI" "upi:intent" 15 "success" ∧
      CircuitBreaker.key "SBI:upi" "intent" = CircuitBreaker.key "SBI" "upi:intent" ∧
      parseSuccessKey (key "SBI" "upi:intent" 15 "success") = none ∧ ¬ ToldApart requested := by
  have first : ("SBI:upi", "intent") ∈ requested :=
    ⟨⟨{ bank := "SBI:upi", rail := "intent", valid := by decide }, by decide⟩, by decide, by decide⟩
  have second : ("SBI", "upi:intent") ∈ requested :=
    ⟨⟨{ bank := "SBI", rail := "upi:intent", valid := by decide }, by decide⟩, by decide, by decide⟩
  refine ⟨first, second, by decide, by decide, by decide, fun apart => ?_⟩
  exact absurd (apart.breaker _ first _ second (by decide)) (by decide)

end RevenueGuard.RailProofs
