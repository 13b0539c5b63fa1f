import Mathlib.Data.List.Nodup
import RevenueGuard.Aggregator
import RevenueGuard.Library.Separators

/-!
What the sorted sets of the aggregator hold.  A key names its window, its outcome
and its rail, so the loops of a call write every set once; every member was recorded
under its key at the time of its score; and a rate of technical failures is positive
only where a failure has been recorded within the window.
-/

namespace RevenueGuard.AggregatorProofs

open Library Library.Separators Aggregator

variable {bank rail bank' rail' outcome outcome' uuid k : String} {w w' : ℤ} {now : ℚ}
  {sets sets' : SortedSets} {stats : GatewayStats} {m : String × ℚ}

/-! ## Keys -/

/-- What the keys of both stores make of a bank and a rail. -/
def railName (bank rail : String) : String := bank ++ ":" ++ rail

theorem breaker_key_eq (bank rail : String) : CircuitBreaker.key bank rail = "cb:" ++ railName bank rail := by
  simp [CircuitBreaker.key, railName, String.append_assoc]

theorem key_to_list (bank rail : String) (w : ℤ) (outcome : String) :
    (key bank rail w outcome).toList = ("gw:".toList ++ (railName bank rail).toList) ++
      ':' :: ((toString w).toList ++ ['m']) ++ ':' :: outcome.toList := by
  simp [key, railName, String.toList_append]

theorem outcome_plain (known : outcome ∈ outcomes) : ':' ∉ outcome.toList := by
  simp only [outcomes, List.mem_cons, List.not_mem_nil, or_false] at known
  rcases known with rfl | rfl | rfl | rfl <;> decide

theorem window_plain (known : w ∈ windows) : ':' ∉ (toString w).toList ++ ['m'] := by
  simp only [windows, List.mem_cons, List.not_mem_nil, or_false] at known
  rcases known with rfl | rfl | rfl <;> decide

theorem window_text_inj (known : w ∈ windows) (known' : w' ∈ windows)
    (same : (toString w).toList ++ ['m'] = (toString w').toList ++ ['m']) : w = w' := by
  simp only [windows, List.mem_cons, List.not_mem_nil, or_false] at known known'
  rcases known with rfl | rfl | rfl <;> rcases known' with rfl | rfl | rfl <;>
    first | rfl | exact absurd same (by decide)

/-- A key names its window and its outcome, and its rail as far as the separators tell. -/
theorem key_inj (known : outcome ∈ outcomes) (known' : outcome' ∈ outcomes) (window : w ∈ windows)
    (window' : w' ∈ windows) (same : key bank rail w outcome = key bank' rail' w' outcome') :
    railName bank rail = railName bank' rail' ∧ w = w' ∧ outcome = outcome' := by
  have texts := congrArg String.toList same
  rw [key_to_list, key_to_list] at texts
  obtain ⟨heads, outcomes_eq⟩ := append_separator_inj (outcome_plain known) (outcome_plain known') texts
  obtain ⟨rails, windows_eq⟩ := append_separator_inj (window_plain window) (window_plain window') heads
  exact ⟨String.toList_inj.mp (List.append_cancel_left rails), window_text_inj window window' windows_eq,
    String.toList_inj.mp outcomes_eq⟩

/-! ## Loops over keys -/

section Loops

variable {ι κ α : Type} [DecidableEq κ] {table : κ → α} {is : List ι} {i : ι} {k : κ}

theorem foldl_update_other (key : ι → κ) (f : ι → α → α) (other : ∀ i ∈ is, key i ≠ k) :
    is.foldl (fun table i => Function.update table (key i) (f i (table (key i)))) table k = table k := by
  induction is generalizing table with
  | nil => rfl
  | cons first rest ih =>
    rw [List.foldl_cons, ih fun i listed => other i (List.mem_cons_of_mem _ listed)]
    exact Function.update_of_ne (other first List.mem_cons_self).symm ..

/-- A loop over different keys takes each to the next value once. -/
theorem foldl_update_mem (key : ι → κ) (f : ι → α → α) (apart : (is.map key).Nodup) (listed : i ∈ is) :
    is.foldl (fun table i => Function.update table (key i) (f i (table (key i)))) table (key i) =
      f i (table (key i)) := by
  induction is generalizing table with
  | nil => cases listed
  | cons first rest ih =>
    obtain ⟨fresh, apart⟩ := List.nodup_cons.mp apart
    rw [List.foldl_cons]
    rcases List.mem_cons.mp listed with rfl | later
    · have others : ∀ j ∈ rest, key j ≠ key i := fun j there same =>
        fresh (List.mem_map.mpr ⟨j, there, same⟩)
      rw [foldl_update_other key f others, Function.update_self]
    · have other : key i ≠ key first := fun same => fresh (same ▸ List.mem_map_of_mem later)
      rw [ih apart later, Function.update_of_ne other]

end Loops

/-! ## Sets -/

theorem window_keys_apart (bank rail : String) (known : outcome ∈ outcomes) :
    (windows.map fun w => key bank rail w outcome).Nodup := by
  refine List.Nodup.map_on ?_ (by decide)
  intro w window w' window' same
  exact (key_inj known known window window' same).2.1

theorem outcome_keys_apart (bank rail : String) (window : w ∈ windows) :
    (outcomes.map fun outcome => key bank rail w outcome).Nodup := by
  refine List.Nodup.map_on ?_ (by decide)
  intro outcome known outcome' known' same
  exact (key_inj known known' window window same).2.2

/-- `record_outcome` writes the set of each window once. -/
theorem record_windows_at {member : String} (known : outcome ∈ outcomes) (window : w ∈ windows) :
    windows.foldl (recordWindow bank rail outcome member now) sets (key bank rail w outcome) =
      (((sets (key bank rail w outcome)).add now member now).removeByScore now 0 (now - w * 60)).expire now
        (w * 60 + 60) :=
  foldl_update_mem (fun w => key bank rail w outcome)
    (fun (w : ℤ) (set : SortedSet String ℚ) =>
      ((set.add now member now).removeByScore now 0 (now - w * 60)).expire now (w * 60 + 60))
    (window_keys_apart bank rail known) window

theorem record_windows_other {member k : String} (other : ∀ w ∈ windows, key bank rail w outcome ≠ k) :
    windows.foldl (recordWindow bank rail outcome member now) sets k = sets k :=
  foldl_update_other (fun w => key bank rail w outcome)
    (fun (w : ℤ) (set : SortedSet String ℚ) =>
      ((set.add now member now).removeByScore now 0 (now - w * 60)).expire now (w * 60 + 60)) other

/-- A cleanup takes old members of the sets of its window. -/
theorem cleanup_window_at (known : outcome ∈ outcomes) (window : w ∈ windows) :
    cleanupWindow bank rail w now sets (key bank rail w outcome) =
      (sets (key bank rail w outcome)).removeByScore now 0 (now - w * 60) :=
  foldl_update_mem (fun outcome => key bank rail w outcome)
    (fun _ (set : SortedSet String ℚ) => set.removeByScore now 0 (now - w * 60))
    (outcome_keys_apart bank rail window) known

theorem cleanup_window_other {k : String} (other : ∀ outcome ∈ outcomes, key bank rail w outcome ≠ k) :
    cleanupWindow bank rail w now sets k = sets k :=
  foldl_update_other (fun outcome => key bank rail w outcome)
    (fun _ (set : SortedSet String ℚ) => set.removeByScore now 0 (now - w * 60)) other

/-! ## Members -/

/-- A member that `record_outcome` adds has the time of the call as its score. -/
theorem mem_record_outcome (recorded : recordOutcome bank rail outcome now uuid sets = .ok sets')
    (listed : m ∈ (sets' k).members) :
    m ∈ (sets k).members ∨
      m.2 = now ∧ outcome ∈ outcomes ∧ ∃ w ∈ windows, k = key bank rail w outcome := by
  unfold recordOutcome at recorded
  split at recorded
  · cases recorded
  · rename_i known
    have known := not_not.mp known
    cases recorded
    by_cases mine : ∃ w ∈ windows, key bank rail w outcome = k
    · obtain ⟨w, window, rfl⟩ := mine
      rw [record_windows_at known window] at listed
      rcases SortedSet.mem_add (SortedSet.mem_removeByScore (SortedSet.mem_expire listed)).1 with rfl | before
      · exact .inr ⟨rfl, known, w, window, rfl⟩
      · exact .inl before
    · rw [record_windows_other fun w window same => mine ⟨w, window, same⟩] at listed
      exact .inl listed

theorem mem_cleanup (window : w ∈ windows) (listed : m ∈ (cleanupWindow bank rail w now sets k).members) :
    m ∈ (sets k).members ∧
      ∀ outcome ∈ outcomes, k = key bank rail w outcome → ¬(0 ≤ m.2 ∧ m.2 ≤ now - w * 60) := by
  by_cases mine : ∃ outcome ∈ outcomes, key bank rail w outcome = k
  · obtain ⟨outcome, known, rfl⟩ := mine
    rw [cleanup_window_at known window] at listed
    obtain ⟨before, outside⟩ := SortedSet.mem_removeByScore listed
    exact ⟨before, fun _ _ _ => outside⟩
  · rw [cleanup_window_other fun outcome known same => mine ⟨outcome, known, same⟩] at listed
    exact ⟨listed, fun outcome known named => (mine ⟨outcome, known, named.symm⟩).elim⟩

/-! ## Rates -/

/-- What the statistics are taken of. -/
theorem get_stats_eq (bank rail : String) (now : ℚ) (sets : SortedSets) (window : w ∈ windows) :
    getStats bank rail w now sets = .ok (cleanupWindow bank rail w now sets, Aggregator.stats w fun outcome =>
      (cleanupWindow bank rail w now sets (key bank rail w outcome)).card now) := by
  rw [getStats, validateWindow, if_neg (not_not.mpr window)]
  rfl

theorem get_stats_ok (counted : getStats bank rail w now sets = .ok (sets', stats)) :
    w ∈ windows ∧ sets' = cleanupWindow bank rail w now sets ∧ stats = Aggregator.stats w fun outcome =>
      (cleanupWindow bank rail w now sets (key bank rail w outcome)).card now := by
  by_cases window : w ∈ windows
  · rw [get_stats_eq bank rail now sets window] at counted
    cases counted
    exact ⟨window, rfl, rfl⟩
  · simp only [getStats, validateWindow, if_pos window] at counted
    cases counted

theorem stats_congr {count count' : String → ℕ} (same : ∀ outcome ∈ outcomes, count outcome = count' outcome) :
    Aggregator.stats w count = Aggregator.stats w count' := by
  unfold Aggregator.stats
  rw [List.map_congr_left same, same "success" (by simp [outcomes]), same "technical_decline" (by simp [outcomes]),
    same "business_decline" (by simp [outcomes]), same "timeout" (by simp [outcomes])]

theorem rate_zero (total : ℕ) : rate 0 total = 0 := by
  unfold rate
  split
  · rfl
  · simp [roundQuotient, roundHalfEven]

/-- The outcomes that count as technical failures. -/
def failures : List String := ["technical_decline", "timeout"]

/-- A positive rate of technical failures rests on a member that is younger than the
window. -/
theorem failure_in_window (counted : getStats bank rail w now sets = .ok (sets', stats))
    (positive : 0 < stats.technicalFailureRate) :
    ∃ outcome ∈ failures, ∃ m ∈ (sets (key bank rail w outcome)).members,
      ¬(0 ≤ m.2 ∧ m.2 ≤ now - w * 60) := by
  obtain ⟨window, rfl, rfl⟩ := get_stats_ok counted
  -- One of the two sets has a member after the cleanup.
  obtain ⟨outcome, failed, some_⟩ : ∃ outcome ∈ failures,
      0 < (cleanupWindow bank rail w now sets (key bank rail w outcome)).card now := by
    by_contra none
    have empty (outcome : String) (failed : outcome ∈ failures) :
        (cleanupWindow bank rail w now sets (key bank rail w outcome)).card now = 0 :=
      Nat.eq_zero_of_not_pos fun some_ => none ⟨outcome, failed, some_⟩
    simp only [Aggregator.stats, empty "technical_decline" (by simp [failures]),
      empty "timeout" (by simp [failures]), Nat.add_zero, rate_zero, lt_irrefl] at positive
  obtain ⟨m, listed⟩ := SortedSet.exists_mem_of_card some_
  obtain ⟨before, outside⟩ := mem_cleanup window listed
  have known : outcome ∈ outcomes := by
    simp only [failures, List.mem_cons, List.not_mem_nil, or_false] at failed
    rcases failed with rfl | rfl <;> simp [outcomes]
  exact ⟨outcome, failed, m, before, outside outcome known rfl⟩

end RevenueGuard.AggregatorProofs
