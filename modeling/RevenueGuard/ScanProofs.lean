import RevenueGuard.WindowProofs

/-!
The rails that `get_all_banks_health` reports.  It finds a rail by the name of the set of
its successes, so it knows the rails whose set is still there: `reports_active_iff` says
exactly when these are, once each, the rails that have been used within the window.
-/

namespace RevenueGuard.ScanProofs

open Library Library.Runs Library.Separators Library.SlidingWindow Aggregator AggregatorProofs WindowProofs

variable {bank rail bank' rail' outcome uuid k : String} {now t u : ℚ} {sets sets' : SortedSets}
  {s s' : WindowStore} {e : WindowEvent} {es : List WindowEvent} {scanned : List String}

/-! ## Names -/

/-- The key of the successes of a rail in the window of the scan. -/
def successKey (bank rail : String) : String := key bank rail 15 "success"

theorem success_key_pieces (bank rail : String) : (successKey bank rail).toList =
    [':'].intercalate ["gw".toList, bank.toList, rail.toList, "15m".toList, "success".toList] := by
  have minutes : toString (15 : ℤ) = "15" := rfl
  simp [successKey, key, minutes, String.toList_append]

/-- A key is taken apart just where it is made of two names without a separator. -/
theorem parse_success_key_iff :
    parseSuccessKey k = some (bank, rail) ↔ (Plain bank ∧ Plain rail) ∧ k = successKey bank rail := by
  constructor
  · intro parsed
    unfold parseSuccessKey at parsed
    split at parsed
    · rename_i gw bank' rail' window outcome texts
      split at parsed
      · cases parsed
      · rename_i fields
        simp only [not_or, not_not] at fields
        obtain ⟨rfl, rfl, rfl⟩ := fields
        cases parsed
        have pieces : k.toList.splitOn ':' =
            ["gw".toList, bank.toList, rail.toList, "15m".toList, "success".toList] := by
          simpa [Function.comp_def] using congrArg (List.map String.toList) texts
        refine ⟨⟨?_, ?_⟩, String.toList_inj.mp ?_⟩
        · exact not_mem_of_mem_splitOn (by rw [pieces]; simp)
        · exact not_mem_of_mem_splitOn (by rw [pieces]; simp)
        · rw [success_key_pieces, ← pieces, List.intercalate_splitOn]
    · cases parsed
  · rintro ⟨⟨plain, plain'⟩, rfl⟩
    have separate : ∀ piece ∈ ["gw".toList, bank.toList, rail.toList, "15m".toList, "success".toList],
        ':' ∉ piece := by
      intro piece listed
      simp only [List.mem_cons, List.not_mem_nil, or_false] at listed
      rcases listed with rfl | rfl | rfl | rfl | rfl
      · decide
      · exact plain
      · exact plain'
      · decide
      · decide
    rw [parseSuccessKey, success_key_pieces, List.splitOn_intercalate _ separate (by simp)]
    simp

/-- Two names that lead from the key back to themselves. -/
def Nameable (bank rail : String) : Prop := (bank ≠ "" ∧ rail ≠ "") ∧ Plain bank ∧ Plain rail

/-- The rail whose statistics a key of the scan leads to. -/
def visited (k : String) : Option (String × String) :=
  (parseSuccessKey k).filter fun names => names.1 ≠ "" ∧ names.2 ≠ ""

theorem visited_iff : visited k = some (bank, rail) ↔ Nameable bank rail ∧ k = successKey bank rail := by
  rw [visited, Option.filter_eq_some_iff, parse_success_key_iff, decide_eq_true_eq, Nameable]
  tauto

/-- The key of the successes of two plain names is that of no other set. -/
theorem success_key_inj {w : ℤ} (plain : Plain bank ∧ Plain rail) (known : outcome ∈ outcomes)
    (window : w ∈ windows)
    (same : key bank' rail' w outcome = successKey bank rail) :
    bank' = bank ∧ rail' = rail ∧ w = 15 ∧ outcome = "success" := by
  obtain ⟨rails, rfl, rfl⟩ := key_inj known (by simp [outcomes]) window (by simp [windows]) same
  have texts : bank.toList ++ ':' :: rail.toList = bank'.toList ++ ':' :: rail'.toList := by
    simpa [railName, String.toList_append] using congrArg String.toList rails.symm
  obtain ⟨banks, rails⟩ := only_separator_inj plain.1 plain.2 texts
  exact ⟨(String.toList_inj.mp banks).symm, (String.toList_inj.mp rails).symm, rfl, rfl⟩

/-! ## The loop over the keys -/

/-- Every set is as it was, or has lost the members older than the window. -/
def Cleaned (now : ℚ) (sets sets' : SortedSets) : Prop :=
  ∀ k, sets' k = sets k ∨ sets' k = (sets k).removeByScore now 0 (now - (15 : ℤ) * 60)

theorem cleaned_cleanup (cleaned : Cleaned now sets sets') (bank rail : String) :
    Cleaned now sets (cleanupWindow bank rail 15 now sets') := by
  intro k
  by_cases mine : ∃ outcome ∈ outcomes, key bank rail 15 outcome = k
  · obtain ⟨outcome, known, rfl⟩ := mine
    rw [cleanup_window_at known (by simp [windows])]
    rcases cleaned (key bank rail 15 outcome) with same | same
    · exact .inr (by rw [same])
    · exact .inr (by rw [same, SortedSet.removeByScore_idempotent])
  · rw [cleanup_window_other fun outcome known same => mine ⟨outcome, known, same⟩]
    exact cleaned k

/-- The statistics of a rail at a reading. -/
def railStats (now : ℚ) (sets : SortedSets) (names : String × String) : RailStats where
  bank := names.1
  rail := names.2
  stats := Aggregator.stats 15 fun outcome =>
    (cleanupWindow names.1 names.2 15 now sets (key names.1 names.2 15 outcome)).card now

/-- What has been cleaned before makes no difference to the statistics. -/
theorem rail_stats_cleaned (cleaned : Cleaned now sets sets') (names : String × String) :
    railStats now sets' names = railStats now sets names := by
  refine congrArg (RailStats.mk names.1 names.2) (stats_congr ?_)
  intro outcome known
  rw [cleanup_window_at known (by simp [windows]), cleanup_window_at known (by simp [windows])]
  rcases cleaned (key names.1 names.2 15 outcome) with same | same
  · rw [same]
  · rw [same, SortedSet.removeByScore_idempotent]

/-- What the loop does to the sets at one key. -/
def sweep (now : ℚ) (sets : SortedSets) (k : String) : SortedSets :=
  match visited k with
  | none => sets
  | some names => cleanupWindow names.1 names.2 15 now sets

theorem visit_key_eq (now : ℚ) (acc : SortedSets × List RailStats) (k : String) :
    visitKey now acc k =
      .ok (sweep now acc.1 k, acc.2 ++ ((visited k).map (railStats now acc.1)).toList) := by
  unfold visitKey sweep visited
  cases parseSuccessKey k with
  | none =>
    simp only [Option.filter_none, Option.map_none, Option.toList_none, List.append_nil]
    rfl
  | some names =>
    by_cases said : names.1 ≠ "" ∧ names.2 ≠ ""
    · rw [Option.filter_some, if_pos (decide_eq_true said)]
      dsimp only
      rw [if_pos said, get_stats_eq _ _ _ _ (by simp [windows])]
      rfl
    · rw [Option.filter_some, if_neg (by simpa using said)]
      dsimp only
      rw [if_neg said, Option.map_none, Option.toList_none, List.append_nil]
      rfl

theorem cleaned_sweep (cleaned : Cleaned now sets sets') (k : String) :
    Cleaned now sets (sweep now sets' k) := by
  unfold sweep
  split
  · exact cleaned
  · exact cleaned_cleanup cleaned _ _

/-- The report has an entry for every key that leads to a rail, with the statistics of the
rail before the query. -/
theorem get_all_eq (now : ℚ) (scanned : List String) (sets : SortedSets) :
    getAllBanksHealth now scanned sets =
      .ok (scanned.foldl (sweep now) sets, (scanned.filterMap visited).map (railStats now sets)) := by
  have loop (entries : List RailStats) (sets' : SortedSets) (cleaned : Cleaned now sets sets') :
      scanned.foldlM (visitKey now) (sets', entries) =
        .ok (scanned.foldl (sweep now) sets',
          entries ++ (scanned.filterMap visited).map (railStats now sets)) := by
    induction scanned generalizing sets' entries with
    | nil =>
      rw [List.filterMap_nil, List.map_nil, List.append_nil]
      rfl
    | cons k scanned ih =>
      rw [List.foldlM_cons, visit_key_eq]
      show scanned.foldlM (visitKey now) _ = _
      rw [ih _ _ (cleaned_sweep cleaned k), List.foldl_cons, List.filterMap_cons]
      cases visited k with
      | none => simp
      | some names => simp [rail_stats_cleaned cleaned]
  exact loop [] sets fun k => .inl rfl

/-! ## The scan -/

/-- The key is that of a set at the reading. -/
def KeyExists (now : ℚ) (sets : SortedSets) (k : String) : Prop := ((sets k).live now).members ≠ []

/-- `gw:*:*:15m:success`. -/
def SuccessGlob (k : String) : Prop := ∃ bank rail, k = successKey bank rail

/-- What Redis promises of the keys that a scan returns while the loop runs: each matches and
was there at the start, as the loop makes none, and every key that matches and exists
throughout is among them, once or more often. -/
structure Scan (now : ℚ) (sets : SortedSets) (scanned : List String) : Prop where
  existed : ∀ k ∈ scanned, SuccessGlob k ∧ KeyExists now sets k
  complete : ∀ k, SuccessGlob k →
    (∀ taken sets' entries, taken <+: scanned → getAllBanksHealth now taken sets = .ok (sets', entries) →
      KeyExists now sets' k) → k ∈ scanned

/-- The loop leaves the successes of a rail alone until it meets their key. -/
theorem sweep_other (plain : Plain bank ∧ Plain rail) (absent : successKey bank rail ∉ scanned) :
    scanned.foldl (sweep now) sets (successKey bank rail) = sets (successKey bank rail) := by
  induction scanned generalizing sets with
  | nil => rfl
  | cons k scanned ih =>
    rw [List.mem_cons, not_or] at absent
    rw [List.foldl_cons, ih absent.2]
    unfold sweep
    cases found : visited k with
    | none => rfl
    | some names =>
      refine cleanup_window_other ?_
      intro outcome known same
      obtain ⟨rfl, rfl, -, rfl⟩ := success_key_inj plain known (by simp [windows]) same
      exact absent.1 (visited_iff.mp found).2.symm

/-- A rail's successes are scanned just where their key exists. -/
theorem mem_scanned_iff (scan : Scan now sets scanned) (plain : Plain bank ∧ Plain rail) :
    successKey bank rail ∈ scanned ↔ KeyExists now sets (successKey bank rail) := by
  refine ⟨fun listed => (scan.existed _ listed).2, ?_⟩
  intro exists_
  by_contra absent
  refine absent (scan.complete _ ⟨bank, rail, rfl⟩ ?_)
  intro taken sets' entries upto taken_ok
  rw [get_all_eq] at taken_ok
  cases taken_ok
  rw [KeyExists, sweep_other plain fun listed => absent (upto.subset listed)]
  exact exists_

/-- The entries for a rail are the returns of its key. -/
theorem countP_entries (sets : SortedSets) (nameable : Nameable bank rail) :
    ((scanned.filterMap visited).map (railStats now sets)).countP (fun e => e.bank = bank ∧ e.rail = rail) =
      scanned.count (successKey bank rail) := by
  rw [List.countP_map, List.countP_filterMap, List.count]
  apply List.countP_congr
  intro k _
  rw [beq_iff_eq]
  constructor
  · intro named
    cases found : visited k with
    | none => simp [found] at named
    | some names =>
      rw [found] at named
      obtain ⟨rfl, rfl⟩ : names.1 = bank ∧ names.2 = rail := of_decide_eq_true named
      exact (visited_iff.mp found).2
  · rintro rfl
    simp [visited_iff.mpr ⟨nameable, rfl⟩, railStats]

/-! ## How long a key lives -/

/-- A success was recorded for the rail at `u`. -/
def SuccessAt (bank rail : String) (es : List WindowEvent) (u : ℚ) : Prop :=
  ∃ uuid, .recordOutcome bank rail "success" u uuid ∈ es

/-- No statistics of the rail's fifteen minutes have been taken fifteen minutes after `u`
or later. -/
def Unswept (bank rail : String) (es : List WindowEvent) (u : ℚ) : Prop :=
  ∀ t, .getStats bank rail 15 t ∈ es → t < u + 900

/-- What a history has made of the successes of a rail. -/
inductive SuccessSet (bank rail : String) (es : List WindowEvent) (set : SortedSet String ℚ) : Prop where
  | never : (∀ u, ¬ SuccessAt bank rail es u) → set.members = [] → SuccessSet bank rail es set
  | last (u : ℚ) : SuccessAt bank rail es u → (∀ v, SuccessAt bank rail es v → v ≤ u) →
      Newest 0 u (u + 960) set → (set.members ≠ [] ↔ Unswept bank rail es u) → SuccessSet bank rail es set

theorem success_at_snoc : SuccessAt bank rail (es ++ [e]) u ↔
    SuccessAt bank rail es u ∨ ∃ uuid, e = .recordOutcome bank rail "success" u uuid := by
  simp only [SuccessAt, List.mem_append, List.mem_singleton, exists_or, eq_comm]

theorem unswept_snoc : Unswept bank rail (es ++ [e]) u ↔
    Unswept bank rail es u ∧ ∀ t, e = .getStats bank rail 15 t → t < u + 900 := by
  simp only [Unswept, List.mem_append, List.mem_singleton, or_imp, forall_and, eq_comm]

/-- A call that has nothing to do with the set leaves it as the history has made it. -/
theorem success_set_other {set : SortedSet String ℚ} (made : SuccessSet bank rail es set)
    (success : ∀ u uuid, e ≠ .recordOutcome bank rail "success" u uuid)
    (swept : ∀ t, e ≠ .getStats bank rail 15 t) :
    SuccessSet bank rail (es ++ [e]) set := by
  have same (u : ℚ) : SuccessAt bank rail (es ++ [e]) u ↔ SuccessAt bank rail es u := by
    rw [success_at_snoc]
    refine or_iff_left ?_
    rintro ⟨uuid, rfl⟩
    exact success u uuid rfl
  have sweeps (u : ℚ) : Unswept bank rail (es ++ [e]) u ↔ Unswept bank rail es u := by
    rw [unswept_snoc]
    exact and_iff_left fun t taken => absurd taken (swept t)
  cases made with
  | never none empty => exact .never (fun u at_ => none u ((same u).mp at_)) empty
  | last u at_ latest top stays =>
    exact .last u ((same u).mpr at_) (fun v at_ => latest v ((same v).mp at_)) top (by rw [sweeps, stays])

theorem success_set_recorded {set : SortedSet String ℚ} {member : String} (made : SuccessSet bank rail es set)
    (readings : ∀ e ∈ es, reading e ≤ now) (epoch : 0 ≤ now) :
    SuccessSet bank rail (es ++ [.recordOutcome bank rail "success" now uuid])
      (((set.add now member now).removeByScore now 0 (now - (15 : ℤ) * 60)).expire now ((15 : ℤ) * 60 + 60)) := by
  have scores : ∀ m ∈ set.members, 0 ≤ m.2 ∧ m.2 ≤ now := by
    cases made with
    | never _ empty => simp [empty]
    | last u at_ _ top _ =>
      obtain ⟨uuid, there⟩ := at_
      exact fun m listed => ⟨(top.scores m listed).1, le_trans (top.scores m listed).2 (readings _ there)⟩
  have ttl : ((15 : ℤ) : ℚ) * 60 + 60 = 960 := by norm_num
  have newest : (((set.add now member now).removeByScore now 0 (now - (15 : ℤ) * 60)).expire now
        ((15 : ℤ) * 60 + 60)).members ≠ [] ∧ Newest 0 now (now + ((15 : ℤ) * 60 + 60))
      (((set.add now member now).removeByScore now 0 (now - (15 : ℤ) * 60)).expire now ((15 : ℤ) * 60 + 60)) :=
    newest_recorded scores epoch (by norm_num)
  obtain ⟨some_, top⟩ := newest
  refine .last now ?_ ?_ (by rwa [ttl] at top ⊢) (iff_of_true some_ ?_)
  · exact success_at_snoc.mpr (.inr ⟨uuid, rfl⟩)
  · intro v at_
    rcases success_at_snoc.mp at_ with ⟨uuid, there⟩ | ⟨uuid, same⟩
    · exact readings _ there
    · cases same
      exact le_refl now
  · rw [unswept_snoc]
    refine ⟨?_, by simp⟩
    intro t there
    have : t ≤ now := readings _ there
    linarith

theorem success_set_swept {set : SortedSet String ℚ} (made : SuccessSet bank rail es set) :
    SuccessSet bank rail (es ++ [.getStats bank rail 15 now]) (set.removeByScore now 0 (now - (15 : ℤ) * 60)) := by
  have same (u : ℚ) :
      SuccessAt bank rail (es ++ [.getStats bank rail 15 now]) u ↔ SuccessAt bank rail es u := by
    rw [success_at_snoc]
    exact or_iff_left (by simp)
  cases made with
  | never none empty =>
    refine .never (fun u at_ => none u ((same u).mp at_)) (List.eq_nil_iff_forall_not_mem.mpr ?_)
    intro m listed
    exact List.not_mem_nil (empty ▸ (SortedSet.mem_removeByScore listed).1)
  | last u at_ latest top stays =>
    have minutes : ((15 : ℤ) : ℚ) * 60 = 900 := by norm_num
    have outlives : now - (15 : ℤ) * 60 < u → now ≤ u + 960 := by
      intro young
      linarith
    refine .last u ((same u).mpr at_) (fun v at_ => latest v ((same v).mp at_)) (newest_removed top outlives) ?_
    rw [removed_ne_nil_iff top outlives, stays, unswept_snoc]
    refine and_congr_right fun _ => ?_
    constructor
    · intro young t taken
      cases taken
      linarith
    · intro unswept
      have := unswept now rfl
      linarith

/-- Along every history the successes of two plain names are what it has made of them. -/
theorem success_set_run (plain : Plain bank ∧ Plain rail) (ran : run windowStep {} es = some s) :
    SuccessSet bank rail es (s.sets (successKey bank rail)) := by
  refine run_history (P := fun es (s : WindowStore) => SuccessSet bank rail es (s.sets (successKey bank rail)))
    (.never (by simp [SuccessAt]) rfl) ?_ ran
  intro es s e s' ranBefore made stepped
  have readings := readings_run ranBefore
  cases window_step_cases stepped with
  | @refused _ _ outcome _ _ _ unknown =>
    refine success_set_other made ?_ (by simp)
    intro u uuid same
    cases same
    exact unknown (by simp [outcomes])
  | @recorded bank' rail' outcome' now uuid later known =>
    by_cases mine : ∃ w ∈ windows, key bank' rail' w outcome' = successKey bank rail
    · obtain ⟨w, window, same⟩ := mine
      obtain ⟨rfl, rfl, -, rfl⟩ := success_key_inj plain known window same
      dsimp only
      rw [successKey, record_windows_at known (by simp [windows])]
      refine success_set_recorded made (fun e there => le_trans (readings e there).2 later) ?_
      exact (readings_run (run_snoc_iff.mpr ⟨s, ranBefore, stepped⟩) _
        (List.mem_append_right _ (List.mem_singleton_self _))).1
    · dsimp only
      rw [record_windows_other fun w window same => mine ⟨w, window, same⟩]
      refine success_set_other made ?_ (by simp)
      intro u uuid same
      cases same
      exact mine ⟨15, by simp [windows], rfl⟩
  | unsupported later unknown =>
    refine success_set_other made (by simp) ?_
    intro t same
    cases same
    exact unknown (by simp [windows])
  | @counted bank' rail' w now later window =>
    by_cases mine : ∃ outcome ∈ outcomes, key bank' rail' w outcome = successKey bank rail
    · obtain ⟨outcome, known, same⟩ := mine
      obtain ⟨rfl, rfl, rfl, rfl⟩ := success_key_inj plain known window same
      dsimp only
      rw [successKey, cleanup_window_at known window]
      exact success_set_swept made
    · dsimp only
      rw [cleanup_window_other fun outcome known same => mine ⟨outcome, known, same⟩]
      refine success_set_other made (by simp) ?_
      intro t same
      cases same
      exact mine ⟨"success", by simp [outcomes], rfl⟩

/-- A success of the rail from the last sixteen minutes, which no statistics have swept out. -/
def SuccessKept (bank rail : String) (es : List WindowEvent) (t : ℚ) : Prop :=
  ∃ u, SuccessAt bank rail es u ∧ t ≤ u + 960 ∧ Unswept bank rail es u

/-- The key of the rail's successes exists for as long as a success is kept. -/
theorem success_key_exists_iff (plain : Plain bank ∧ Plain rail) (ran : run windowStep {} es = some s) :
    KeyExists t s.sets (successKey bank rail) ↔ SuccessKept bank rail es t := by
  unfold KeyExists SuccessKept
  cases success_set_run plain ran with
  | never none empty =>
    refine iff_of_false ?_ ?_
    · intro lives
      obtain ⟨m, listed⟩ := List.exists_mem_of_ne_nil _ lives
      exact List.not_mem_nil (empty ▸ SortedSet.mem_live listed)
    · rintro ⟨u, at_, -⟩
      exact none u at_
  | last u at_ latest top stays =>
    rw [live_ne_nil_iff top, stays]
    constructor
    · rintro ⟨unswept, upto⟩
      exact ⟨u, at_, upto, unswept⟩
    · rintro ⟨v, at', upto, unswept⟩
      have := latest v at'
      exact ⟨fun t there => by linarith [unswept t there], by linarith⟩

/-- What a set of successes holds has been recorded as a success under its key. -/
theorem success_of_member {m : String × ℚ} (ran : run windowStep {} es = some s)
    (listed : m ∈ (s.sets (successKey bank rail)).members) :
    ∃ bank' rail' u, SuccessAt bank' rail' es u ∧ successKey bank' rail' = successKey bank rail := by
  refine run_history (P := fun es (s : WindowStore) => ∀ m ∈ (s.sets (successKey bank rail)).members,
    ∃ bank' rail' u, SuccessAt bank' rail' es u ∧ successKey bank' rail' = successKey bank rail)
    (by simp) ?_ ran m listed
  intro es s e s' _ before stepped m listed
  have earlier (there : m ∈ (s.sets (successKey bank rail)).members) :
      ∃ bank' rail' u, SuccessAt bank' rail' (es ++ [e]) u ∧ successKey bank' rail' = successKey bank rail := by
    obtain ⟨bank', rail', u, at_, same⟩ := before m there
    exact ⟨bank', rail', u, success_at_snoc.mpr (.inl at_), same⟩
  cases window_step_cases stepped with
  | refused | unsupported => exact earlier listed
  | @recorded bank' rail' outcome' now uuid later known =>
    have recorded : recordOutcome bank' rail' outcome' now uuid s.sets = .ok _ := if_neg (not_not.mpr known)
    rcases mem_record_outcome recorded listed with there | ⟨rfl, -, w, window, same⟩
    · exact earlier there
    · obtain ⟨-, rfl, rfl⟩ := key_inj (by simp [outcomes]) known (by simp [windows]) window same
      exact ⟨bank', rail', m.2, success_at_snoc.mpr (.inr ⟨uuid, rfl⟩), same.symm⟩
  | counted _ window => exact earlier (mem_cleanup window listed).1

/-! ## Reports -/

/-- Some outcome was recorded for the rail in the fifteen minutes until `t`. -/
def Active (bank rail : String) (es : List WindowEvent) (t : ℚ) : Prop :=
  ∃ outcome ∈ outcomes, ∃ now uuid, .recordOutcome bank rail outcome now uuid ∈ es ∧ t - 900 < now ∧ now ≤ t

/-- The report has one entry for each active rail and no other, with what `get_stats`
returns for it. -/
structure ReportsActive (es : List WindowEvent) (t : ℚ) (sets : SortedSets)
    (entries : List RailStats) : Prop where
  once : ∀ bank rail, Active bank rail es t → entries.countP (fun e => e.bank = bank ∧ e.rail = rail) = 1
  only : ∀ entry ∈ entries, Active entry.bank entry.rail es t
  stats : ∀ entry ∈ entries, ∃ sets', getStats entry.bank entry.rail 15 t sets = .ok (sets', entry.stats)

/-- Every active rail can be found: by its names, by a success that is kept, and by a key
that the scan does not repeat. -/
def Found (es : List WindowEvent) (t : ℚ) (scanned : List String) : Prop :=
  ∀ bank rail, Active bank rail es t →
    Nameable bank rail ∧ SuccessKept bank rail es t ∧ scanned.count (successKey bank rail) ≤ 1

/-- No rail is found by a success that has been kept for longer than the window. -/
def Current (es : List WindowEvent) (t : ℚ) : Prop :=
  ∀ bank rail, Nameable bank rail → SuccessKept bank rail es t → Active bank rail es t

theorem mem_entries {entry : RailStats}
    (listed : entry ∈ (scanned.filterMap visited).map (railStats now sets)) :
    Nameable entry.bank entry.rail ∧ successKey entry.bank entry.rail ∈ scanned ∧
      entry = railStats now sets (entry.bank, entry.rail) := by
  obtain ⟨names, there, rfl⟩ := List.mem_map.mp listed
  obtain ⟨k, scans, found⟩ := List.mem_filterMap.mp there
  obtain ⟨nameable, rfl⟩ := visited_iff.mp found
  exact ⟨nameable, scans, rfl⟩

/-- Each active rail has one entry, just where each can be found. -/
theorem once_iff (ran : run windowStep {} es = some s) (scan : Scan t s.sets scanned) :
    (∀ bank rail, Active bank rail es t → ((scanned.filterMap visited).map (railStats t s.sets)).countP
      (fun e => e.bank = bank ∧ e.rail = rail) = 1) ↔ Found es t scanned := by
  refine forall_congr' fun bank => forall_congr' fun rail => imp_congr_right fun _ => ?_
  constructor
  · intro once
    obtain ⟨entry, listed, named⟩ := List.countP_pos_iff.mp (once.symm ▸ Nat.one_pos)
    obtain ⟨rfl, rfl⟩ := of_decide_eq_true named
    obtain ⟨nameable, scans, -⟩ := mem_entries listed
    rw [countP_entries s.sets nameable] at once
    refine ⟨nameable, ?_, once.le⟩
    rwa [← success_key_exists_iff nameable.2 ran, ← mem_scanned_iff scan nameable.2]
  · rintro ⟨nameable, kept, unrepeated⟩
    rw [countP_entries s.sets nameable]
    rw [← success_key_exists_iff nameable.2 ran, ← mem_scanned_iff scan nameable.2] at kept
    have := List.count_pos_iff.mpr kept
    omega

theorem only_iff (ran : run windowStep {} es = some s) (scan : Scan t s.sets scanned) :
    (∀ entry ∈ (scanned.filterMap visited).map (railStats t s.sets), Active entry.bank entry.rail es t) ↔
      Current es t := by
  constructor
  · intro only bank rail nameable kept
    rw [← success_key_exists_iff nameable.2 ran, ← mem_scanned_iff scan nameable.2] at kept
    have found : visited (successKey bank rail) = some (bank, rail) := visited_iff.mpr ⟨nameable, rfl⟩
    exact only (railStats t s.sets (bank, rail))
      (List.mem_map_of_mem (List.mem_filterMap.mpr ⟨_, kept, found⟩))
  · intro current entry listed
    obtain ⟨nameable, scans, -⟩ := mem_entries listed
    rw [mem_scanned_iff scan nameable.2, success_key_exists_iff nameable.2 ran] at scans
    exact current _ _ nameable scans

/-- The report is of the active rails, just where all of these can be found and no other. -/
theorem reports_active_iff (ran : run windowStep {} es = some s) (scan : Scan t s.sets scanned) :
    ∃ sets' entries, getAllBanksHealth t scanned s.sets = .ok (sets', entries) ∧
      (ReportsActive es t s.sets entries ↔ Found es t scanned ∧ Current es t) := by
  refine ⟨_, _, get_all_eq t scanned s.sets, ?_⟩
  rw [← once_iff ran scan, ← only_iff ran scan]
  constructor
  · exact fun reports => ⟨reports.once, reports.only⟩
  · rintro ⟨once, only⟩
    refine ⟨once, only, ?_⟩
    intro entry listed
    rw [(mem_entries listed).2.2]
    exact ⟨_, get_stats_eq _ _ _ _ (by simp [windows])⟩

/-- A success of a second ago. -/
def paidOnce : List WindowEvent := [.recordOutcome "HDFC" "upi" "success" 1000 "a"]

theorem paid_once_at (at_ : SuccessAt bank rail paidOnce u) : bank = "HDFC" ∧ rail = "upi" ∧ u = 1000 := by
  obtain ⟨uuid, there⟩ := at_
  cases List.mem_singleton.mp there
  exact ⟨rfl, rfl, rfl⟩

theorem paid_once_kept : SuccessKept "HDFC" "upi" paidOnce 1001 :=
  ⟨1000, ⟨"a", List.mem_singleton_self _⟩, by norm_num, by simp [Unswept, paidOnce]⟩

theorem plain_hdfc : Nameable "HDFC" "upi" :=
  ⟨⟨by decide, by decide⟩, (by decide : ':' ∉ "HDFC".toList), (by decide : ':' ∉ "upi".toList)⟩

theorem paid_once_scan (ran : run windowStep {} paidOnce = some s) :
    Scan 1001 s.sets [successKey "HDFC" "upi"] := by
  constructor
  case existed =>
    intro k scans
    rw [List.mem_singleton.mp scans]
    exact ⟨⟨_, _, rfl⟩, (success_key_exists_iff plain_hdfc.2 ran).mpr paid_once_kept⟩
  case complete =>
    rintro k ⟨bank, rail, rfl⟩ throughout
    have exists_ := throughout [] _ _ (List.nil_prefix) (get_all_eq 1001 [] s.sets)
    obtain ⟨m, listed⟩ := List.exists_mem_of_ne_nil _ exists_
    obtain ⟨bank', rail', u, at_, same⟩ := success_of_member ran (SortedSet.mem_live listed)
    obtain ⟨rfl, rfl, -⟩ := paid_once_at at_
    exact List.mem_singleton.mpr same.symm

theorem reports_active_paid_once :
    ∃ s sets' entries, run windowStep {} paidOnce = some s ∧
      getAllBanksHealth 1001 [successKey "HDFC" "upi"] s.sets = .ok (sets', entries) ∧
      ReportsActive paidOnce 1001 s.sets entries := by
  obtain ⟨s, ran⟩ := Option.isSome_iff_exists.mp
    (show (run windowStep {} paidOnce).isSome from by decide +kernel)
  obtain ⟨sets', entries, answered, reports⟩ := reports_active_iff ran (paid_once_scan ran)
  refine ⟨s, sets', entries, ran, answered, reports.mpr ⟨?_, ?_⟩⟩
  · rintro bank rail ⟨outcome, -, now, uuid, there, -⟩
    cases List.mem_singleton.mp there
    exact ⟨plain_hdfc, paid_once_kept, by simp⟩
  · rintro bank rail - ⟨u, at_, -⟩
    obtain ⟨rfl, rfl, -⟩ := paid_once_at at_
    exact ⟨"success", by simp [outcomes], 1000, "a", List.mem_singleton_self _, by norm_num, by norm_num⟩

/-! ## Outages -/

/-- Every history is reported rail by rail. -/
def ActiveReported : Prop :=
  ∀ es s t scanned sets' entries, run windowStep {} es = some s → Scan t s.sets scanned →
    getAllBanksHealth t scanned s.sets = .ok (sets', entries) → ReportsActive es t s.sets entries

/-- While nothing succeeds, the scan has nothing to return. -/
theorem scan_outage_iff (ran : run windowStep {} es = some s)
    (outage : ∀ bank rail u, ¬ SuccessAt bank rail es u) :
    Scan t s.sets scanned ↔ scanned = [] := by
  have absent (bank rail : String) : ¬ KeyExists t s.sets (successKey bank rail) := by
    intro exists_
    obtain ⟨m, listed⟩ := List.exists_mem_of_ne_nil _ exists_
    obtain ⟨bank', rail', u, at_, -⟩ := success_of_member ran (SortedSet.mem_live listed)
    exact outage bank' rail' u at_
  constructor
  · intro scan
    apply List.eq_nil_iff_forall_not_mem.mpr
    intro k scans
    obtain ⟨⟨bank, rail, rfl⟩, exists_⟩ := scan.existed k scans
    exact absent bank rail exists_
  · rintro rfl
    refine ⟨by simp, ?_⟩
    rintro k ⟨bank, rail, rfl⟩ throughout
    exact absurd (throughout [] _ _ List.nil_prefix (get_all_eq t [] s.sets)) (absent bank rail)

/-- A payment that times out is the only one of its rail, which the report leaves out. -/
theorem outage_unreported : ¬ ActiveReported := by
  intro reported
  obtain ⟨s, ran⟩ := Option.isSome_iff_exists.mp
    (show (run windowStep {} [.recordOutcome "HDFC" "upi" "timeout" 1000 "a"]).isSome from by decide +kernel)
  have outage : ∀ bank rail u, ¬ SuccessAt bank rail [.recordOutcome "HDFC" "upi" "timeout" 1000 "a"] u := by
    rintro bank rail u ⟨uuid, there⟩
    exact absurd (List.mem_singleton.mp there) (by simp)
  have reports :=
    reported _ s 1001 [] _ _ ran ((scan_outage_iff ran outage).mpr rfl) (get_all_eq 1001 [] s.sets)
  have once := reports.once "HDFC" "upi"
    ⟨"timeout", by simp [outcomes], 1000, "a", List.mem_singleton_self _, by norm_num, by norm_num⟩
  cases once

end RevenueGuard.ScanProofs
