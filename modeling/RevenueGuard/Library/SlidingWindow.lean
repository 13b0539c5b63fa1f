import Mathlib.Algebra.Order.Group.Basic
import Mathlib.Data.List.Sublists
import RevenueGuard.Library.SortedSets

/-!
A sorted set as the window of a log, with the times of the entries as scores.  Entries
older than a span leave the set when something is recorded and when the set is counted,
and with the expiry of the set.  `Tracks` says that none of the three takes a younger
one: for every later clock the set and the log have the same recent entries, and
`card_removeByScore` that a count taken after a cleanup is theirs.  `Newest` says how long
the set itself lives, whatever else there is in it.
-/

namespace RevenueGuard.Library.SlidingWindow

variable {μ T : Type*} [AddCommGroup T] [LinearOrder T] {span clock now low high ttl : T}
  {log members : List (μ × T)} {set : SortedSet μ T} {member : μ} {m : μ × T}

/-- The entries that are younger than a span. -/
def recent (span now : T) (entries : List (μ × T)) : List (μ × T) := entries.filter fun m => now - span < m.2

/-! ## Members -/

/-- The members are entries of the log, and from the clock on its recent ones are among them. -/
structure Covers (span : T) (log : List (μ × T)) (clock : T) (members : List (μ × T)) : Prop where
  logged : members.Sublist log
  kept : ∀ now, clock ≤ now → recent span now members = recent span now log

theorem covers_later (covers : Covers span log clock members) (later : clock ≤ now) :
    Covers span log now members :=
  ⟨covers.logged, fun after upto => covers.kept after (le_trans later upto)⟩

theorem covers_append (covers : Covers span log clock members) (m : μ × T) :
    Covers span (log ++ [m]) clock (members ++ [m]) := by
  constructor
  case logged => exact covers.logged.append (List.Sublist.refl [m])
  case kept =>
    intro now later
    rw [recent, recent, List.filter_append, List.filter_append]
    exact congrArg (· ++ _) (covers.kept now later)

variable [IsOrderedAddMonoid T]

/-- Nothing has to be kept of a log whose entries are all old. -/
theorem covers_nil (old : ∀ m ∈ log, m.2 + span ≤ clock) : Covers span log clock [] := by
  constructor
  case logged => exact List.nil_sublist log
  case kept =>
    intro now later
    refine (List.filter_eq_nil_iff.mpr ?_).symm
    intro m listed young
    have past : m.2 + span ≤ now := le_trans (old m listed) later
    exact absurd (of_decide_eq_true young) (not_lt.mpr (le_sub_iff_add_le.mpr past))

/-- Old entries may leave. -/
theorem covers_filter (covers : Covers span log clock members) (old : high ≤ clock - span) :
    Covers span log clock (members.filter fun m => ¬(low ≤ m.2 ∧ m.2 ≤ high)) := by
  constructor
  case logged => exact List.filter_sublist.trans covers.logged
  case kept =>
    intro now later
    rw [← covers.kept now later, recent, recent, List.filter_filter]
    refine List.filter_congr ?_
    intro m listed
    rw [Bool.and_eq_left_iff_imp]
    intro young
    have high_lt : high < m.2 := calc
      high ≤ clock - span := old
      _ ≤ now - span := sub_le_sub_right later span
      _ < m.2 := of_decide_eq_true young
    exact decide_eq_true fun within => absurd within.2 (not_le.mpr high_lt)

/-! ## Sets -/

/-- The set is the window of a log whose entries are not from the future, and lives as
long as it has to. -/
structure Tracks (span : T) (log : List (μ × T)) (clock : T) (set : SortedSet μ T) : Prop where
  covers : Covers span log clock set.members
  past : ∀ m ∈ log, m.2 ≤ clock
  outlives : ∀ expiry, set.expiresAt = some expiry → ∀ m ∈ log, m.2 + span ≤ expiry

theorem tracks_start (clock : T) : Tracks span [] clock ({} : SortedSet μ T) := by
  constructor
  case covers => exact covers_nil (by simp)
  case past => simp
  case outlives => simp

/-- An expiry takes old entries only. -/
theorem tracks_live (tracks : Tracks span log clock set) (later : clock ≤ now) :
    Tracks span log now (set.live now) := by
  have past : ∀ m ∈ log, m.2 ≤ now := fun m listed => le_trans (tracks.past m listed) later
  unfold SortedSet.live
  split
  · rename_i expired
    obtain ⟨expiry, there, before⟩ := Option.any_eq_true _ _ |>.mp expired
    have old : ∀ m ∈ log, m.2 + span ≤ now := fun m listed =>
      le_trans (tracks.outlives expiry there m listed) (of_decide_eq_true before).le
    exact ⟨covers_nil old, past, by simp⟩
  · exact ⟨covers_later tracks.covers later, past, tracks.outlives⟩

omit [IsOrderedAddMonoid T] in
theorem tracks_later (tracks : Tracks span log clock set) (later : clock ≤ now) : Tracks span log now set :=
  ⟨covers_later tracks.covers later, fun m listed => le_trans (tracks.past m listed) later, tracks.outlives⟩

theorem tracks_remove (tracks : Tracks span log clock set) (later : clock ≤ now) (old : high ≤ now - span) :
    Tracks span log now (set.removeByScore now low high) := by
  have live := tracks_live tracks later
  constructor
  case covers =>
    rw [SortedSet.removeByScore, SortedSet.members_withMembers]
    exact covers_filter live.covers old
  case past => exact live.past
  case outlives =>
    intro expiry expires
    exact live.outlives expiry (SortedSet.expires_withMembers expires)

/-- What a cleanup leaves is what the log has of the span, the cut-off not included. -/
theorem card_removeByScore (tracks : Tracks span log clock set) (later : clock ≤ now)
    (above : ∀ m ∈ log, low ≤ m.2) :
    (set.removeByScore now low (now - span)).card now = (recent span now log).length := by
  have live := tracks_live tracks later
  have unexpired : ∀ expiry,
      (set.removeByScore now low (now - span)).expiresAt = some expiry → now ≤ expiry :=
    fun _ expires => SortedSet.unexpired_live (SortedSet.expires_withMembers expires)
  have remaining :
      (set.removeByScore now low (now - span)).members = recent span now (set.live now).members := by
    rw [SortedSet.removeByScore, SortedSet.members_withMembers]
    refine List.filter_congr ?_
    intro m listed
    have above : low ≤ m.2 := above m (live.covers.logged.subset listed)
    simp [above]
  rw [SortedSet.card, SortedSet.live_eq unexpired, remaining, live.covers.kept now (le_refl now)]

variable [DecidableEq μ]

/-- A new entry is logged and added, old ones leave, and the set lives on for longer than
the span. -/
theorem tracks_recorded (tracks : Tracks span log clock set) (later : clock ≤ now)
    (new : ∀ m ∈ log, m.1 ≠ member) (longer : span ≤ ttl) :
    Tracks span (log ++ [(member, now)]) now
      (((set.add now member now).removeByScore now low (now - span)).expire now ttl) := by
  have live := tracks_live tracks later
  have past : ∀ m ∈ log ++ [(member, now)], m.2 ≤ now := by
    intro m listed
    rcases List.mem_append.mp listed with before | last
    · exact live.past m before
    · rw [List.mem_singleton.mp last]
  have added : (set.add now member now).members = (set.live now).members ++ [(member, now)] := by
    rw [SortedSet.add, List.filter_eq_self.mpr]
    intro m listed
    exact decide_eq_true (new m (live.covers.logged.subset listed))
  -- The commands find the set that the one before has left.
  have unexpired : ∀ expiry, (set.add now member now).expiresAt = some expiry → now ≤ expiry :=
    fun _ expires => SortedSet.unexpired_live expires
  have unexpiredStill : ∀ expiry,
      ((set.add now member now).removeByScore now low (now - span)).expiresAt = some expiry → now ≤ expiry :=
    fun _ expires => SortedSet.unexpired_live (SortedSet.expires_withMembers expires)
  constructor
  case covers =>
    rw [SortedSet.members_expire unexpiredStill, SortedSet.removeByScore, SortedSet.members_withMembers,
      SortedSet.live_eq unexpired, added]
    exact covers_filter (covers_append live.covers (member, now)) (le_refl _)
  case past => exact past
  case outlives =>
    intro expiry expires m listed
    rw [SortedSet.expires_expire expires]
    exact add_le_add (past m listed) longer

omit [AddCommGroup T] [IsOrderedAddMonoid T] [DecidableEq μ]

/-! ## The newest entry -/

/-- While the set has members, the newest is among them and gives it its expiry. -/
structure Newest (low newest expiry : T) (set : SortedSet μ T) : Prop where
  scores : ∀ m ∈ set.members, low ≤ m.2 ∧ m.2 ≤ newest
  held : set.members ≠ [] → (∃ m ∈ set.members, m.2 = newest) ∧ set.expiresAt = some expiry

variable {newest expiry : T}

theorem live_of_newest (top : Newest low newest expiry set) (some_ : set.members ≠ []) (upto : now ≤ expiry) :
    set.live now = set := by
  apply SortedSet.live_eq
  intro expiry' expires
  rw [(top.held some_).2] at expires
  cases expires
  exact upto

/-- The set lives for as long as its newest entry stays and its time has not passed. -/
theorem live_ne_nil_iff (top : Newest low newest expiry set) :
    (set.live now).members ≠ [] ↔ set.members ≠ [] ∧ now ≤ expiry := by
  constructor
  · intro lives
    obtain ⟨m, listed⟩ := List.exists_mem_of_ne_nil _ lives
    have some_ : set.members ≠ [] := List.ne_nil_of_mem (SortedSet.mem_live listed)
    refine ⟨some_, ?_⟩
    by_contra passed
    refine lives (congrArg SortedSet.members (if_pos ?_))
    rw [(top.held some_).2]
    exact decide_eq_true (not_le.mp passed)
  · rintro ⟨some_, upto⟩
    rwa [live_of_newest top some_ upto]

/-- A removal that leaves the newest entry leaves the set its expiry. -/
theorem newest_stays (top : Newest low newest expiry set) (some_ : set.members ≠ []) (young : high < newest)
    (upto : now ≤ expiry) : (∃ m ∈ (set.removeByScore now low high).members, m.2 = newest) ∧
      (set.removeByScore now low high).expiresAt = some expiry := by
  obtain ⟨⟨m, listed, rfl⟩, expires⟩ := top.held some_
  have kept : m ∈ set.members.filter fun m => ¬(low ≤ m.2 ∧ m.2 ≤ high) :=
    List.mem_filter.mpr ⟨listed, decide_eq_true fun old => absurd old.2 (not_le.mpr young)⟩
  rw [SortedSet.removeByScore, live_of_newest top some_ upto]
  refine ⟨⟨m, by rwa [SortedSet.members_withMembers], rfl⟩, ?_⟩
  rw [SortedSet.withMembers, if_neg (List.ne_nil_of_mem kept)]
  exact expires

/-- A removal leaves members just where it leaves the newest. -/
theorem removed_ne_nil_iff (top : Newest low newest expiry set) (outlives : high < newest → now ≤ expiry) :
    (set.removeByScore now low high).members ≠ [] ↔ set.members ≠ [] ∧ high < newest := by
  constructor
  · intro left
    obtain ⟨m, listed⟩ := List.exists_mem_of_ne_nil _ left
    obtain ⟨there, outside⟩ := SortedSet.mem_removeByScore listed
    have young : high < m.2 := not_le.mp fun old => outside ⟨(top.scores m there).1, old⟩
    exact ⟨List.ne_nil_of_mem there, lt_of_lt_of_le young (top.scores m there).2⟩
  · rintro ⟨some_, young⟩
    obtain ⟨m, listed, -⟩ := (newest_stays top some_ young (outlives young)).1
    exact List.ne_nil_of_mem listed

theorem newest_removed (top : Newest low newest expiry set) (outlives : high < newest → now ≤ expiry) :
    Newest low newest expiry (set.removeByScore now low high) := by
  constructor
  case scores => exact fun m listed => top.scores m (SortedSet.mem_removeByScore listed).1
  case held =>
    intro left
    obtain ⟨some_, young⟩ := (removed_ne_nil_iff top outlives).mp left
    exact newest_stays top some_ young (outlives young)

variable [DecidableEq μ] [Add T]

/-- What has just been recorded is the newest. -/
theorem newest_recorded (scores : ∀ m ∈ set.members, low ≤ m.2 ∧ m.2 ≤ now) (above : low ≤ now)
    (young : high < now) :
    (((set.add now member now).removeByScore now low high).expire now ttl).members ≠ [] ∧
      Newest low now (now + ttl) (((set.add now member now).removeByScore now low high).expire now ttl) := by
  have added : ∀ m ∈ (set.add now member now).members, low ≤ m.2 ∧ m.2 ≤ now := by
    intro m listed
    rcases SortedSet.mem_add listed with rfl | before
    · exact ⟨above, le_refl now⟩
    · exact scores m before
  have there : (member, now) ∈ (set.add now member now).members :=
    List.mem_append_right _ (List.mem_singleton_self _)
  -- The commands find the set that the one before has left.
  have unexpired : ∀ expiry, (set.add now member now).expiresAt = some expiry → now ≤ expiry :=
    fun _ expires => SortedSet.unexpired_live expires
  have unexpiredStill : ∀ expiry,
      ((set.add now member now).removeByScore now low high).expiresAt = some expiry → now ≤ expiry :=
    fun _ expires => SortedSet.unexpired_live (SortedSet.expires_withMembers expires)
  have stays : (member, now) ∈ ((set.add now member now).removeByScore now low high).members := by
    rw [SortedSet.removeByScore, SortedSet.members_withMembers, SortedSet.live_eq unexpired]
    exact List.mem_filter.mpr ⟨there, decide_eq_true fun old => absurd old.2 (not_le.mpr young)⟩
  have members : (((set.add now member now).removeByScore now low high).expire now ttl).members =
      ((set.add now member now).removeByScore now low high).members := SortedSet.members_expire unexpiredStill
  refine ⟨by rw [members]; exact List.ne_nil_of_mem stays, ?_, ?_⟩
  · intro m listed
    exact added m (SortedSet.mem_removeByScore (SortedSet.mem_expire listed)).1
  · intro _
    refine ⟨⟨(member, now), by rw [members]; exact stays, rfl⟩, ?_⟩
    rw [SortedSet.expire, if_neg]
    rw [SortedSet.live_eq unexpiredStill]
    exact List.ne_nil_of_mem stays

end RevenueGuard.Library.SlidingWindow
