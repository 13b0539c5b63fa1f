import Mathlib.Order.Lattice
import Mathlib.Data.List.Basic

/-!
Sorted sets of a store that expires its keys: members with a score, added one by
one, removed by a range of scores and counted.  Every command comes at a reading
of the clock by which the set expires; an empty set is no set, and loses its
expiry.  Members are listed in the order they were added.
-/

namespace RevenueGuard.Library

structure SortedSet (μ T : Type*) where
  members : List (μ × T) := []
  expiresAt : Option T := none

namespace SortedSet

variable {μ T : Type*} {set : SortedSet μ T} {now low high ttl score : T} {m : μ × T} {member : μ}

/-- A set with other members, or none without any. -/
def withMembers (set : SortedSet μ T) (members : List (μ × T)) : SortedSet μ T :=
  if members = [] then {} else { set with members }

theorem members_withMembers (members : List (μ × T)) : (set.withMembers members).members = members := by
  unfold withMembers
  split
  · rename_i none
    exact none.symm
  · rfl

theorem expires_withMembers {members : List (μ × T)} {expiry : T}
    (expires : (set.withMembers members).expiresAt = some expiry) : set.expiresAt = some expiry := by
  unfold withMembers at expires
  split at expires
  · cases expires
  · exact expires

theorem withMembers_withMembers (members : List (μ × T)) :
    (set.withMembers members).withMembers members = set.withMembers members := by
  unfold withMembers
  split <;> rfl

variable [LinearOrder T]

/-- The set a command finds: none, once its time has passed. -/
def live (now : T) (set : SortedSet μ T) : SortedSet μ T :=
  if set.expiresAt.any fun expiry => expiry < now then {} else set

/-- `ZADD` of one member: its score, whether or not it was there before. -/
def add [DecidableEq μ] (now : T) (member : μ) (score : T) (set : SortedSet μ T) : SortedSet μ T :=
  { set.live now with
    members := ((set.live now).members.filter fun m => m.1 ≠ member) ++ [(member, score)] }

/-- `ZREMRANGEBYSCORE`. -/
def removeByScore (now low high : T) (set : SortedSet μ T) : SortedSet μ T :=
  (set.live now).withMembers ((set.live now).members.filter fun m => ¬(low ≤ m.2 ∧ m.2 ≤ high))

/-- `EXPIRE`, which finds no set where there are no members. -/
def expire [Add T] (now ttl : T) (set : SortedSet μ T) : SortedSet μ T :=
  if (set.live now).members = [] then {} else { set.live now with expiresAt := some (now + ttl) }

/-- `ZCARD`. -/
def card (now : T) (set : SortedSet μ T) : ℕ := (set.live now).members.length

theorem mem_live (listed : m ∈ (set.live now).members) : m ∈ set.members := by
  unfold live at listed
  split at listed
  · cases listed
  · exact listed

theorem mem_add [DecidableEq μ] (listed : m ∈ (set.add now member score).members) :
    m = (member, score) ∨ m ∈ set.members := by
  rcases List.mem_append.mp listed with old | new
  · exact .inr (mem_live (List.mem_of_mem_filter old))
  · exact .inl (List.mem_singleton.mp new)

theorem mem_removeByScore (listed : m ∈ (set.removeByScore now low high).members) :
    m ∈ set.members ∧ ¬(low ≤ m.2 ∧ m.2 ≤ high) := by
  rw [removeByScore, members_withMembers] at listed
  obtain ⟨there, outside⟩ := List.mem_filter.mp listed
  exact ⟨mem_live there, of_decide_eq_true outside⟩

theorem mem_expire [Add T] (listed : m ∈ (set.expire now ttl).members) : m ∈ set.members := by
  unfold expire at listed
  split at listed
  · cases listed
  · exact mem_live listed

theorem live_eq (unexpired : ∀ expiry, set.expiresAt = some expiry → now ≤ expiry) : set.live now = set := by
  refine if_neg ?_
  intro expired
  obtain ⟨expiry, there, before⟩ := Option.any_eq_true _ _ |>.mp expired
  exact absurd (of_decide_eq_true before) (not_lt.mpr (unexpired expiry there))

/-- What a command finds has not expired. -/
theorem unexpired_live {expiry : T} (expires : (set.live now).expiresAt = some expiry) : now ≤ expiry := by
  unfold live at expires
  split at expires
  · cases expires
  · rename_i unexpired
    exact not_lt.mp fun before =>
      unexpired (Option.any_eq_true _ _ |>.mpr ⟨expiry, expires, decide_eq_true before⟩)

theorem members_expire [Add T] (unexpired : ∀ expiry, set.expiresAt = some expiry → now ≤ expiry) :
    (set.expire now ttl).members = set.members := by
  rw [expire, live_eq unexpired]
  split
  · rename_i none
    exact none.symm
  · rfl

theorem expires_expire [Add T] {expiry : T} (expires : (set.expire now ttl).expiresAt = some expiry) :
    expiry = now + ttl := by
  unfold expire at expires
  split at expires
  · cases expires
  · exact (Option.some.inj expires).symm

/-- Members outside the range stay. -/
theorem removeByScore_eq (unexpired : ∀ expiry, set.expiresAt = some expiry → now ≤ expiry)
    (outside : ∀ m ∈ set.members, ¬(low ≤ m.2 ∧ m.2 ≤ high)) :
    set.removeByScore now low high = set.withMembers set.members := by
  rw [removeByScore, live_eq unexpired]
  congr 1
  exact List.filter_eq_self.mpr fun m listed => decide_eq_true (outside m listed)

/-- A removal leaves nothing for the same removal to take. -/
theorem removeByScore_idempotent :
    (set.removeByScore now low high).removeByScore now low high = set.removeByScore now low high := by
  have unexpired : ∀ expiry, (set.removeByScore now low high).expiresAt = some expiry → now ≤ expiry :=
    fun _ expires => unexpired_live (expires_withMembers expires)
  rw [removeByScore_eq unexpired fun m listed => (mem_removeByScore listed).2]
  unfold removeByScore
  rw [members_withMembers, withMembers_withMembers]

/-- A new member joins a set none of whose members leave. -/
theorem recorded_eq [DecidableEq μ] [Add T] (unexpired : ∀ expiry, set.expiresAt = some expiry → now ≤ expiry)
    (new : ∀ m ∈ set.members, m.1 ≠ member) (outside : ∀ m ∈ set.members, ¬(low ≤ m.2 ∧ m.2 ≤ high))
    (scored : ¬(low ≤ score ∧ score ≤ high)) :
    (((set.add now member score).removeByScore now low high).expire now ttl) =
      { members := set.members ++ [(member, score)], expiresAt := some (now + ttl) } := by
  have added : set.add now member score = { set with members := set.members ++ [(member, score)] } := by
    rw [add, live_eq unexpired, List.filter_eq_self.mpr fun m listed => decide_eq_true (new m listed)]
  have kept : (set.add now member score).removeByScore now low high =
      { set with members := set.members ++ [(member, score)] } := by
    have outsideToo : ∀ m ∈ set.members ++ [(member, score)], ¬(low ≤ m.2 ∧ m.2 ≤ high) := by
      intro m listed
      rcases List.mem_append.mp listed with before | last
      · exact outside m before
      · rw [List.mem_singleton.mp last]
        exact scored
    rw [added]
    refine (removeByScore_eq ?_ outsideToo).trans (if_neg (by simp))
    exact unexpired
  rw [kept, expire, live_eq (by exact unexpired), if_neg (by simp)]

/-- A counted set has members. -/
theorem exists_mem_of_card (counted : 0 < set.card now) : ∃ m, m ∈ set.members := by
  obtain ⟨m, listed⟩ := List.exists_mem_of_length_pos counted
  exact ⟨m, mem_live listed⟩

end SortedSet

end RevenueGuard.Library
