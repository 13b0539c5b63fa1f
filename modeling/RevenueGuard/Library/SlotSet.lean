import Mathlib.Data.List.Nodup
import Mathlib.Data.List.Perm.Subperm
import Mathlib.Data.List.ReduceOption

/-!
A hash set as a table of slots, and its iterator.  An iterator holds the number of members
it began with and its position in the table; asked for the next member, it raises if the
number is another one by then.  It does not notice when members are exchanged, or when an
insertion rebuilds the table in another order.

Where an insertion puts a member depends on hashes, so the place is an argument.
`next_yields` and `next_stops` say what a step of the iterator does to the members it has
passed and to those ahead of it.
-/

namespace RevenueGuard.Library.SlotSet

variable {α : Type*}

/-- The slots; `none` is one without a member. -/
abbrev Table (α : Type*) := List (Option α)

def members (t : Table α) : List α := t.reduceOption

def size (t : Table α) : ℕ := (members t).length

theorem mem_members {t : Table α} {x : α} : x ∈ members t ↔ some x ∈ t := List.reduceOption_mem_iff

/-! ## Positions -/

/-- The members in front of a position. -/
def passed (pos : ℕ) (t : Table α) : List α := members (t.take pos)

/-- The members from a position on. -/
def ahead (pos : ℕ) (t : Table α) : List α := members (t.drop pos)

theorem passed_ahead (pos : ℕ) (t : Table α) : passed pos t ++ ahead pos t = members t := by
  unfold passed ahead members
  rw [← List.reduceOption_append, List.take_append_drop]

theorem ahead_start (t : Table α) : ahead 0 t = members t := by rw [ahead, List.drop_zero]

/-- Without repetitions, a member is ahead of a position or passed. -/
theorem ahead_iff {pos : ℕ} {t : Table α} {x : α} (unique : (members t).Nodup) :
    x ∈ ahead pos t ↔ x ∈ members t ∧ x ∉ passed pos t := by
  rw [← passed_ahead pos t] at unique ⊢
  rw [List.mem_append]
  constructor
  · intro later
    exact ⟨.inr later, fun earlier => List.disjoint_of_nodup_append unique earlier later⟩
  · rintro ⟨earlier | later, unpassed⟩
    · exact absurd earlier unpassed
    · exact later

/-- No member of the first table changes sides of a position. -/
def KeepsSides (pos : ℕ) (t t' : Table α) : Prop := ∀ y ∈ members t, y ∈ passed pos t' ↔ y ∈ passed pos t

/-- A new member adds at most itself to those ahead. -/
theorem ahead_length_le {pos : ℕ} {t t' : Table α} {x : α} (unique : (members t').Nodup)
    (unique' : (members t).Nodup) (grown : ∀ y ∈ members t', y = x ∨ y ∈ members t)
    (keeps : KeepsSides pos t t') : (ahead pos t').length ≤ (ahead pos t).length + 1 := by
  have ahead' : ahead pos t' ⊆ x :: ahead pos t := by
    intro y later
    obtain ⟨member, unpassed⟩ := (ahead_iff unique).mp later
    rcases grown y member with rfl | known
    · exact List.mem_cons_self
    · refine List.mem_cons_of_mem _ ((ahead_iff unique').mpr ⟨known, ?_⟩)
      exact fun earlier => unpassed ((keeps y known).mpr earlier)
  have distinct : (ahead pos t').Nodup := by
    rw [← passed_ahead pos t'] at unique
    exact unique.of_append_right
  exact (distinct.subperm ahead').length_le

/-! ## Iterators -/

/-- An iterator: the number of members when it began, and its position. -/
structure Cursor where
  used : ℕ
  pos : ℕ

/-- `iter(set)`. -/
def iter (t : Table α) : Cursor := ⟨size t, 0⟩

/-- What `next(iterator)` does. -/
inductive Next (α : Type*) where
  | raises
  | stops
  | yields (x : α) (cursor : Cursor)

/-- The first member of a table whose slots are numbered from `i`. -/
def firstMember : ℕ → Table α → Option (ℕ × α)
  | _, [] => none
  | i, some x :: _ => some (i, x)
  | i, none :: rest => firstMember (i + 1) rest

/-- `next(iterator)`. -/
def next (cursor : Cursor) (t : Table α) : Next α :=
  if size t ≠ cursor.used then .raises
  else match firstMember cursor.pos (t.drop cursor.pos) with
    | none => .stops
    | some (i, x) => .yields x { cursor with pos := i + 1 }

theorem first_member_some {t : Table α} {i j : ℕ} {x : α} (found : firstMember i t = some (j, x)) :
    ∃ k, j = i + k ∧ members (t.take (k + 1)) = [x] ∧ members t = x :: members (t.drop (k + 1)) := by
  induction t generalizing i with
  | nil => cases found
  | cons slot rest ih =>
    unfold members at ih ⊢
    cases slot with
    | none =>
      obtain ⟨k, rfl, first, later⟩ := ih found
      refine ⟨k + 1, Nat.add_right_comm .., ?_, ?_⟩
      · rw [List.take_succ_cons, List.reduceOption_cons_of_none, first]
      · rw [List.reduceOption_cons_of_none, later, List.drop_succ_cons]
    | some y =>
      cases found
      refine ⟨0, rfl, ?_, ?_⟩
      · rw [List.take_succ_cons, List.take_zero, List.reduceOption_cons_of_some, List.reduceOption_nil]
      · rw [List.reduceOption_cons_of_some, List.drop_succ_cons, List.drop_zero]

theorem first_member_none {t : Table α} {i : ℕ} (exhausted : firstMember i t = none) : members t = [] := by
  induction t generalizing i with
  | nil => rfl
  | cons slot rest ih =>
    cases slot with
    | none => exact (List.reduceOption_cons_of_none rest).trans (ih exhausted)
    | some y => cases exhausted

theorem next_raises {cursor : Cursor} {t : Table α} : next cursor t = .raises ↔ size t ≠ cursor.used := by
  unfold next
  split
  · rename_i changed
    exact iff_of_true rfl changed
  · rename_i same
    refine iff_of_false (fun raised => ?_) same
    split at raised <;> cases raised

/-- The member that is yielded was the first one ahead, and is passed now. -/
theorem next_yields {cursor cursor' : Cursor} {t : Table α} {x : α}
    (yielded : next cursor t = .yields x cursor') :
    cursor'.used = cursor.used ∧ passed cursor'.pos t = passed cursor.pos t ++ [x] ∧
      ahead cursor.pos t = x :: ahead cursor'.pos t := by
  unfold next at yielded
  split at yielded
  · cases yielded
  · split at yielded
    · cases yielded
    · rename_i found
      cases yielded
      obtain ⟨k, rfl, first, later⟩ := first_member_some found
      refine ⟨rfl, ?_, ?_⟩
      · unfold passed
        rw [Nat.add_assoc, List.take_add, members, List.reduceOption_append]
        exact congrArg (_ ++ ·) first
      · unfold ahead
        rw [later, List.drop_drop]
        rfl

/-- An iterator that stops has nothing ahead. -/
theorem next_stops {cursor : Cursor} {t : Table α} (stopped : next cursor t = .stops) :
    ahead cursor.pos t = [] := by
  unfold next at stopped
  split at stopped
  · cases stopped
  · split at stopped
    · rename_i exhausted
      exact first_member_none exhausted
    · cases stopped

/-! ## Changes -/

/-- Filling a free slot leaves the other members where they are. -/
theorem mem_set_free {t : Table α} {i : ℕ} {x y : α} (free : ∀ z, t[i]? ≠ some (some z)) (apart : y ≠ x) :
    some y ∈ t.set i (some x) ↔ some y ∈ t := by
  rw [List.mem_iff_getElem?, List.mem_iff_getElem?]
  refine exists_congr fun j => ?_
  by_cases same : i = j
  · subst same
    refine iff_of_false (fun filled => ?_) (free y)
    rw [List.getElem?_set_self'] at filled
    obtain ⟨_, _, equal⟩ := Option.map_eq_some_iff.mp filled
    exact apart (Option.some.inj equal).symm
  · rw [List.getElem?_set_ne same]

theorem members_slot {t : Table α} {i : ℕ} (x : α) (free : t[i]? = some none) :
    (members (t.set i (some x))).Perm (x :: members t) := by
  induction t generalizing i with
  | nil => cases free
  | cons slot rest ih =>
    unfold members at ih ⊢
    cases i with
    | zero =>
      cases Option.some.inj free
      rw [List.set_cons_zero, List.reduceOption_cons_of_some, List.reduceOption_cons_of_none]
    | succ i =>
      rw [List.set_cons_succ]
      cases slot with
      | none =>
        rw [List.reduceOption_cons_of_none, List.reduceOption_cons_of_none]
        exact ih free
      | some y =>
        rw [List.reduceOption_cons_of_some, List.reduceOption_cons_of_some]
        exact ((ih free).cons y).trans (List.Perm.swap ..)

variable [DecidableEq α]

/-- `set.discard`. -/
def discard (x : α) (t : Table α) : Table α := t.map fun slot => if slot = some x then none else slot

/-- Where an insertion puts the new member: into a free slot, or into a new table. -/
inductive Placement (α : Type*) where
  | slot (i : ℕ)
  | rebuilt (t : Table α)

/-- `set.add`. -/
def add (x : α) (placement : Placement α) (t : Table α) : Option (Table α) :=
  if x ∈ members t then some t
  else match placement with
    | .slot i => if t[i]? = some none then some (t.set i (some x)) else none
    | .rebuilt t' => if (members t').Perm (x :: members t) then some t' else none

theorem mem_discard {t : Table α} {x y : α} : some y ∈ discard x t ↔ some y ∈ t ∧ y ≠ x := by
  simp only [discard, List.mem_map]
  constructor
  · rintro ⟨slot, listed, same⟩
    split at same
    · cases same
    · rename_i other
      cases same
      exact ⟨listed, fun same => other (congrArg some same)⟩
  · rintro ⟨listed, other⟩
    exact ⟨some y, listed, if_neg fun same => other (Option.some.inj same)⟩

theorem passed_discard {pos : ℕ} {t : Table α} {x y : α} (apart : y ≠ x) :
    y ∈ passed pos (discard x t) ↔ y ∈ passed pos t := by
  have taken : (discard x t).take pos = discard x (t.take pos) := List.map_take.symm
  rw [passed, passed, mem_members, mem_members, taken, mem_discard, and_iff_left apart]

theorem members_discard (t : Table α) (x : α) : members (discard x t) = (members t).filter (· ≠ x) := by
  induction t with
  | nil => rfl
  | cons slot rest ih =>
    unfold members discard at ih ⊢
    rw [List.map_cons]
    cases slot with
    | none =>
      rw [if_neg (by simp), List.reduceOption_cons_of_none, List.reduceOption_cons_of_none, ih]
    | some y =>
      rw [List.reduceOption_cons_of_some, List.filter_cons]
      by_cases same : y = x
      · rw [if_pos (congrArg some same), List.reduceOption_cons_of_none, ih, if_neg (by simpa using same)]
      · rw [if_neg fun equal => same (Option.some.inj equal), List.reduceOption_cons_of_some, ih,
          if_pos (by simpa using same)]

theorem add_ok {t t' : Table α} {x : α} {placement : Placement α} (added : add x placement t = some t') :
    t' = t ∨ x ∉ members t ∧ (members t').Perm (x :: members t) := by
  unfold add at added
  split at added
  · cases added
    exact .inl rfl
  · rename_i new
    split at added
    · split at added
      · rename_i free
        cases added
        exact .inr ⟨new, members_slot x free⟩
      · cases added
    · split at added
      · rename_i same
        cases added
        exact .inr ⟨new, same⟩
      · cases added

theorem keeps_sides_slot {t t' : Table α} {x : α} {i : ℕ} (pos : ℕ) (added : add x (.slot i) t = some t') :
    KeepsSides pos t t' := by
  unfold add at added
  split at added
  · cases added
    exact fun _ _ => Iff.rfl
  · rename_i new
    simp only at added
    split at added
    · rename_i free
      cases added
      intro y known
      have apart : y ≠ x := fun same => new (same ▸ known)
      have unoccupied (z : α) : (t.take pos)[i]? ≠ some (some z) := by
        rw [List.getElem?_take, free]
        split <;> simp
      rw [passed, passed, mem_members, mem_members, List.take_set, mem_set_free unoccupied apart]
    · cases added

end RevenueGuard.Library.SlotSet
