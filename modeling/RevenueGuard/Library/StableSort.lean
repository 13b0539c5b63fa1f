import Mathlib.Data.List.Sort

/-!
Lists that are sorted by a key.  The sort is stable, so two elements of one key stay in
the order in which they came; an answer to a query that orders its rows by the key leaves
that order open.
-/

namespace RevenueGuard.Library.StableSort

variable {ρ σ α : Type*} [LinearOrder α] {key : ρ → α} {R : ρ → ρ → Prop} {rows xs : List ρ} {x y : ρ}

/-- `sorted(xs, key=key)`. -/
def sortedBy (key : ρ → α) (xs : List ρ) : List ρ := xs.insertionSort fun x y => key x ≤ key y

/-- An answer to a query that orders its rows by the key. -/
structure Ascending (key : ρ → α) (rows xs : List ρ) : Prop where
  perm : xs.Perm rows
  ascends : xs.Pairwise fun x y => key x ≤ key y

theorem sorted_by_perm (key : ρ → α) (xs : List ρ) : (sortedBy key xs).Perm xs := List.perm_insertionSort _ xs

theorem mem_sorted_by : x ∈ sortedBy key xs ↔ x ∈ xs := (sorted_by_perm key xs).mem_iff

/-- A sort by what is shown of the rows is a sort of the rows. -/
theorem map_sorted_by (f : ρ → σ) (key : σ → α) (xs : List ρ) :
    (sortedBy (fun x => key (f x)) xs).map f = sortedBy key (xs.map f) :=
  List.map_insertionSort _ _ f xs fun _ _ _ _ => Iff.rfl

theorem ordered_insert_stable (sorted : xs.Pairwise fun y z => key y < key z ∨ key y = key z ∧ R y z)
    (before : ∀ y ∈ xs, R x y) :
    (xs.orderedInsert (fun x y => key x ≤ key y) x).Pairwise fun y z => key y < key z ∨ key y = key z ∧ R y z := by
  induction xs with
  | nil => exact List.pairwise_singleton _ x
  | cons y xs ih =>
    obtain ⟨first, rest⟩ := List.pairwise_cons.mp sorted
    have order (z : ρ) (listed : z ∈ y :: xs) (le : key x ≤ key z) : key x < key z ∨ key x = key z ∧ R x z :=
      le.lt_or_eq.imp_right fun same => ⟨same, before z listed⟩
    by_cases le : key x ≤ key y
    · rw [List.orderedInsert_cons_of_le _ xs le, List.pairwise_cons]
      refine ⟨fun z listed => order z listed ?_, sorted⟩
      rcases List.mem_cons.mp listed with rfl | later
      · exact le
      · exact le.trans ((first z later).elim (·.le) (·.1.le))
    · rw [List.orderedInsert_of_not_le _ xs le, List.pairwise_cons]
      refine ⟨fun z listed => ?_, ih rest fun z later => before z (List.mem_cons_of_mem y later)⟩
      rcases (List.mem_orderedInsert _).mp listed with rfl | later
      · exact .inl (not_le.mp le)
      · exact first z later

/-- What holds of two elements in the order in which they came holds after the sort, unless
the key puts them the other way. -/
theorem sorted_by_stable (came : xs.Pairwise R) :
    (sortedBy key xs).Pairwise fun x y => key x < key y ∨ key x = key y ∧ R x y := by
  induction xs with
  | nil => exact List.Pairwise.nil
  | cons x xs ih =>
    obtain ⟨first, rest⟩ := List.pairwise_cons.mp came
    exact ordered_insert_stable (ih rest) fun y listed => first y (mem_sorted_by.mp listed)

/-- A sort is a reordering of the elements with their positions, in which those of one key keep
the order of their positions. -/
theorem sorted_by_positions (key : ρ → α) (xs : List ρ) : ∃ order : List (ρ × ℕ), order.Perm xs.zipIdx ∧
    sortedBy key xs = order.map Prod.fst ∧
    order.Pairwise fun x y => key x.1 < key y.1 ∨ key x.1 = key y.1 ∧ x.2 < y.2 := by
  have came : xs.zipIdx.Pairwise fun x y => x.2 < y.2 := by
    rw [← List.pairwise_map (f := Prod.snd) (R := (· < ·)), List.zipIdx_map_snd]
    exact List.pairwise_lt_range'
  refine ⟨sortedBy (fun x => key x.1) xs.zipIdx, sorted_by_perm _ _, ?_, sorted_by_stable came⟩
  rw [map_sorted_by Prod.fst key, List.zipIdx_map_fst]

/-- Two elements of a list come in one order or the other. -/
theorem pair_sublist_or (listed : x ∈ xs) (listed' : y ∈ xs) (apart : x ≠ y) :
    [x, y].Sublist xs ∨ [y, x].Sublist xs := by
  obtain ⟨front, rest, rfl⟩ := List.append_of_mem listed
  rcases List.mem_append.mp listed' with before | after
  · exact .inr ((List.singleton_sublist.mpr before).append (List.singleton_sublist.mpr List.mem_cons_self))
  · refine .inl ((List.singleton_sublist.mpr ?_).cons_cons x |>.trans (List.sublist_append_right _ _))
    exact (List.mem_cons.mp after).resolve_left apart.symm

/-- Two elements in an order that the key admits stay in it. -/
theorem pair_sorted_by (le : key x ≤ key y) (came : [x, y].Sublist xs) : [x, y].Sublist (sortedBy key xs) := by
  have total : Std.Total fun x y : ρ => key x ≤ key y := ⟨fun x y => le_total (key x) (key y)⟩
  have trans : IsTrans ρ fun x y => key x ≤ key y := ⟨fun _ _ _ first second => first.trans second⟩
  exact List.pair_sublist_insertionSort le came

theorem sorted_ascending (key : ρ → α) (rows : List ρ) : Ascending key rows (sortedBy key rows) := by
  have total : Std.Total fun x y : ρ => key x ≤ key y := ⟨fun x y => le_total (key x) (key y)⟩
  have trans : IsTrans ρ fun x y => key x ≤ key y := ⟨fun _ _ _ first second => first.trans second⟩
  exact ⟨sorted_by_perm key rows, List.pairwise_insertionSort _ rows⟩

theorem exists_ascending (key : ρ → α) (rows : List ρ) : ∃ xs, Ascending key rows xs :=
  ⟨_, sorted_ascending key rows⟩

/-- Some answer lists two rows in any order that the key admits. -/
theorem exists_ascending_pair (key : ρ → α) (listed : x ∈ rows) (listed' : y ∈ rows) (apart : x ≠ y)
    (le : key x ≤ key y) : ∃ xs, Ascending key rows xs ∧ [x, y].Sublist xs := by
  classical
  have there : y ∈ rows.erase x := (List.mem_erase_of_ne apart.symm).mpr listed'
  have front : (x :: y :: (rows.erase x).erase y).Perm rows :=
    ((List.perm_cons_erase there).symm.cons x).trans (List.perm_cons_erase listed).symm
  have answer := sorted_ascending key (x :: y :: (rows.erase x).erase y)
  refine ⟨_, ⟨answer.perm.trans front, answer.ascends⟩, pair_sorted_by le ?_⟩
  exact List.Sublist.cons_cons x (List.Sublist.cons_cons y (List.nil_sublist _))

end RevenueGuard.Library.StableSort
