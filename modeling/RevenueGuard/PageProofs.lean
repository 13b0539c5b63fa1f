import RevenueGuard.CaseQueries
import RevenueGuard.GraphProofs

/-!
The pages of the case list.  Cases are ordered by `created_at` alone, so the database is
free to order the cases of one instant differently for every page.
-/

namespace RevenueGuard.PageProofs

open Library Pages GraphProofs

variable {filters : CaseFilters} {db : Database} {size : ℕ} {answers : ℕ → List RecoveryCase}

/-- The listings of the pages, counted from 0, each with the order of its own query. -/
def listing (filters : CaseFilters) (size : ℕ) (sized : 1 ≤ size ∧ size ≤ 100) (answers : ℕ → List RecoveryCase)
    (db : Database) (k : ℕ) : CaseListing :=
  listCases filters ⟨k + 1, size, Nat.succ_le_succ (Nat.zero_le k), sized⟩ (answers k) db

/-- The items of the pages up to `ceil(total / page_size)`. -/
def allItems (filters : CaseFilters) (size : ℕ) (sized : 1 ≤ size ∧ size ≤ 100)
    (answers : ℕ → List RecoveryCase)
    (db : Database) : List CaseSummary :=
  (List.range (pageCount size (matchingCases filters db).length)).flatMap fun k =>
    (listing filters size sized answers db k).items

/-- The pages hold every matching case once and nothing else, and each tells the number. -/
structure Partition (filters : CaseFilters) (size : ℕ) (sized : 1 ≤ size ∧ size ≤ 100)
    (answers : ℕ → List RecoveryCase) (db : Database) : Prop where
  total : ∀ k, (listing filters size sized answers db k).total = (matchingCases filters db).length
  items : (allItems filters size sized answers db).Perm ((matchingCases filters db).map caseSummary)

theorem all_items (sized : 1 ≤ size ∧ size ≤ 100) (answers : ℕ → List RecoveryCase) :
    allItems filters size sized answers db =
      (pages size answers (pageCount size (matchingCases filters db).length)).map caseSummary := by
  rw [pages, List.map_flatMap]
  rfl

/-- The primary key tells the summaries of the matching cases apart. -/
theorem summaries_distinct (key : (db.recoveryCases.map (·.caseId)).Nodup) :
    ((matchingCases filters db).map caseSummary).Nodup := by
  have ids : ((matchingCases filters db).map caseSummary).map (·.caseId) =
      (matchingCases filters db).map (·.caseId) := by
    rw [List.map_map]
    rfl
  refine List.Nodup.of_map (·.caseId) (ids ▸ ?_)
  exact key.sublist (List.filter_sublist.map _)

/-- The pages partition the matching cases, whatever the orders of the queries, exactly if
the matching cases of one `created_at` lie on one page. -/
theorem pages_partition_iff (filters : CaseFilters) (sized : 1 ≤ size ∧ size ≤ 100)
    (key : (db.recoveryCases.map (·.caseId)).Nodup) :
    (∀ answers : ℕ → List RecoveryCase,
        (∀ k, Answer (·.createdAt) (matchingCases filters db) (answers k)) →
          Partition filters size sized answers db) ↔
      Unsplit (·.createdAt) (matchingCases filters db) size := by
  have distinct : (matchingCases filters db).Nodup := .of_map _ (summaries_distinct key)
  rw [← pages_perm_iff sized.1 distinct]
  refine forall₂_congr fun answers each => ?_
  constructor
  · intro partition
    refine perm_of_map (summaries_distinct key) (fun r listed => ?_) (all_items sized answers ▸ partition.items)
    exact mem_of_mem_pages each listed
  · intro perm
    exact ⟨fun _ => rfl, all_items sized answers ▸ perm.map caseSummary⟩

/-- Two cases, the second so many hours after the first. -/
def twoCases (hours : ℤ) : Database :=
  { recoveryCases :=
      [sampleCase "REC-00000001" 250000,
        { sampleCase "REC-00000002" 250000 with
          createdAt := (sampleCase "REC-00000001" 250000).createdAt + Instant.hours hours }] }

theorem pages_partition_iff_hour :
    Partition {} 1 (by decide) (fun _ => (twoCases 1).recoveryCases.reverse) (twoCases 1) := by
  refine (pages_partition_iff {} (by decide) (by decide)).mpr (fun r listed => ?_) _ fun _ => ⟨?_, ?_⟩
  · have stored : r ∈ (twoCases 1).recoveryCases := List.mem_of_mem_filter listed
    simp only [twoCases, List.mem_cons, List.not_mem_nil, or_false] at stored
    rcases stored with rfl | rfl <;> decide
  · exact List.reverse_perm _
  · decide

/-- Both orders of two cases of one instant are answers. -/
theorem either_order {xs : List RecoveryCase} (perm : xs.Perm (twoCases 0).recoveryCases) :
    Answer (·.createdAt) (matchingCases {} (twoCases 0)) xs where
  perm := perm
  descends := by
    have one : ∀ case ∈ xs, case.createdAt = 1788500000000000 := by
      intro case listed
      have stored := perm.subset listed
      simp only [twoCases, List.mem_cons, List.not_mem_nil, or_false] at stored
      rcases stored with rfl | rfl <;> rfl
    exact List.pairwise_of_forall_mem_list fun x first y second => ((one x first).trans (one y second).symm).ge

/-- Two cases of one instant, one to a page: the first is on both pages and the second on none. -/
theorem twin_listed_twice : ∃ answers : ℕ → List RecoveryCase,
    (∀ k, Answer (·.createdAt) (matchingCases {} (twoCases 0)) (answers k)) ∧
      (allItems {} 1 (by decide) answers (twoCases 0)).map (·.caseId) = ["REC-00000001", "REC-00000001"] ∧
      ¬ Partition {} 1 (by decide) answers (twoCases 0) := by
  let either : ℕ → List RecoveryCase := fun k =>
    if k = 0 then (twoCases 0).recoveryCases else (twoCases 0).recoveryCases.reverse
  have twice :
      (allItems {} 1 (by decide) either (twoCases 0)).map (·.caseId) = ["REC-00000001", "REC-00000001"] := by
    decide
  refine ⟨either, fun k => either_order ?_, twice, fun partition => ?_⟩
  · show List.Perm (if k = 0 then _ else _) _
    split
    · exact List.Perm.refl _
    · exact List.reverse_perm _
  · have ids := partition.items.map (·.caseId)
    rw [twice] at ids
    exact absurd (ids.symm.subset (show "REC-00000002" ∈ _ by decide)) (by decide)

end RevenueGuard.PageProofs
