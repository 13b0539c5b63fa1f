import Mathlib.Data.List.Infix

/-!
Words that are joined by a separator, and how much of them the joined word tells: all of
both where it is known of one side, on either side, that no separator stands there.
-/

namespace RevenueGuard.Library.Separators

variable {α : Type*} {x x' y y' text piece : List α} {c : α}

/-- One word is joined of two pairs exactly if they are the same, or the separator of the one
stands inside a piece of the other. -/
theorem append_separator_iff : x ++ c :: y = x' ++ c :: y' ↔ (x = x' ∧ y = y') ∨
    (∃ piece, x' = x ++ c :: piece ∧ y = piece ++ c :: y') ∨
      ∃ piece, x = x' ++ c :: piece ∧ y' = piece ++ c :: y := by
  constructor
  · intro same
    rcases List.append_eq_append_iff.mp same with ⟨more, rfl, rest⟩ | ⟨more, rfl, rest⟩
    · cases more with
      | nil => exact .inl ⟨(List.append_nil x).symm, (List.cons.inj rest).2⟩
      | cons first more =>
        obtain ⟨rfl, rfl⟩ := List.cons.inj rest
        exact .inr (.inl ⟨more, rfl, rfl⟩)
    · cases more with
      | nil => exact .inl ⟨List.append_nil x', (List.cons.inj rest).2.symm⟩
      | cons first more =>
        obtain ⟨rfl, rfl⟩ := List.cons.inj rest
        exact .inr (.inr ⟨more, rfl, rfl⟩)
  · rintro (⟨rfl, rfl⟩ | ⟨piece, rfl, rfl⟩ | ⟨piece, rfl, rfl⟩) <;> simp

/-- The word after the last of its separators, and the word before it. -/
theorem append_separator_inj (last : c ∉ y) (last' : c ∉ y') (same : x ++ c :: y = x' ++ c :: y') :
    x = x' ∧ y = y' := by
  rcases append_separator_iff.mp same with same | ⟨piece, -, rfl⟩ | ⟨piece, -, rfl⟩
  · exact same
  · exact (last (by simp)).elim
  · exact (last' (by simp)).elim

/-- The word before the first of its separators, and the word after it. -/
theorem prefix_separator_inj (first : c ∉ x) (first' : c ∉ x') (same : x ++ c :: y = x' ++ c :: y') :
    x = x' ∧ y = y' := by
  have mirrored : y.reverse ++ c :: x.reverse = y'.reverse ++ c :: x'.reverse := by
    simpa using congrArg List.reverse same
  obtain ⟨rests, heads⟩ := append_separator_inj (by simpa using first) (by simpa using first') mirrored
  exact ⟨List.reverse_injective heads, List.reverse_injective rests⟩

variable [DecidableEq α]

/-- The words before and after the only separator there is. -/
theorem only_separator_inj (first : c ∉ x) (last : c ∉ y) (same : x ++ c :: y = x' ++ c :: y') :
    x = x' ∧ y = y' := by
  have once : (x' ++ c :: y').count c = 1 := by
    rw [← same, List.count_append, List.count_cons_self, List.count_eq_zero.mpr first,
      List.count_eq_zero.mpr last]
  rw [List.count_append, List.count_cons_self] at once
  have last' : c ∉ y' := List.count_eq_zero.mp (by omega)
  exact append_separator_inj last last' same

/-- No piece of a word that is split contains the separator. -/
theorem not_mem_of_mem_splitOn (listed : piece ∈ text.splitOn c) : c ∉ piece := by
  induction text generalizing piece with
  | nil =>
    rw [List.splitOn_nil, List.mem_singleton] at listed
    rw [listed]
    exact List.not_mem_nil
  | cons first rest ih =>
    rw [List.splitOn_cons_eq_if_modifyHead] at listed
    obtain ⟨head, tail, pieces⟩ := List.exists_cons_of_ne_nil (List.splitOn_ne_nil c rest)
    rw [pieces] at listed ih
    split at listed
    · rcases List.mem_cons.mp listed with rfl | later
      · exact List.not_mem_nil
      · exact ih later
    · rename_i other
      rcases List.mem_cons.mp listed with rfl | later
      · intro member
        rcases List.mem_cons.mp member with rfl | member
        · exact other (beq_self_eq_true _)
        · exact ih List.mem_cons_self member
      · exact ih (List.mem_cons_of_mem _ later)

end RevenueGuard.Library.Separators
