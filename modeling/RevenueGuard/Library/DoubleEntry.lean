import Mathlib.Data.List.Nodup

/-!
Two tables that one transaction writes together.  An entry of the left table may
carry a mark, and an entry of the right table a tag; a transaction that writes a
marked entry on the left writes the entry with that tag on the right.

`Reconciled` says so of whole tables, in their order.  It holds of empty tables,
and is kept by every transaction that is reconciled itself.  Where no mark occurs
twice, a marked entry has exactly one counterpart.
-/

namespace RevenueGuard.Library.DoubleEntry

variable {α β τ : Type*} {mark : α → Option τ} {tag : β → Option τ} {number : α → τ}
  {left left' : List α} {right right' : List β} {a : α} {b : β} {t : τ}

/-- The tags on the right are the marks on the left, in order. -/
def Reconciled (mark : α → Option τ) (tag : β → Option τ) (left : List α) (right : List β) : Prop :=
  right.filterMap tag = left.filterMap mark

theorem reconciled_nil : Reconciled mark tag [] [] := rfl

theorem reconciled_append (reconciled : Reconciled mark tag left right)
    (posted : Reconciled mark tag left' right') :
    Reconciled mark tag (left ++ left') (right ++ right') := by
  unfold Reconciled at *
  rw [List.filterMap_append, List.filterMap_append, reconciled, posted]

/-- A tagged entry has its counterpart. -/
theorem reconciled_left (reconciled : Reconciled mark tag left right) (posted : b ∈ right)
    (tagged : tag b = some t) : ∃ a ∈ left, mark a = some t := by
  have listed : t ∈ right.filterMap tag := List.mem_filterMap.mpr ⟨b, posted, tagged⟩
  rw [reconciled] at listed
  exact List.mem_filterMap.mp listed

/-- Where every mark is the number of its entry, distinct numbers make distinct
marks. -/
theorem nodup_marks (numbered : ∀ a t, mark a = some t → number a = t)
    (unique : (left.map number).Nodup) : (left.filterMap mark).Nodup := by
  have sub : List.Sublist (left.filterMap mark) (left.map number) := by
    clear unique
    induction left with
    | nil => exact List.Sublist.slnil
    | cons first rest ih =>
      cases marked : mark first with
      | none =>
        rw [List.filterMap_cons_none marked]
        exact ih.cons _
      | some t =>
        rw [List.filterMap_cons_some marked, List.map_cons, numbered first t marked]
        exact ih.cons_cons _
  exact unique.sublist sub

theorem same_of_nodup_tags {b' : β} (unique : (right.filterMap tag).Nodup) (posted : b ∈ right)
    (again : b' ∈ right) (tagged : tag b = some t) (same : tag b' = some t) : b = b' := by
  induction right with
  | nil => cases posted
  | cons first rest ih =>
    have kept : (rest.filterMap tag).Nodup :=
      unique.sublist ((List.sublist_cons_self first rest).filterMap tag)
    have apart : ∀ c ∈ rest, tag first = some t → tag c = some t → False := by
      intro c listed firstTagged otherTagged
      rw [List.filterMap_cons_some firstTagged] at unique
      exact (List.nodup_cons.mp unique).1 (List.mem_filterMap.mpr ⟨c, listed, otherTagged⟩)
    rcases List.mem_cons.mp posted with rfl | later
    · rcases List.mem_cons.mp again with rfl | later
      · rfl
      · exact (apart b' later tagged same).elim
    · rcases List.mem_cons.mp again with rfl | laterToo
      · exact (apart b later same tagged).elim
      · exact ih kept later laterToo

/-- A marked entry has exactly one counterpart. -/
theorem reconciled_right (reconciled : Reconciled mark tag left right)
    (numbered : ∀ a t, mark a = some t → number a = t) (unique : (left.map number).Nodup)
    (written : a ∈ left) (marked : mark a = some t) : ∃! b, b ∈ right ∧ tag b = some t := by
  have listed : t ∈ right.filterMap tag := by
    rw [reconciled]
    exact List.mem_filterMap.mpr ⟨a, written, marked⟩
  obtain ⟨b, posted, tagged⟩ := List.mem_filterMap.mp listed
  have nodup : (right.filterMap tag).Nodup := by
    rw [reconciled]
    exact nodup_marks numbered unique
  refine ⟨b, ⟨posted, tagged⟩, ?_⟩
  rintro b' ⟨again, same⟩
  exact same_of_nodup_tags nodup again posted same tagged

end RevenueGuard.Library.DoubleEntry
