import Mathlib.Data.List.MinMax
import Mathlib.Data.List.Nodup

/-!
Tables as lists of rows under a key: lookup by key, and the update of every
row that has a key.  Rows keep their insertion order, as a scan returns them.
`last` are the rows of which a query that orders them by a rank may return any first.
-/

namespace RevenueGuard.Library.Keyed

variable {ρ κ : Type*} [DecidableEq κ] {key : ρ → κ} {k j : κ} {r : ρ} {rows : List ρ} {f : ρ → ρ}

/-- The first row with the key. -/
def find (key : ρ → κ) (k : κ) (rows : List ρ) : Option ρ := rows.find? fun r => key r = k

/-- Update every row with the key. -/
def modify (key : ρ → κ) (k : κ) (f : ρ → ρ) (rows : List ρ) : List ρ :=
  rows.map fun r => if key r = k then f r else r

theorem find_mem (found : find key k rows = some r) : r ∈ rows := List.mem_of_find?_eq_some found

theorem find_key (found : find key k rows = some r) : key r = k := by
  simpa using List.find?_some found

theorem find_none : find key k rows = none ↔ ∀ r ∈ rows, key r ≠ k := by
  simp [find, List.find?_eq_none]

/-- Where keys are unique, lookup finds each row under its own key. -/
theorem find_of_mem (unique : (rows.map key).Nodup) (member : r ∈ rows) :
    find key (key r) rows = some r := by
  induction rows with
  | nil => simp at member
  | cons first rest ih =>
    obtain ⟨fresh, unique⟩ := List.nodup_cons.mp unique
    rcases List.mem_cons.mp member with rfl | member
    · simp [find]
    · have other : key first ≠ key r := fun same =>
        fresh (same ▸ List.mem_map_of_mem member)
      have kept := ih unique member
      simp only [find] at kept ⊢
      simp [other, kept]

omit [DecidableEq κ] in
/-- A row under a fresh key keeps keys unique. -/
theorem nodup_insert {new : ρ} (unique : (rows.map key).Nodup) (fresh : ∀ r ∈ rows, key r ≠ key new) :
    ((rows ++ [new]).map key).Nodup := by
  rw [List.map_append]
  refine List.nodup_append.mpr ⟨unique, List.nodup_singleton _, ?_⟩
  intro k known k' listed
  obtain ⟨r, stored, rfl⟩ := List.mem_map.mp known
  rw [List.mem_singleton.mp listed]
  exact fresh r stored

theorem find_append (later : List ρ) :
    find key k (rows ++ later) = (find key k rows).or (find key k later) := by
  simp [find, List.find?_append]

/-- An update keeps the list of what it keeps of every row. -/
theorem map_modify {γ : Type*} {g : ρ → γ} (keeps : ∀ r, g (f r) = g r) :
    (modify key k f rows).map g = rows.map g := by
  simp only [modify, List.map_map]
  apply List.map_congr_left
  intro r _
  simp only [Function.comp_apply]
  split
  · exact keeps r
  · rfl

theorem modify_modify {g : ρ → ρ} (keeps : ∀ r, key (g r) = key r) :
    modify key k f (modify key k g rows) = modify key k (fun r => f (g r)) rows := by
  rw [modify, modify, modify, List.map_map]
  apply List.map_congr_left
  intro r _
  simp only [Function.comp_apply]
  by_cases same : key r = k
  · rw [if_pos same, if_pos same, if_pos ((keeps r).trans same)]
  · rw [if_neg same, if_neg same, if_neg same]

/-- There is nothing to update without a row that has the key. -/
theorem modify_none (none : find key k rows = none) : modify key k f rows = rows := by
  have others := find_none.mp none
  calc modify key k f rows = rows.map id := List.map_congr_left fun r member => if_neg (others r member)
    _ = rows := List.map_id rows

theorem filter_map_modify {γ : Type*} {g : ρ → Option γ} (keeps : ∀ r, g (f r) = g r) :
    (modify key k f rows).filterMap g = rows.filterMap g := by
  simp only [modify, List.filterMap_map]
  apply List.filterMap_congr
  intro r _
  simp only [Function.comp_apply]
  split
  · exact keeps r
  · rfl

theorem mem_modify : r ∈ modify key k f rows ↔
    (∃ old ∈ rows, key old = k ∧ r = f old) ∨ (r ∈ rows ∧ key r ≠ k) := by
  simp only [modify, List.mem_map]
  constructor
  · rintro ⟨old, member, rfl⟩
    by_cases same : key old = k
    · exact .inl ⟨old, member, same, by simp [same]⟩
    · simp only [same, ↓reduceIte]
      exact .inr ⟨member, same⟩
  · rintro (⟨old, member, same, rfl⟩ | ⟨member, other⟩)
    · exact ⟨old, member, by simp [same]⟩
    · exact ⟨r, member, by simp [other]⟩

/-- An update keeps what it keeps of the rows with the key. -/
theorem modify_kept {P : ρ → Prop} (stored : r ∈ rows) (held : P r) (updated : P (f r)) :
    ∃ r' ∈ modify key k f rows, P r' := by
  by_cases same : key r = k
  · exact ⟨f r, mem_modify.mpr (.inl ⟨r, stored, same, rfl⟩), updated⟩
  · exact ⟨r, mem_modify.mpr (.inr ⟨stored, same⟩), held⟩

theorem find_modify_self (keeps : ∀ r, key (f r) = key r) :
    find key k (modify key k f rows) = (find key k rows).map f := by
  induction rows with
  | nil => rfl
  | cons first rest ih =>
    simp only [find, modify] at ih ⊢
    by_cases same : key first = k
    · simp [same, keeps]
    · simp [same, ih]

theorem find_modify_other (keeps : ∀ r, key (f r) = key r) (other : j ≠ k) :
    find key j (modify key k f rows) = find key j rows := by
  induction rows with
  | nil => rfl
  | cons first rest ih =>
    simp only [find, modify] at ih ⊢
    by_cases same : key first = k
    · have apart : k ≠ j := Ne.symm other
      simp [same, keeps, apart, ih]
    · simp only [List.map_cons, same, ↓reduceIte, List.find?_cons, ih]

/-! ## Ranked rows -/

variable {ω : Type*} [LinearOrder ω] {rank : ρ → ω}

/-- The rows that no other row ranks above. -/
def last (rank : ρ → ω) (rows : List ρ) : List ρ :=
  rows.filter fun r => rows.all fun other => rank other ≤ rank r

omit [DecidableEq κ] in
theorem mem_last : r ∈ last rank rows ↔ r ∈ rows ∧ ∀ other ∈ rows, rank other ≤ rank r := by
  simp [last, List.mem_filter]

theorem exists_last (nonempty : rows ≠ []) : ∃ r, r ∈ last rank rows := by
  obtain ⟨r, highest⟩ : ∃ r, List.argmax rank rows = some r :=
    Option.ne_none_iff_exists'.mp (mt List.argmax_eq_none.mp nonempty)
  exact ⟨r, mem_last.mpr ⟨List.argmax_mem highest, fun other member => List.le_of_mem_argmax member highest⟩⟩

/-- The last rows all have a property if and only if every row that lacks it ranks below one
that has it. -/
theorem last_all_iff {P : ρ → Prop} : (∀ r ∈ last rank rows, P r) ↔
    ∀ r ∈ rows, ¬ P r → ∃ other ∈ rows, P other ∧ rank r < rank other := by
  constructor
  · intro all r member lacks
    obtain ⟨top, top_last⟩ : ∃ top, top ∈ last rank rows := exists_last (List.ne_nil_of_mem member)
    obtain ⟨stored, above⟩ := mem_last.mp top_last
    refine ⟨top, stored, all top top_last, lt_of_le_of_ne (above r member) fun same => lacks ?_⟩
    exact all r (mem_last.mpr ⟨member, fun other listed => same ▸ above other listed⟩)
  · intro below r top
    obtain ⟨member, above⟩ := mem_last.mp top
    by_contra lacks
    obtain ⟨other, stored, _, higher⟩ := below r member lacks
    exact absurd (above other stored) (not_le.mpr higher)

end RevenueGuard.Library.Keyed
