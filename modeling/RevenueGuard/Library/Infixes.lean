import Mathlib.Data.List.Infix

/-!
Words that contain one another.  A text matches a word where one of the two occurs in
the other; `comparable_all_iff` says which texts match nothing that a given word does not.
-/

namespace RevenueGuard.Library.Infixes

variable {α : Type*} {l xs front : List α} {c z : α}

/-- One of the two words occurs in the other. -/
def Comparable (a b : List α) : Prop := a <:+: b ∨ b <:+: a

theorem comparable_of_length {w : List α} (same : w.length = l.length) : Comparable l w ↔ l = w := by
  constructor
  · rintro (within | within)
    · exact within.eq_of_length same.symm
    · exact (within.eq_of_length same).symm
  · rintro rfl
    exact .inl List.infix_rfl

/-- Repetitions of one letter are within one another. -/
theorem comparable_replicate (m n : ℕ) (c : α) : Comparable (List.replicate m c) (List.replicate n c) := by
  have within {m n : ℕ} (shorter : m ≤ n) : List.replicate m c <:+: List.replicate n c := by
    refine ⟨[], List.replicate (n - m) c, ?_⟩
    rw [List.nil_append, List.replicate_append_replicate, Nat.add_sub_cancel' shorter]
  exact (le_total m n).imp within within

/-- A word does not reach into a run of a letter it does not end with. -/
theorem infix_append_replicate (apart : c ≠ z) (n : ℕ) :
    front ++ [z] <:+: xs ++ List.replicate n c ↔ front ++ [z] <:+: xs := by
  induction n with
  | zero => rw [List.replicate_zero, List.append_nil]
  | succ n ih =>
    rw [List.replicate_succ', ← List.append_assoc, List.infix_concat_iff, ih]
    refine or_iff_right ?_
    rintro ⟨before, ends⟩
    rw [← List.append_assoc] at ends
    exact apart (List.singleton_inj.mp (List.append_inj_right' ends rfl)).symm

/-- A letter that a word lacks is not comparable with it. -/
theorem letter_incomparable (some_letter : l ≠ []) (absent : c ∉ l) : ¬ Comparable l [c] := by
  rintro (within | within)
  · obtain ⟨x, member⟩ := List.exists_mem_of_ne_nil l some_letter
    have same : x = c := List.mem_singleton.mp (within.subset member)
    exact absent (same ▸ member)
  · exact absent ((List.singleton_infix_iff c l).mp within)

/-- A word that a step to the right leaves as it was is a run of one letter. -/
theorem constant_of_shift (head : α) (tail : List α) (shift : head :: tail = tail ++ [c]) :
    ∀ x ∈ head :: tail, x = c := by
  induction tail generalizing head with
  | nil => simpa using shift
  | cons next rest ih =>
    obtain ⟨same, later⟩ := List.cons.inj shift
    intro x member
    rcases List.mem_cons.mp member with rfl | member
    · exact same.trans (ih next later next List.mem_cons_self)
    · exact ih next later x member

/-- A word strictly within a text of several letters is not the only one there: some part
of the text is not comparable with it. -/
theorem exists_incomparable (some_letter : l ≠ []) (within : l <:+: xs) (apart : xs ≠ l)
    (several : ¬ ∃ c, ∀ x ∈ xs, x = c) : ∃ w, w <:+: xs ∧ ¬ Comparable l w := by
  by_cases lacking : ∃ c ∈ xs, c ∉ l
  · obtain ⟨c, member, absent⟩ := lacking
    exact ⟨[c], (List.singleton_infix_iff c xs).mpr member, letter_incomparable some_letter absent⟩
  have known : ∀ x ∈ xs, x ∈ l := by
    intro x member
    by_contra absent
    exact lacking ⟨x, member, absent⟩
  have varied (c : α) : ¬ ∀ x ∈ l, x = c := fun constant =>
    several ⟨c, fun x member => constant x (known x member)⟩
  obtain ⟨before, after, rfl⟩ := within
  cases after with
  | cons c after =>
    -- the window one step to the right
    cases l with
    | nil => exact absurd rfl some_letter
    | cons head tail =>
      refine ⟨tail ++ [c], ⟨before ++ [head], after, by simp⟩, ?_⟩
      rw [comparable_of_length (by simp)]
      exact fun shift => varied c (constant_of_shift head tail shift)
  | nil =>
    -- the text ends with the word: the window one step to the left
    rcases List.eq_nil_or_concat' before with rfl | ⟨before, c, rfl⟩
    · simp at apart
    rcases List.eq_nil_or_concat' l with rfl | ⟨front, z, rfl⟩
    · exact absurd rfl some_letter
    refine ⟨c :: front, ⟨before, [z], by simp⟩, ?_⟩
    rw [comparable_of_length (by simp)]
    intro shift
    have constant := constant_of_shift c front shift.symm
    exact varied z fun x member => constant x (shift ▸ member)

/-- A text matches no word of some letters that is not comparable with the word `l`, just
where it is `l`, or `l` occurs in it and it is a run of one letter. -/
theorem comparable_all_iff {P : α → Prop} (two : ∀ a, ∃ c, P c ∧ c ≠ a) (letters : ∀ x ∈ xs, P x)
    (some_letter : l ≠ []) :
    (∀ w, (∀ x ∈ w, P x) → Comparable xs w → Comparable l w) ↔
      xs = l ∨ l <:+: xs ∧ ∃ c, ∀ x ∈ xs, x = c := by
  constructor
  · intro confined
    have within : l <:+: xs := by
      -- the text followed by a long run of a letter that the word does not end with
      rcases List.eq_nil_or_concat' l with rfl | ⟨front, z, rfl⟩
      · exact absurd rfl some_letter
      obtain ⟨c, letter, apart⟩ := two z
      have padded : ∀ x ∈ xs ++ List.replicate ((front ++ [z]).length + 1) c, P x := by
        intro x member
        rcases List.mem_append.mp member with member | member
        · exact letters x member
        · exact List.eq_of_mem_replicate member ▸ letter
      rcases confined _ padded (.inl List.infix_append_left) with occurs | occurs
      · exact (infix_append_replicate apart _).mp occurs
      · have := occurs.length_le
        simp only [List.length_append, List.length_replicate] at this
        omega
    by_contra neither
    rw [not_or, not_and] at neither
    obtain ⟨w, part, incomparable⟩ := exists_incomparable some_letter within neither.1 (neither.2 within)
    exact incomparable (confined w (fun x member => letters x (part.subset member)) (.inr part))
  · rintro (rfl | ⟨within, c, constant⟩) w - (occurs | occurs)
    · exact .inl occurs
    · exact .inr occurs
    · exact .inl (within.trans occurs)
    · rw [List.eq_replicate_of_mem fun x member => constant x (within.subset member),
        List.eq_replicate_of_mem fun x member => constant x (occurs.subset member)]
      exact comparable_replicate ..

end RevenueGuard.Library.Infixes
