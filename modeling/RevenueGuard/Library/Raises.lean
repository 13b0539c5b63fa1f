import Mathlib.Data.List.Forall2

/-!
Computations that may raise, as `Except`: what a sequence that returns normally
says about its parts, and the relation of two computations that raise together
and return related values.
-/

namespace RevenueGuard.Library.Raises

universe u v

variable {ε : Type u} {α β γ : Type v} {x : Except ε α} {f : α → Except ε β} {a a' : α} {b : β}

theorem ok_bind : ((.ok a : Except ε α) >>= f) = f a := rfl

/-- A sequence returns exactly when its first part does and the rest does. -/
theorem bind_ok : (x >>= f) = .ok b ↔ ∃ a, x = .ok a ∧ f a = .ok b := by
  cases x with
  | error e => simp [bind, Except.bind]
  | ok a => simp [bind, Except.bind]

theorem pure_ok : (pure a : Except ε α) = .ok a' ↔ a = a' := by
  simp [pure, Except.pure]

/-- A computation followed by a function of its value. -/
theorem bind_pure_ok {g : α → β} : (x >>= fun a => pure (g a)) = .ok b ↔ ∃ a, x = .ok a ∧ b = g a := by
  simp only [bind_ok, pure_ok, eq_comm (a := b)]

theorem returns_bind_pure {g : α → β} :
    (∃ b, (x >>= fun a => pure (g a)) = .ok b) ↔ ∃ a, x = .ok a := by
  simp only [bind_pure_ok]
  exact ⟨fun ⟨_, a, returned, _⟩ => ⟨a, returned⟩, fun ⟨a, returned⟩ => ⟨g a, a, returned, rfl⟩⟩

theorem is_ok_iff : x.isOk = true ↔ ∃ a, x = .ok a := by
  cases x <;> simp [Except.isOk, Except.toBool]

/-- What every value of a function has, every element of a list mapped by it has. -/
theorem map_m_ok {P : β → Prop} {xs : List α} {ys : List β} (each : ∀ a b, f a = .ok b → P b)
    (mapped : xs.mapM f = .ok ys) : ∀ y ∈ ys, P y := by
  induction xs generalizing ys with
  | nil =>
    rw [List.mapM_nil, pure_ok] at mapped
    subst mapped
    intro y listed
    cases listed
  | cons x xs ih =>
    rw [List.mapM_cons] at mapped
    obtain ⟨y, first, mapped⟩ := bind_ok.mp mapped
    obtain ⟨rest, mappedRest, shape⟩ := bind_ok.mp mapped
    rw [pure_ok] at shape
    subst shape
    intro z listed
    rcases List.mem_cons.mp listed with rfl | later
    · exact each x z first
    · exact ih mappedRest z later

/-- A list mapped by a function that returns for each of its elements. -/
theorem map_m_of_ok {g : α → β} {xs : List α} (each : ∀ x ∈ xs, f x = .ok (g x)) :
    xs.mapM f = .ok (xs.map g) := by
  induction xs with
  | nil => rfl
  | cons x xs ih =>
    rw [List.mapM_cons, each x List.mem_cons_self, ih fun x listed => each x (List.mem_cons_of_mem _ listed)]
    rfl

/-- A function that returns for every element returns the list of what it returns. -/
theorem map_m_related {R : α → β → Prop} {xs : List α} (each : ∀ x ∈ xs, ∃ y, f x = .ok y ∧ R x y) :
    ∃ ys, xs.mapM f = .ok ys ∧ List.Forall₂ R xs ys := by
  induction xs with
  | nil => exact ⟨[], rfl, .nil⟩
  | cons x xs ih =>
    obtain ⟨y, first, related⟩ := each x List.mem_cons_self
    obtain ⟨ys, rest, others⟩ := ih fun x listed => each x (List.mem_cons_of_mem _ listed)
    rw [List.mapM_cons, first, rest]
    exact ⟨y :: ys, rfl, .cons related others⟩

/-- A list that was mapped has, member by member, what the function returned. -/
theorem map_m_pointwise {xs : List α} {ys : List β} (mapped : xs.mapM f = .ok ys) :
    List.Forall₂ (fun x y => f x = .ok y) xs ys := by
  induction xs generalizing ys with
  | nil =>
    rw [List.mapM_nil, pure_ok] at mapped
    subst mapped
    exact .nil
  | cons x xs ih =>
    rw [List.mapM_cons] at mapped
    obtain ⟨y, first, mapped⟩ := bind_ok.mp mapped
    obtain ⟨rest, mappedRest, shape⟩ := bind_ok.mp mapped
    rw [pure_ok] at shape
    subst shape
    exact .cons first (ih mappedRest)

theorem map_m_length {xs : List α} {ys : List β} (mapped : xs.mapM f = .ok ys) : ys.length = xs.length :=
  (map_m_pointwise mapped).length_eq.symm

/-- Of two lists related member by member, every member of the second has one of the first. -/
theorem related_mem {R : α → β → Prop} {xs : List α} {ys : List β} (related : List.Forall₂ R xs ys) :
    ∀ y ∈ ys, ∃ x ∈ xs, R x y := by
  induction related with
  | nil => exact fun _ listed => absurd listed List.not_mem_nil
  | @cons x _ _ _ first _ ih =>
    intro y listed
    rcases List.mem_cons.mp listed with rfl | later
    · exact ⟨x, List.mem_cons_self, first⟩
    · obtain ⟨member, there, of⟩ := ih y later
      exact ⟨member, List.mem_cons_of_mem _ there, of⟩

/-- Every value of a list that was mapped is the value of a member. -/
theorem map_m_mem {xs : List α} {ys : List β} (mapped : xs.mapM f = .ok ys) :
    ∀ y ∈ ys, ∃ x ∈ xs, f x = .ok y :=
  related_mem (map_m_pointwise mapped)

/-! ## Computations that agree -/

/-- Both raise the same exception, or both return, with related values. -/
inductive Agree {α' : Type v} (R : α → α' → Prop) : Except ε α → Except ε α' → Prop where
  | error (e : ε) : Agree R (.error e) (.error e)
  | ok {a : α} {a' : α'} (related : R a a') : Agree R (.ok a) (.ok a')

variable {α' β' : Type v} {R : α → α' → Prop} {S : β → β' → Prop} {y : Except ε α'}
  {g : α' → Except ε β'}

theorem agree_refl (x : Except ε α) : Agree (· = ·) x x := by
  cases x with
  | error e => exact .error e
  | ok a => exact .ok rfl

theorem agree_bind (first : Agree R x y) (rest : ∀ a a', R a a' → Agree S (f a) (g a')) :
    Agree S (x >>= f) (y >>= g) := by
  cases first with
  | error e => exact .error e
  | ok related => exact rest _ _ related

theorem agree_symm (agreed : Agree R x y) : Agree (fun a' a => R a a') y x := by
  cases agreed with
  | error e => exact .error e
  | ok related => exact .ok related

theorem agree_ok {a : α} (agreed : Agree R x y) (returned : x = .ok a) : ∃ a', y = .ok a' ∧ R a a' := by
  cases agreed with
  | error e => cases returned
  | ok related =>
    cases returned
    exact ⟨_, rfl, related⟩

theorem agree_error {e : ε} (agreed : Agree R x y) (raised : x = .error e) : y = .error e := by
  cases agreed with
  | error =>
    cases raised
    rfl
  | ok => cases raised

/-- Two functions that agree on the members of a list agree on the list, member by member. -/
theorem agree_map_m {f : γ → Except ε α} {g : γ → Except ε α'} {xs : List γ}
    (each : ∀ x ∈ xs, Agree R (f x) (g x)) :
    Agree (List.Forall₂ R) (xs.mapM f) (xs.mapM g) := by
  induction xs with
  | nil =>
    rw [List.mapM_nil, List.mapM_nil]
    exact .ok .nil
  | cons x xs ih =>
    rw [List.mapM_cons, List.mapM_cons]
    refine agree_bind (each x List.mem_cons_self) fun _ _ first => ?_
    refine agree_bind (ih fun x listed => each x (List.mem_cons_of_mem _ listed)) fun _ _ rest => ?_
    exact .ok (.cons first rest)

end RevenueGuard.Library.Raises
