import Mathlib.Data.List.Induction

/-!
Finite runs of a partial step function.

A system is `step : σ → ε → Option σ`: an event carries every choice of the
environment, and `none` says that the event is not enabled.  `run` takes a
list of events.  Four rules carry the proofs that use it.

1. `run_invariant`: what the initial state has and every step keeps, every
   reached state has.
2. `run_history`: the same for a predicate of the events taken so far and the
   state, by induction on the last event.  It is the rule for facts such as
   "this value was read in an earlier state of the run".
3. `meets_invariant` and `meets_history`: the same over the runs whose steps
   all meet a condition on the state before the step and the event, and
   `meets_related` for two points of such a run.
4. `meets_idempotent`: what is written over and over with the same effect is as
   the first of these steps leaves it.
-/

namespace RevenueGuard.Library.Runs

variable {σ ε α : Type*} {step : σ → ε → Option σ} {init s s' : σ} {es fs : List ε} {e : ε}

/-- The state after the events, if every one of them was enabled. -/
def run (step : σ → ε → Option σ) : σ → List ε → Option σ
  | s, [] => some s
  | s, e :: es => (step s e).bind fun s' => run step s' es

theorem run_append : run step s (es ++ fs) = (run step s es).bind fun s' => run step s' fs := by
  induction es generalizing s with
  | nil => rfl
  | cons e es ih =>
    simp only [List.cons_append, run, Option.bind_assoc]
    exact Option.bind_congr fun s' _ => ih

theorem run_snoc : run step s (es ++ [e]) = (run step s es).bind fun s' => step s' e := by
  rw [run_append]
  exact Option.bind_congr fun s' _ => by simp [run]

/-- The last step of a run, taken from the state its earlier events reached. -/
theorem run_snoc_iff : run step init (es ++ [e]) = some s' ↔
    ∃ s, run step init es = some s ∧ step s e = some s' := by
  rw [run_snoc, Option.bind_eq_some_iff]

/-- Every earlier point of a run is itself a state the run reached. -/
theorem run_take (ran : run step init es = some s) (n : Nat) :
    ∃ s', run step init (es.take n) = some s' := by
  rw [← List.take_append_drop n es, run_append, Option.bind_eq_some_iff] at ran
  exact ⟨ran.choose, ran.choose_spec.1⟩

/-- The states some finite run of the system ends in. -/
def Reachable (step : σ → ε → Option σ) (init s : σ) : Prop :=
  ∃ es, run step init es = some s

/-- Induction on the last event of a run. -/
theorem run_history {P : List ε → σ → Prop} (start : P [] init)
    (next : ∀ es s e s', run step init es = some s → P es s → step s e = some s' →
      P (es ++ [e]) s')
    (ran : run step init es = some s) : P es s := by
  induction es using List.reverseRecOn generalizing s with
  | nil =>
    cases ran
    exact start
  | append_singleton es e ih =>
    obtain ⟨before, ranBefore, stepped⟩ := run_snoc_iff.mp ran
    exact next es before e s ranBefore (ih ranBefore) stepped

/-- What every step keeps holds along every run that starts with it. -/
theorem run_invariant {P : σ → Prop} (kept : ∀ s e s', P s → step s e = some s' → P s')
    (start : P init) (ran : run step init es = some s) : P s :=
  run_history (P := fun _ s => P s) start (fun _ s e s' _ held stepped => kept s e s' held stepped) ran

/-- Every step the run takes meets `ok` in the state it is taken from. -/
def Meets (step : σ → ε → Option σ) (ok : σ → ε → Prop) (init : σ) (es : List ε) : Prop :=
  ∀ fs e gs, es = fs ++ e :: gs → ∀ s, run step init fs = some s → ok s e

theorem meets_nil {ok : σ → ε → Prop} : Meets step ok init [] := by
  intro fs e gs shape
  exact absurd shape (by simp)

theorem meets_earlier {ok : σ → ε → Prop} (met : Meets step ok init (es ++ fs)) :
    Meets step ok init es := by
  intro earlier e later shape
  exact met earlier e (later ++ fs) (by simp [shape])

/-- A condition on the events alone. -/
theorem meets_of_events {p : ε → Prop} (each : ∀ e ∈ es, p e) : Meets step (fun _ e => p e) init es := by
  rintro fs e gs rfl _ _
  exact each e (by simp)

/-- A run whose steps meet a condition meets every weaker one. -/
theorem meets_mono {ok weaker : σ → ε → Prop} (met : Meets step ok init es)
    (weakened : ∀ s e, ok s e → weaker s e) : Meets step weaker init es := by
  intro fs e gs shape s ran
  exact weakened s e (met fs e gs shape s ran)

theorem meets_take {ok : σ → ε → Prop} (met : Meets step ok init es) (n : Nat) :
    Meets step ok init (es.take n) := by
  rw [← List.take_append_drop n es] at met
  exact meets_earlier met

theorem meets_last {ok : σ → ε → Prop} (met : Meets step ok init (es ++ [e]))
    (ran : run step init es = some s) : ok s e :=
  met es e [] rfl s ran

theorem meets_history {P : List ε → σ → Prop} {ok : σ → ε → Prop} (start : P [] init)
    (next : ∀ es s e s', run step init es = some s → P es s → ok s e → step s e = some s' →
      P (es ++ [e]) s')
    (met : Meets step ok init es) (ran : run step init es = some s) : P es s := by
  refine run_history (P := fun es s => Meets step ok init es → P es s) (fun _ => start)
    (fun es s e s' ranBefore held stepped met => ?_) ran met
  exact next es s e s' ranBefore (held (meets_earlier met)) (meets_last met ranBefore) stepped

/-- The rule for what holds from one event on: the event brings it about, and later steps
keep it. -/
theorem meets_since {P : List ε → σ → Prop} {ok : σ → ε → Prop} {before during : List ε}
    (start : ∀ s s', run step init before = some s → ok s e → step s e = some s' → P [] s')
    (next : ∀ earlier s last s', run step init (before ++ e :: earlier) = some s → P earlier s → ok s last →
      step s last = some s' → P (earlier ++ [last]) s')
    (met : Meets step ok init (before ++ e :: during))
    (ran : run step init (before ++ e :: during) = some s) : P during s := by
  induction during using List.reverseRecOn generalizing s with
  | nil =>
    obtain ⟨prior, ranBefore, stepped⟩ := run_snoc_iff.mp ran
    exact start prior s ranBefore (meets_last met ranBefore) stepped
  | append_singleton earlier last ih =>
    have apart : before ++ e :: (earlier ++ [last]) = before ++ e :: earlier ++ [last] := by simp
    rw [apart] at met ran
    obtain ⟨prior, ranBefore, stepped⟩ := run_snoc_iff.mp ran
    have held := ih (meets_earlier met) ranBefore
    exact next earlier prior last s ranBefore held (meets_last met ranBefore) stepped

/-- The invariant rule over the runs whose steps all meet a condition. -/
theorem meets_invariant {P : σ → Prop} {ok : σ → ε → Prop} (start : P init)
    (kept : ∀ s e s', P s → ok s e → step s e = some s' → P s')
    (met : Meets step ok init es) (ran : run step init es = some s) : P s :=
  meets_history (P := fun _ s => P s) start
    (fun _ s e s' _ held good stepped => kept s e s' held good stepped) met ran

/-- Whether the steps of a run meet a condition that can be decided. -/
def checks (step : σ → ε → Option σ) (ok : σ → ε → Prop) [∀ s e, Decidable (ok s e)] : σ → List ε → Bool
  | _, [] => true
  | s, e :: es => decide (ok s e) && (step s e).all fun s' => checks step ok s' es

theorem meets_of_checks {ok : σ → ε → Prop} [∀ s e, Decidable (ok s e)]
    (checked : checks step ok init es = true) : Meets step ok init es := by
  induction es generalizing init with
  | nil => exact meets_nil
  | cons first rest ih =>
    simp only [checks, Bool.and_eq_true, decide_eq_true_eq, Option.all_eq_true] at checked
    obtain ⟨now, later⟩ := checked
    intro fs e gs shape s ran
    cases fs with
    | nil =>
      cases shape
      cases ran
      exact now
    | cons _ fs =>
      cases shape
      obtain ⟨next, stepped, ran⟩ := Option.bind_eq_some_iff.mp ran
      exact ih (later next stepped) fs e gs rfl s ran

/-- How many steps of a run meet a condition. -/
def count (step : σ → ε → Option σ) (p : σ → ε → Bool) : σ → List ε → ℕ
  | _, [] => 0
  | s, e :: es => (p s e).toNat + ((step s e).map fun s' => count step p s' es).getD 0

theorem count_snoc {p : σ → ε → Bool} (ran : run step init es = some s) :
    count step p init (es ++ [e]) = count step p init es + (p s e).toNat := by
  induction es generalizing init with
  | nil =>
    cases ran
    cases stepped : step s e <;> simp [count, stepped]
  | cons first rest ih =>
    obtain ⟨next, stepped, ran⟩ := Option.bind_eq_some_iff.mp ran
    simp only [List.cons_append, count, stepped, Option.map_some, Option.getD_some, ih ran]
    omega

/-- Where every step leaves a view of the state or takes it to its image under
one idempotent function, a run takes it there at most once. -/
theorem meets_idempotent (view : σ → α) (f : α → α) {p : σ → ε → Bool} {ok : σ → ε → Prop} {P : σ → Prop}
    (idempotent : ∀ a, f (f a) = f a) (start : P init)
    (kept : ∀ s e s', P s → ok s e → step s e = some s' → P s')
    (next : ∀ s e s', P s → ok s e → step s e = some s' →
      view s' = if p s e then f (view s) else view s)
    (met : Meets step ok init es) (ran : run step init es = some s) :
    view s = if count step p init es = 0 then view init else f (view init) := by
  refine (meets_history (P := fun es s => P s ∧
    view s = if count step p init es = 0 then view init else f (view init)) ⟨start, rfl⟩ ?_ met ran).2
  rintro es s e s' ranBefore ⟨held, seen⟩ good stepped
  refine ⟨kept s e s' held good stepped, ?_⟩
  rw [next s e s' held good stepped, count_snoc ranBefore, seen]
  cases acts : p s e with
  | false => simp
  | true =>
    by_cases untouched : count step p init es = 0
    · simp [untouched]
    · simp [untouched, idempotent]

/-- What relates the ends of every step relates any two points of a run. -/
theorem meets_related {R : σ → σ → Prop} {ok : σ → ε → Prop} (refl : ∀ a, R a a)
    (trans : ∀ a b c, R a b → R b c → R a c)
    (next : ∀ es s e s', run step init es = some s → Meets step ok init es → ok s e →
      step s e = some s' → R s s')
    (met : Meets step ok init (es ++ fs)) (ran : run step init es = some s)
    (later : run step init (es ++ fs) = some s') : R s s' := by
  induction fs using List.reverseRecOn generalizing s' with
  | nil =>
    rw [List.append_nil, ran] at later
    cases later
    exact refl s
  | append_singleton fs e ih =>
    rw [← List.append_assoc] at met later
    obtain ⟨before, ranBefore, stepped⟩ := run_snoc_iff.mp later
    have metBefore := meets_earlier met
    exact trans _ _ _ (ih metBefore ranBefore)
      (next _ _ _ _ ranBefore metBefore (meets_last met ranBefore) stepped)

/-- The same for all runs. -/
theorem run_related {R : σ → σ → Prop} (refl : ∀ a, R a a) (trans : ∀ a b c, R a b → R b c → R a c)
    (next : ∀ es s e s', run step init es = some s → step s e = some s' → R s s')
    (ran : run step init es = some s) (later : run step init (es ++ fs) = some s') : R s s' := by
  have met : Meets step (fun _ _ => True) init (es ++ fs) := fun _ _ _ _ _ _ => trivial
  exact meets_related refl trans (fun es s e s' ranBefore _ _ => next es s e s' ranBefore) met ran later

end RevenueGuard.Library.Runs
