import Mathlib.Data.List.TakeWhile
import RevenueGuard.SystemProofs

/-!
What `enqueue_recovery_case` returns beside what it did to the queue.  An attempt that
times out is made again, whether its push took effect or not; the flag speaks for the
last attempt only.
-/

namespace RevenueGuard.EnqueueProofs

open Library Library.Runs SystemProofs

variable {d : Deployment} {s : System} {i : ℕ} {caseId : String} {rest : List String} {outcome : ℕ → PushOutcome}
  {attempts attempt left : ℕ}

/-! ## The pushes of the loop -/

/-- The attempts from one on, with so many left. -/
def attemptsFrom (outcome : ℕ → PushOutcome) (attempt left : ℕ) : List PushOutcome :=
  (List.range' attempt left).map outcome

/-- An attempt that does not report success. -/
def failed (outcome : PushOutcome) : Bool := outcome ≠ .delivered

theorem attempts_from_succ : attemptsFrom outcome attempt (left + 1) =
    outcome attempt :: attemptsFrom outcome (attempt + 1) left := rfl

/-- The loop makes the attempts up to the first that reports success, which it returns. -/
theorem enqueue_loop_eq (bound : attempt + left = attempts) : enqueueLoop outcome attempts attempt left =
    ((attemptsFrom outcome attempt left).takeWhile failed ++
        ((attemptsFrom outcome attempt left).dropWhile failed).take 1,
      (attemptsFrom outcome attempt left).any fun o => !failed o) := by
  induction left generalizing attempt with
  | zero => rfl
  | succ left ih =>
    rw [enqueueLoop, attempts_from_succ]
    by_cases success : outcome attempt = .delivered
    · rw [if_pos success, success]
      rfl
    · have again : failed (outcome attempt) = true := decide_eq_true success
      rw [if_neg success, List.takeWhile_cons_of_pos again, List.dropWhile_cons_of_pos again, List.any_cons, again]
      cases left with
      | zero => rw [if_pos (by omega)]; rfl
      | succ left => rw [if_neg (by omega), ih (by omega)]; rfl

/-- An attempt that put the case into the queue. -/
def effective (outcome : PushOutcome) : Bool := outcome ≠ .failedBefore

/-- The queue after some pushes. -/
theorem foldl_pushed (pushes : List PushOutcome) (queue : List String) :
    pushes.foldl (pushed caseId) queue = List.replicate (pushes.countP effective) caseId ++ queue := by
  induction pushes generalizing queue with
  | nil => rfl
  | cons o pushes ih =>
    rw [List.foldl_cons, ih]
    cases o <;> simp [pushed, effective, List.replicate_succ']

/-! ## The flag -/

/-- The attempts that are made without success. -/
def tried (outcome : ℕ → PushOutcome) (attempts : ℕ) : List PushOutcome :=
  (attemptsFrom outcome 0 attempts).takeWhile failed

theorem first_success (outcomes : List PushOutcome) : (outcomes.dropWhile failed).take 1 =
    if outcomes.any fun o => !failed o then [.delivered] else [] := by
  induction outcomes with
  | nil => rfl
  | cons o outcomes ih =>
    cases o with
    | delivered => rfl
    | failedBefore => exact ih
    | failedAfter => exact ih

theorem enqueue_eq : enqueueRecoveryCase (some outcome) attempts =
    (tried outcome attempts ++
        if (attemptsFrom outcome 0 attempts).any fun o => !failed o then [.delivered] else [],
      (attemptsFrom outcome 0 attempts).any fun o => !failed o) := by
  rw [enqueueRecoveryCase, enqueue_loop_eq (Nat.zero_add attempts), first_success, tried]

theorem mem_tried_from {o : PushOutcome} : o ∈ (attemptsFrom outcome attempt left).takeWhile failed ↔
    ∃ i < left, outcome (attempt + i) = o ∧ ∀ j ≤ i, outcome (attempt + j) ≠ .delivered := by
  induction left generalizing attempt with
  | zero => simp [attemptsFrom]
  | succ left ih =>
    rw [attempts_from_succ]
    by_cases success : outcome attempt = .delivered
    · rw [List.takeWhile_cons_of_neg (by simp [failed, success])]
      constructor
      · intro listed
        cases listed
      · rintro ⟨i, _, _, before⟩
        exact absurd success (before 0 (Nat.zero_le i))
    · rw [List.takeWhile_cons_of_pos (by simp [failed, success]), List.mem_cons, ih]
      constructor
      · rintro (rfl | ⟨i, within, same, before⟩)
        · exact ⟨0, by omega, rfl, fun j none => by rwa [Nat.le_zero.mp none]⟩
        · refine ⟨i + 1, by omega, by rw [← same]; congr 1; omega, fun j earlier => ?_⟩
          cases j with
          | zero => exact success
          | succ j =>
            have := before j (by omega)
            rwa [show attempt + 1 + j = attempt + (j + 1) by omega] at this
      · rintro ⟨i, within, same, before⟩
        cases i with
        | zero => exact .inl same.symm
        | succ i =>
          refine .inr ⟨i, by omega, by rw [← same]; congr 1; omega, fun j earlier => ?_⟩
          have := before (j + 1) (by omega)
          rwa [show attempt + (j + 1) = attempt + 1 + j by omega] at this

/-- What `enqueue_recovery_case` promises of its pushes and of the flag it returns. -/
structure Truthful (outcome : ℕ → PushOutcome) (attempts : ℕ) (pushes : List PushOutcome) (returned : Bool) :
    Prop where
  inOrder : pushes = (attemptsFrom outcome 0 attempts).take pushes.length
  bounded : pushes.length ≤ attempts
  stops : ∀ i, i + 1 < pushes.length → outcome i ≠ .delivered
  reported : returned = true ↔ .delivered ∈ pushes
  copies : ∀ caseId queue, pushes.foldl (pushed caseId) queue = if returned then caseId :: queue else queue

/-- The attempts made without success leave the case in the queue as often as one of
them times out after its effect. -/
theorem no_copy_iff : (tried outcome attempts).countP effective = 0 ↔
    ∀ i < attempts, outcome i = .failedAfter → ∃ j < i, outcome j = .delivered := by
  rw [List.countP_eq_zero]
  constructor
  · intro ineffective i within late
    by_contra none
    simp only [not_exists, not_and] at none
    have made : .failedAfter ∈ tried outcome attempts := by
      refine mem_tried_from.mpr ⟨i, within, by rwa [Nat.zero_add], fun j earlier => ?_⟩
      rw [Nat.zero_add]
      rcases Nat.lt_or_eq_of_le earlier with before | rfl
      · exact none j before
      · rw [late]
        decide
    exact ineffective .failedAfter made rfl
  · intro truly o made took
    obtain ⟨i, within, same, before⟩ := mem_tried_from.mp made
    simp only [Nat.zero_add] at same before
    cases o with
    | delivered => exact before i le_rfl same
    | failedBefore => cases took
    | failedAfter =>
      obtain ⟨j, earlier, success⟩ := truly i within same
      exact before j earlier.le success

theorem enqueue_pushes_take : (enqueueRecoveryCase (some outcome) attempts).1 =
    (attemptsFrom outcome 0 attempts).take (enqueueRecoveryCase (some outcome) attempts).1.length := by
  have prefixed : (enqueueRecoveryCase (some outcome) attempts).1 <+: attemptsFrom outcome 0 attempts := by
    rw [enqueueRecoveryCase, enqueue_loop_eq (Nat.zero_add attempts)]
    refine ⟨((attemptsFrom outcome 0 attempts).dropWhile failed).drop 1, ?_⟩
    rw [List.append_assoc, List.take_append_drop, List.takeWhile_append_dropWhile]
  exact List.prefix_iff_eq_take.mp prefixed

/-- None but the last push reports success. -/
theorem enqueue_stops {k : ℕ} (further : k + 1 < (enqueueRecoveryCase (some outcome) attempts).1.length) :
    outcome k ≠ .delivered := by
  have within : k < (tried outcome attempts).length := by
    rw [enqueue_eq, List.length_append] at further
    split at further <;> simp only [List.length_cons, List.length_nil] at further <;> omega
  have here : (tried outcome attempts)[k] = outcome k := by
    have prefixed : tried outcome attempts <+: attemptsFrom outcome 0 attempts := List.takeWhile_prefix failed
    rw [prefixed.getElem within]
    simp [attemptsFrom]
  have missed : failed (tried outcome attempts)[k] = true := List.mem_takeWhile_imp (List.getElem_mem within)
  rw [here] at missed
  exact of_decide_eq_true missed

/-- The flag is truthful exactly if no push that is made times out after it took effect. -/
theorem enqueue_truthful_iff (outcome : ℕ → PushOutcome) (attempts : ℕ) :
    Truthful outcome attempts (enqueueRecoveryCase (some outcome) attempts).1
        (enqueueRecoveryCase (some outcome) attempts).2 ↔
      ∀ i < attempts, outcome i = .failedAfter → ∃ j < i, outcome j = .delivered := by
  have unreported : .delivered ∉ tried outcome attempts := by
    intro listed
    obtain ⟨k, _, success, before⟩ := mem_tried_from.mp listed
    exact before k le_rfl success
  have copies (returned : Bool) (caseId : String) (queue : List String) :
      (tried outcome attempts ++ if returned then [PushOutcome.delivered] else []).foldl (pushed caseId) queue =
          (if returned then caseId :: queue else queue) ↔ (tried outcome attempts).countP effective = 0 := by
    rw [foldl_pushed, List.countP_append]
    constructor
    · intro same
      have lengths := congrArg List.length same
      rw [List.length_append, List.length_replicate] at lengths
      cases returned with
      | false =>
        simp only [Bool.false_eq_true, ↓reduceIte, List.countP_nil] at lengths
        omega
      | true =>
        simp only [↓reduceIte, List.length_cons, List.countP_singleton, effective, ne_eq, reduceCtorEq,
          not_false_eq_true, decide_true] at lengths
        omega
    · intro ineffective
      rw [ineffective]
      cases returned <;> rfl
  rw [← no_copy_iff]
  constructor
  · intro truthful
    have once := truthful.copies "" []
    rw [enqueue_eq] at once
    exact (copies _ _ _).mp once
  · intro ineffective
    refine ⟨enqueue_pushes_take, ?_, fun k => enqueue_stops, ?_, fun caseId queue => ?_⟩
    · rw [enqueue_pushes_take]
      exact (List.length_take_le' _ _).trans (by simp [attemptsFrom])
    · rw [enqueue_eq]
      cases (attemptsFrom outcome 0 attempts).any fun o => !failed o <;> simp [unreported]
    · rw [enqueue_eq]
      exact (copies _ _ _).mpr ineffective

/-- A time-out before the push took effect, then a success. -/
example : enqueueRecoveryCase (some fun attempt => if attempt = 0 then .failedBefore else .delivered) =
    ([.failedBefore, .delivered], true) := rfl

/-- A push that times out after it took effect is made again, and its case is in the
queue twice. -/
theorem enqueue_untruthful : ∃ outcome : ℕ → PushOutcome,
    enqueueRecoveryCase (some outcome) 3 = ([.failedAfter, .delivered], true) ∧
      ([.failedAfter, .delivered] : List PushOutcome).foldl (pushed "REC-1") [] = ["REC-1", "REC-1"] ∧
      ¬ Truthful outcome 3 (enqueueRecoveryCase (some outcome) 3).1 (enqueueRecoveryCase (some outcome) 3).2 := by
  refine ⟨fun attempt => if attempt = 0 then .failedAfter else .delivered, rfl, rfl, fun truthful => ?_⟩
  cases truthful.copies "REC-1" []

/-! ## The service -/

theorem enqueue_loop_runs (outcome : ℕ → PushOutcome) (bound : attempt + (left + 1) = enqueueAttempts)
    (waiting : s.requests i = .enqueueing (caseId :: rest) attempt) :
    ∃ s', run (step d) s
        ((enqueueLoop outcome enqueueAttempts attempt (left + 1)).1.map fun o => .request i (.push o)) = some s' ∧
      s'.requests i = enqueueing rest ∧
      s'.queue = (enqueueLoop outcome enqueueAttempts attempt (left + 1)).1.foldl (pushed caseId) s.queue := by
  have pushes (o : PushOutcome) : step d s (.request i (.push o)) =
      some ({ s with queue := pushed caseId s.queue o }.setRequest i (afterPush caseId rest attempt o)).tick := by
    simp only [step, stepRequest, waiting, Option.map_some]
  induction left generalizing attempt s with
  | zero =>
    have single : (enqueueLoop outcome enqueueAttempts attempt 1).1 = [outcome attempt] := by
      by_cases success : outcome attempt = .delivered <;> simp [enqueueLoop, success]
    rw [single]
    refine ⟨_, by rw [List.map_singleton, run, pushes]; rfl, ?_, rfl⟩
    rw [tick_requests, set_request_requests, Function.update_self, afterPush, if_pos (.inr (by omega))]
  | succ left ih =>
    rw [enqueueLoop]
    by_cases success : outcome attempt = .delivered
    · rw [if_pos success]
      refine ⟨_, by rw [List.map_singleton, run, pushes]; rfl, ?_, rfl⟩
      rw [tick_requests, set_request_requests, Function.update_self, afterPush, if_pos (.inl success)]
    · rw [if_neg success, if_neg (by omega)]
      have again : (({ s with queue := pushed caseId s.queue (outcome attempt) }.setRequest i
          (afterPush caseId rest attempt (outcome attempt))).tick).requests i =
            .enqueueing (caseId :: rest) (attempt + 1) := by
        rw [tick_requests, set_request_requests, Function.update_self, afterPush,
          if_neg (by rintro (sent | last); exacts [success sent, by omega])]
      obtain ⟨s', ran, done, queue⟩ := ih (by omega) again fun o => by
        simp only [step, stepRequest, again, Option.map_some]
      refine ⟨s', ?_, done, queue⟩
      rw [List.map_cons, run, pushes]
      exact ran

/-- A request of the service makes the pushes of the loop and is then done with the case. -/
theorem enqueue_runs (outcome : ℕ → PushOutcome) (waiting : s.requests i = .enqueueing (caseId :: rest) 0) :
    ∃ s', run (step d) s ((enqueueRecoveryCase (some outcome)).1.map fun o => .request i (.push o)) = some s' ∧
      s'.requests i = enqueueing rest ∧
      s'.queue = (enqueueRecoveryCase (some outcome)).1.foldl (pushed caseId) s.queue :=
  enqueue_loop_runs outcome rfl waiting

end RevenueGuard.EnqueueProofs
