import Mathlib.Logic.Function.Basic
import Mathlib.Order.Basic
import RevenueGuard.Library.Runs

/-!
Read-modify-write without a transaction.  A call reads a cell, decides what to
return and what to write, if anything, and writes it; between these three actions any
other call may take its own.  `act` is one action of one call, and `step` takes
any number of calls on one cell, on a clock that does not run backwards.

Three rules carry the proofs about such calls.

1. `act_good`: what every decision and every write keeps, every value has that is
   stored or in the hands of a call.
2. `act_told`: what every decision says of the value it leaves, every value tells that
   a call returned with.
3. `written_covered`: where no call writes over a value that was written since the
   call's own read, unless what it writes covers that value, every value written
   is covered by the one that is stored.
-/

namespace RevenueGuard.Library.ReadModifyWrite

open Runs

variable {T ν α ρ : Type*}

/-- What a call does on a cell: the value it goes on with where nothing is stored,
what it decides for its argument, and what a write puts into the cell. -/
structure Procedure (T ν α ρ : Type*) where
  fresh : T → ν
  decide : α → T → ν → Except String (Option ν × ρ)
  write : T → ν → ν

/-- Where a call is.  It keeps the value it read or wrote. -/
inductive Phase (ν α ρ : Type*) where
  | idle
  | read (arg : α) (value : ν)
  | writing (value : ν) (result : ρ)
  | returned (value : ν) (result : ρ)
  | raised (exc : String)
  deriving DecidableEq

/-- The actions of a call.  It may raise on its own account before any of them. -/
inductive Action (α : Type*) where
  | get (arg : α)
  | decide
  | set
  | abort (exc : String)
  deriving DecidableEq

/-- The value in the hands of a call. -/
def Phase.value : Phase ν α ρ → Option ν
  | read _ value => some value
  | writing value _ => some value
  | returned value _ => some value
  | _ => none

/-- The phase after a decision on a value. -/
def decided (value : ν) : Except String (Option ν × ρ) → Phase ν α ρ
  | .error exc => .raised exc
  | .ok (none, result) => .returned value result
  | .ok (some new, result) => .writing new result

/-- One action of a call at a reading of the clock: the cell and the phase after it. -/
def act (p : Procedure T ν α ρ) (now : T) (stored : Option ν) :
    Phase ν α ρ → Action α → Option (Option ν × Phase ν α ρ)
  | .idle, .get arg => some (stored, .read arg (stored.getD (p.fresh now)))
  | .read arg value, .decide => some (stored, decided value (p.decide arg now value))
  | .writing value result, .set => some (some (p.write now value), .returned (p.write now value) result)
  | .read _ _, .abort exc => some (stored, .raised exc)
  | .writing _ _, .abort exc => some (stored, .raised exc)
  | _, _ => none

/-- What one action can do. -/
inductive Acted (p : Procedure T ν α ρ) (now : T) (stored : Option ν) :
    Phase ν α ρ → Action α → Option ν → Phase ν α ρ → Prop where
  | get (arg : α) : Acted p now stored .idle (.get arg) stored (.read arg (stored.getD (p.fresh now)))
  | decide (arg : α) (value : ν) : Acted p now stored (.read arg value) .decide stored
      (decided value (p.decide arg now value))
  | set (value : ν) (result : ρ) : Acted p now stored (.writing value result) .set
      (some (p.write now value)) (.returned (p.write now value) result)
  | abort (phase : Phase ν α ρ) (exc : String) : Acted p now stored phase (.abort exc) stored (.raised exc)

variable {p : Procedure T ν α ρ} {now : T} {stored stored' : Option ν} {phase phase' : Phase ν α ρ}
  {action : Action α} {value : ν}

theorem act_cases (acted : act p now stored phase action = some (stored', phase')) :
    Acted p now stored phase action stored' phase' := by
  unfold act at acted
  split at acted
  · cases acted
    exact .get _
  · cases acted
    exact .decide _ _
  · cases acted
    exact .set _ _
  · cases acted
    exact .abort _ _
  · cases acted
    exact .abort _ _
  · cases acted

/-- The value after a decision is the one decided on, or the one decided. -/
theorem decided_value {decision : Except String (Option ν × ρ)} {v : ν}
    (held : (decided value decision : Phase ν α ρ).value = some v) :
    v = value ∨ ∃ result, decision = .ok (some v, result) := by
  match decision with
  | .error exc => cases held
  | .ok (none, result) =>
    cases held
    exact .inl rfl
  | .ok (some new, result) =>
    cases held
    exact .inr ⟨result, rfl⟩

/-! ## What every value has -/

/-- What every value of a procedure keeps, at the readings of the clock from
`start` on. -/
structure Keeps (p : Procedure T ν α ρ) (ok : T → Prop) (Good : ν → Prop) : Prop where
  fresh : ∀ now, ok now → Good (p.fresh now)
  decide : ∀ now arg value new result, ok now → Good value →
    p.decide arg now value = .ok (some new, result) → Good new
  write : ∀ now value, ok now → Good value → Good (p.write now value)

theorem act_good {ok : T → Prop} {Good : ν → Prop} (keeps : Keeps p ok Good) (read : ok now)
    (cell : ∀ v, stored = some v → Good v) (held : ∀ v, phase.value = some v → Good v)
    (acted : act p now stored phase action = some (stored', phase')) :
    (∀ v, stored' = some v → Good v) ∧ ∀ v, phase'.value = some v → Good v := by
  cases act_cases acted with
  | get arg =>
    refine ⟨cell, ?_⟩
    intro v shape
    cases shape
    cases stored with
    | none => exact keeps.fresh now read
    | some value => exact cell value rfl
  | decide arg value =>
    refine ⟨cell, ?_⟩
    intro v shape
    rcases decided_value shape with rfl | ⟨result, decision⟩
    · exact held v rfl
    · exact keeps.decide now arg value v result read (held value rfl) decision
  | set value result =>
    have good := keeps.write now value read (held value rfl)
    constructor
    · intro v shape
      cases shape
      exact good
    · intro v shape
      cases shape
      exact good
  | abort _ exc =>
    refine ⟨cell, ?_⟩
    intro v shape
    cases shape

/-! ## What every result tells -/

/-- What a call returns its value tells, at the readings of the clock that are `ok`. -/
structure Answers (p : Procedure T ν α ρ) (ok : T → Prop) (Good : ν → Prop) (Tells : ν → ρ → Prop) : Prop where
  kept : ∀ now arg value result, ok now → Good value → p.decide arg now value = .ok (none, result) →
    Tells value result
  new : ∀ now arg value new result, ok now → Good value → p.decide arg now value = .ok (some new, result) →
    Tells new result
  write : ∀ now value result, Tells value result → Tells (p.write now value) result

def Phase.Told (Tells : ν → ρ → Prop) : Phase ν α ρ → Prop
  | writing value result => Tells value result
  | returned value result => Tells value result
  | _ => True

theorem act_told {ok : T → Prop} {Good : ν → Prop} {Tells : ν → ρ → Prop} (answers : Answers p ok Good Tells)
    (read : ok now) (held : ∀ v, phase.value = some v → Good v) (told : phase.Told Tells)
    (acted : act p now stored phase action = some (stored', phase')) : phase'.Told Tells := by
  cases act_cases acted with
  | get arg => trivial
  | decide arg value =>
    match decision : p.decide arg now value with
    | .error exc => trivial
    | .ok (none, result) => exact answers.kept now arg value result read (held value rfl) decision
    | .ok (some new, result) => exact answers.new now arg value new result read (held value rfl) decision
  | set value result => exact answers.write now value result told
  | abort _ exc => trivial

/-! ## Any number of calls on one cell -/

/-- A cell with its calls.  `written` and `seen` record every value the cell has held,
in their order, and how many of them there were when a call read. -/
structure Cell (T ν α ρ : Type*) where
  stored : Option ν
  clock : T
  phases : ℕ → Phase ν α ρ := fun _ => .idle
  written : List ν
  seen : ℕ → ℕ := fun _ => 0

/-- A cell nobody has called on yet. -/
def start (stored : Option ν) (clock : T) : Cell T ν α ρ := { stored, clock, written := stored.toList }

/-- An action of one call, at a reading of the clock. -/
structure Event (T α : Type*) where
  call : ℕ
  now : T
  action : Action α

/-- The values the cell has held after an action that left `stored` in it. -/
def writtenBy (stored : Option ν) (written : List ν) : Action α → List ν
  | .set => written ++ stored.toList
  | _ => written

/-- How much each call has seen after an action. -/
def seenBy (call : ℕ) (written : List ν) (seen : ℕ → ℕ) : Action α → ℕ → ℕ
  | .get _ => Function.update seen call written.length
  | _ => seen

/-- What holds of the phase of the call that moved and of every other phase. -/
theorem phase_cases {phases : ℕ → Phase ν α ρ} {call i : ℕ} {P : Phase ν α ρ → Prop}
    (moved : i = call → P phase) (others : i ≠ call → P (phases i)) :
    P (Function.update phases call phase i) := by
  by_cases mine : i = call
  · subst mine
    rw [Function.update_self]
    exact moved rfl
  · rw [Function.update_of_ne mine]
    exact others mine

variable [Preorder T]

def step [DecidableLE T] (p : Procedure T ν α ρ) (c : Cell T ν α ρ) (e : Event T α) :
    Option (Cell T ν α ρ) :=
  if c.clock ≤ e.now then
    (act p e.now c.stored (c.phases e.call) e.action).map fun (stored, phase) =>
      { stored
        clock := e.now
        phases := Function.update c.phases e.call phase
        written := writtenBy stored c.written e.action
        seen := seenBy e.call c.written c.seen e.action }
  else none

variable [DecidableLE T] {c c' : Cell T ν α ρ} {e : Event T α} {es : List (Event T α)} {begun : T}

theorem step_acted (stepped : step p c e = some c') : c.clock ≤ e.now ∧ c'.clock = e.now ∧
    ∃ phase, act p e.now c.stored (c.phases e.call) e.action = some (c'.stored, phase) ∧
      c'.phases = Function.update c.phases e.call phase ∧
      c'.written = writtenBy c'.stored c.written e.action ∧
      c'.seen = seenBy e.call c.written c.seen e.action := by
  unfold step at stepped
  split at stepped
  · rename_i forward
    obtain ⟨⟨stored, phase⟩, acted, rfl⟩ := Option.map_eq_some_iff.mp stepped
    exact ⟨forward, rfl, phase, acted, rfl, rfl, rfl⟩
  · cases stepped

/-- Every value is good, and the clock has not run back. -/
structure GoodCell (Good : ν → Prop) (begun : T) (c : Cell T ν α ρ) : Prop where
  clock : begun ≤ c.clock
  stored : ∀ v, c.stored = some v → Good v
  held : ∀ i v, (c.phases i).value = some v → Good v

theorem step_good {Good : ν → Prop} (keeps : Keeps p (begun ≤ ·) Good) (good : GoodCell Good begun c)
    (stepped : step p c e = some c') : GoodCell Good begun c' := by
  obtain ⟨forward, clock, phase, acted, phases, _, _⟩ := step_acted stepped
  have read : begun ≤ e.now := le_trans good.clock forward
  obtain ⟨stored, held⟩ := act_good keeps read good.stored (good.held e.call) acted
  refine ⟨by rw [clock]; exact read, stored, ?_⟩
  intro i
  rw [phases]
  exact phase_cases (P := fun phase => ∀ v, phase.value = some v → Good v) (fun _ => held)
    fun _ => good.held i

theorem run_good {Good : ν → Prop} {stored : Option ν} (keeps : Keeps p (begun ≤ ·) Good)
    (cell : ∀ v, stored = some v → Good v) (ran : run (step p) (start stored begun) es = some c) :
    GoodCell Good begun c := by
  refine run_invariant (fun _ _ _ good stepped => step_good keeps good stepped) ?_ ran
  exact ⟨le_refl begun, cell, fun i v held => by cases held⟩

theorem run_told {Good : ν → Prop} {Tells : ν → ρ → Prop} {stored : Option ν} (keeps : Keeps p (begun ≤ ·) Good)
    (answers : Answers p (begun ≤ ·) Good Tells) (cell : ∀ v, stored = some v → Good v)
    (ran : run (step p) (start stored begun) es = some c) (i : ℕ) : (c.phases i).Told Tells := by
  refine (run_invariant (P := fun c => GoodCell Good begun c ∧ ∀ i, (c.phases i).Told Tells) ?_ ?_ ran).2 i
  · rintro s e s' ⟨good, told⟩ stepped
    refine ⟨step_good keeps good stepped, ?_⟩
    obtain ⟨forward, _, phase, acted, phases, _, _⟩ := step_acted stepped
    intro i
    rw [phases]
    exact phase_cases
      (fun _ => act_told answers (le_trans good.clock forward) (good.held e.call) (told e.call) acted)
      fun _ => told i
  · exact ⟨⟨le_refl begun, cell, fun i v held => by cases held⟩, fun i => trivial⟩

/-! ## What every value written is covered by -/

/-- `Covers t v r`: at time `t` the value `v` honours what `r` stands for.  Every value
does so for itself, and a procedure keeps it up. -/
structure Honours (p : Procedure T ν α ρ) (begun : T) (Good : ν → Prop) (Covers : T → ν → ν → Prop) :
    Prop where
  self : ∀ now v, Covers now v v
  later : ∀ now now' v r, now ≤ now' → Covers now v r → Covers now' v r
  decide : ∀ now arg v r new result, begun ≤ now → Good v → Covers now v r →
    p.decide arg now v = .ok (some new, result) → Covers now new r
  write : ∀ now v r, Covers now v r → Covers now (p.write now v) r

/-- A call that writes covers every value that was written since its own read. -/
def Informed (Covers : T → ν → ν → Prop) (c : Cell T ν α ρ) (e : Event T α) : Prop :=
  e.action = .set → ∀ value result, c.phases e.call = .writing value result →
    ∀ r ∈ c.written.drop (c.seen e.call), Covers e.now value r

/-- The value in the hands of a call covers those it has seen. -/
def CoversSeen (Covers : T → ν → ν → Prop) (now : T) (seen : List ν) (phase : Phase ν α ρ) : Prop :=
  ∀ v, phase.value = some v → ∀ r ∈ seen, Covers now v r

/-- Every value written is covered by the stored one, and those that a call has seen are
covered by the one in its hands. -/
structure CoveredCell (Covers : T → ν → ν → Prop) (c : Cell T ν α ρ) : Prop where
  stored : ∀ r ∈ c.written, ∃ v, c.stored = some v ∧ Covers c.clock v r
  held : ∀ i, CoversSeen Covers c.clock (c.written.take (c.seen i)) (c.phases i)
  seen : ∀ i, c.seen i ≤ c.written.length

theorem step_covered {Good : ν → Prop} {Covers : T → ν → ν → Prop} (honours : Honours p begun Good Covers)
    (good : GoodCell Good begun c) (covered : CoveredCell Covers c) (informed : Informed Covers c e)
    (stepped : step p c e = some c') : CoveredCell Covers c' := by
  obtain ⟨forward, clock, phase, acted, phases, written, seen⟩ := step_acted stepped
  have read : begun ≤ e.now := le_trans good.clock forward
  -- What was covered before the step still is at its time.
  have stored : ∀ r ∈ c.written, ∃ v, c.stored = some v ∧ Covers e.now v r := by
    intro r listed
    obtain ⟨v, there, covers⟩ := covered.stored r listed
    exact ⟨v, there, honours.later _ _ v r forward covers⟩
  have held : ∀ i, CoversSeen Covers e.now (c.written.take (c.seen i)) (c.phases i) :=
    fun i v hands r listed => honours.later _ _ v r forward (covered.held i v hands r listed)
  have mine := held e.call
  have goodHeld := good.held e.call
  unfold Informed at informed
  generalize action : e.action = what at acted written seen informed
  generalize before : c.phases e.call = phase₀ at acted mine goodHeld informed
  generalize after : c'.stored = left at acted written
  cases act_cases acted with
  | get arg =>
    simp only [writtenBy, seenBy] at written seen
    refine ⟨by rw [written, after, clock]; exact stored, ?_, ?_⟩
    · intro i
      rw [phases, written, seen, clock]
      refine phase_cases (P := CoversSeen Covers e.now _) ?_ ?_
      · rintro rfl v shape r listed
        rw [Function.update_self, List.take_length] at listed
        obtain ⟨u, there, covers⟩ := stored r listed
        rw [there] at shape
        cases shape
        exact covers
      · intro other
        rw [Function.update_of_ne other]
        exact held i
    · intro i
      rw [written, seen]
      by_cases same : i = e.call
      · subst same
        exact Nat.le_of_eq (Function.update_self ..)
      · rw [Function.update_of_ne same]
        exact covered.seen i
  | decide arg value =>
    simp only [writtenBy, seenBy] at written seen
    refine ⟨by rw [written, after, clock]; exact stored, ?_, by rw [written, seen]; exact covered.seen⟩
    intro i
    rw [phases, written, seen, clock]
    refine phase_cases (P := CoversSeen Covers e.now _) ?_ fun _ => held i
    rintro rfl v shape r listed
    rcases decided_value shape with rfl | ⟨result, decision⟩
    · exact mine v rfl r listed
    · exact honours.decide _ arg value r v result read (goodHeld value rfl) (mine value rfl r listed) decision
  | set value result =>
    simp only [writtenBy, seenBy, Option.toList_some] at written seen
    -- What the writer had seen it covers from its read on, the rest because it is informed.
    have covers : ∀ r ∈ c.written, Covers e.now value r := by
      intro r listed
      rw [← List.take_append_drop (c.seen e.call) c.written] at listed
      rcases List.mem_append.mp listed with early | late
      · exact mine value rfl r early
      · exact informed rfl value result rfl r late
    refine ⟨?_, ?_, ?_⟩
    · intro r listed
      rw [written] at listed
      rw [after, clock]
      refine ⟨_, rfl, ?_⟩
      rcases List.mem_append.mp listed with earlier | new
      · exact honours.write _ value r (covers r earlier)
      · rw [List.mem_singleton.mp new]
        exact honours.self _ _
    · intro i
      rw [phases, written, seen, clock, List.take_append_of_le_length (covered.seen i)]
      refine phase_cases (P := CoversSeen Covers e.now _) ?_ fun _ => held i
      rintro rfl v shape r listed
      cases shape
      exact honours.write _ value r (covers r (List.mem_of_mem_take listed))
    · intro i
      rw [written, seen, List.length_append]
      exact Nat.le_trans (covered.seen i) (Nat.le_add_right _ _)
  | abort _ exc =>
    simp only [writtenBy, seenBy] at written seen
    refine ⟨by rw [written, after, clock]; exact stored, ?_, by rw [written, seen]; exact covered.seen⟩
    intro i
    rw [phases, written, seen, clock]
    refine phase_cases (P := CoversSeen Covers e.now _) ?_ fun _ => held i
    rintro rfl v shape
    cases shape

/-- No value that was written is lost in a run whose writers are informed. -/
theorem written_covered {Good : ν → Prop} {Covers : T → ν → ν → Prop} {stored : Option ν}
    (keeps : Keeps p (begun ≤ ·) Good) (honours : Honours p begun Good Covers)
    (cell : ∀ v, stored = some v → Good v) (met : Meets (step p) (Informed Covers) (start stored begun) es)
    (ran : run (step p) (start stored begun) es = some c) : CoveredCell Covers c := by
  refine (meets_invariant (P := fun c => GoodCell Good begun c ∧ CoveredCell Covers c) ?_ ?_ met ran).2
  · refine ⟨⟨le_refl begun, cell, fun i v held => by cases held⟩, ?_, ?_, fun i => Nat.zero_le _⟩
    · intro r listed
      have there : stored = some r := Option.mem_toList.mp listed
      exact ⟨r, there, honours.self _ r⟩
    · intro i v held
      cases held
  · rintro s e s' ⟨good, covered⟩ informed stepped
    exact ⟨step_good keeps good stepped, step_covered honours good covered informed stepped⟩

/-! ## Where values come from -/

/-- What a call read or returned is a value that was written, or that of a missing one. -/
def Known (p : Procedure T ν α ρ) (written : List ν) : Phase ν α ρ → Prop
  | .read _ value => value ∈ written ∨ ∃ now, value = p.fresh now
  | .returned value _ => value ∈ written ∨ ∃ now, value = p.fresh now
  | _ => True

structure KnownCell (p : Procedure T ν α ρ) (c : Cell T ν α ρ) : Prop where
  stored : ∀ v, c.stored = some v → v ∈ c.written
  held : ∀ i, Known p c.written (c.phases i)

omit [Preorder T] [DecidableLE T] in
theorem known_append {written : List ν} (more : List ν) (known : Known p written phase) :
    Known p (written ++ more) phase := by
  cases phase with
  | idle => trivial
  | read arg value => exact known.imp_left (List.mem_append_left more)
  | writing => trivial
  | returned value result => exact known.imp_left (List.mem_append_left more)
  | raised => trivial

theorem step_known (known : KnownCell p c) (stepped : step p c e = some c') : KnownCell p c' := by
  obtain ⟨_, _, phase, acted, phases, written, _⟩ := step_acted stepped
  have mine := known.held e.call
  generalize action : e.action = what at acted written
  generalize before : c.phases e.call = phase₀ at acted mine
  generalize after : c'.stored = left at acted written
  cases act_cases acted with
  | get arg =>
    simp only [writtenBy] at written
    refine ⟨by rw [written, after]; exact known.stored, ?_⟩
    intro i
    rw [phases, written]
    refine phase_cases (P := Known p _) (fun _ => ?_) fun _ => known.held i
    cases there : c.stored with
    | none => exact .inr ⟨e.now, rfl⟩
    | some v => exact .inl (known.stored v there)
  | decide arg value =>
    simp only [writtenBy] at written
    refine ⟨by rw [written, after]; exact known.stored, ?_⟩
    intro i
    rw [phases, written]
    refine phase_cases (P := Known p _) (fun _ => ?_) fun _ => known.held i
    match p.decide arg e.now value with
    | .error exc => trivial
    | .ok (none, result) => exact mine
    | .ok (some new, result) => trivial
  | set value result =>
    simp only [writtenBy, Option.toList_some] at written
    have new : p.write e.now value ∈ c'.written := by
      rw [written]
      exact List.mem_append_right _ (List.mem_singleton.mpr rfl)
    constructor
    · intro v there
      rw [after] at there
      cases there
      exact new
    · intro i
      rw [phases]
      refine phase_cases (P := Known p _) (fun _ => .inl new) fun _ => ?_
      rw [written]
      exact known_append _ (known.held i)
  | abort _ exc =>
    simp only [writtenBy] at written
    refine ⟨by rw [written, after]; exact known.stored, ?_⟩
    intro i
    rw [phases, written]
    exact phase_cases (P := Known p _) (fun _ => trivial) fun _ => known.held i

theorem run_known {stored : Option ν} (ran : run (step p) (start stored begun) es = some c) :
    KnownCell p c := by
  refine run_invariant (fun _ _ _ known stepped => step_known known stepped) ?_ ran
  exact ⟨fun v there => Option.mem_toList.mpr there, fun i => trivial⟩

end RevenueGuard.Library.ReadModifyWrite
