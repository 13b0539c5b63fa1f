import RevenueGuard.Library.Raises

/-!
Sessions of a database.  A program adds changes to its session, which flushes them before
its next query; others see them once they are committed.  Every statement may meet an
exception of its own, and a program that raises leaves the session in whatever state it has
reached.

`Refines` compares such a program with one that works on the tables at once: the two agree
where the session's program returns, it returns where nothing disturbs it, and it leaves
the committed tables alone.  The relation is closed under sequences and loops, so a program
is compared statement by statement.  `transaction_ok` and `transaction_raises` say what a
commit at the end makes of it, and `recovery_ok` what a rollback and a second transaction
make of a first one that raised.
-/

namespace RevenueGuard.Library.Sessions

/-- The committed tables, the tables as the session's transaction sees them, the changes
that wait for a flush, and what the next statements meet. -/
structure Session (σ : Type) where
  committed : σ
  working : σ
  pending : List (σ → Except String σ) := []
  faults : List (Option String) := []

abbrev Program (σ α : Type) := ExceptT String (StateM (Session σ)) α

variable {σ α β : Type} {s s' s₁ : Session σ} {a : α} {b : β} {db db' : σ} {exc : String}

/-- The result of a program and the session it leaves. -/
def exec (p : Program σ α) (s : Session σ) : Except String α × Session σ := p s

/-! ## Statements -/

/-- A point at which an exception may be raised. -/
def statement : Program σ Unit := fun s =>
  match s.faults with
  | [] => (.ok (), s)
  | none :: faults => (.ok (), { s with faults })
  | some exc :: faults => (.error exc, { s with faults })

/-- What a computation without the database returns or raises. -/
def evaluate (x : Except String α) : Program σ α := do
  statement
  fun s => (x, s)

/-- `session.add`, or attributes set on a row of the session. -/
def add (change : σ → Except String σ) : Program σ Unit := do
  statement
  fun s => (.ok (), { s with pending := s.pending ++ [change] })

/-- The first change that waits, which leaves the others waiting. -/
def emit (change : σ → Except String σ) (changes : List (σ → Except String σ)) : Program σ Unit := fun s =>
  match change s.working with
  | .error exc => (.error exc, s)
  | .ok working => (.ok (), { s with working, pending := changes })

/-- The changes one after the other, each a statement of its own. -/
def flushAll : List (σ → Except String σ) → Program σ Unit
  | [] => pure ()
  | change :: changes => do
    statement
    emit change changes
    flushAll changes

def flush : Program σ Unit := fun s => flushAll s.pending s

/-- A query, which flushes first. -/
def scalar (query : σ → α) : Program σ α := do
  flush
  statement
  fun s => (.ok (query s.working), s)

def commit : Program σ Unit := do
  flush
  statement
  fun s => (.ok (), { s with committed := s.working })

def rollback : Program σ Unit := do
  statement
  fun s => (.ok (), { s with working := s.committed, pending := [] })

/-- A program and its commit. -/
def transaction (p : Program σ α) : Program σ α := do
  let a ← p
  commit
  return a

/-! ## Execution -/

theorem exec_bind (p : Program σ α) (f : α → Program σ β) (s : Session σ) :
    exec (p >>= f) s = match exec p s with
      | (.ok a, s') => exec (f a) s'
      | (.error exc, s') => (.error exc, s') := by
  show ExceptT.bindCont f (p s).1 (p s).2 = _
  unfold exec
  rcases p s with ⟨result | result, s'⟩ <;> rfl

theorem exec_try (p : Program σ α) (handle : String → Program σ α) (s : Session σ) :
    exec (tryCatch p handle) s = match exec p s with
      | (.ok a, s') => (.ok a, s')
      | (.error exc, s') => exec (handle exc) s' := by
  unfold exec
  simp only [tryCatch, tryCatchThe, MonadExceptOf.tryCatch, ExceptT.tryCatch, ExceptT.mk, bind, StateT.bind]
  rcases p s with ⟨result | result, s'⟩ <;> rfl

theorem exec_bind_ok {p : Program σ α} {f : α → Program σ β} :
    exec (p >>= f) s = (.ok b, s') ↔ ∃ a s₁, exec p s = (.ok a, s₁) ∧ exec (f a) s₁ = (.ok b, s') := by
  rw [exec_bind]
  rcases exec p s with ⟨result | result, s₁⟩ <;> simp

theorem exec_bind_error {p : Program σ α} {f : α → Program σ β} :
    exec (p >>= f) s = (.error exc, s') ↔
      exec p s = (.error exc, s') ∨ ∃ a s₁, exec p s = (.ok a, s₁) ∧ exec (f a) s₁ = (.error exc, s') := by
  rw [exec_bind]
  rcases exec p s with ⟨result | result, s₁⟩ <;> simp

/-- What is made of a value does not raise. -/
theorem exec_bind_pure_error {p : Program σ α} {g : α → β} :
    exec (p >>= fun a => pure (g a)) s = (.error exc, s') ↔ exec p s = (.error exc, s') := by
  rw [exec_bind_error]
  refine or_iff_left ?_
  rintro ⟨a, s₁, -, raised⟩
  cases raised

theorem exec_try_ok {p : Program σ α} {handle : String → Program σ α} :
    exec (tryCatch p handle) s = (.ok a, s') ↔
      exec p s = (.ok a, s') ∨ ∃ exc s₁, exec p s = (.error exc, s₁) ∧ exec (handle exc) s₁ = (.ok a, s') := by
  rw [exec_try]
  rcases exec p s with ⟨result | result, s₁⟩ <;> simp

theorem exec_try_error {p : Program σ α} {handle : String → Program σ α} :
    exec (tryCatch p handle) s = (.error exc, s') ↔
      ∃ raised s₁, exec p s = (.error raised, s₁) ∧ exec (handle raised) s₁ = (.error exc, s') := by
  rw [exec_try]
  rcases exec p s with ⟨result | result, s₁⟩ <;> simp

/-! ## What a statement does -/

/-- The tables with the changes that wait. -/
def view (s : Session σ) : Except String σ := s.pending.foldlM (fun db change => change db) s.working

/-- Nothing disturbs the statements to come. -/
def Calm (s : Session σ) : Prop := ∀ fault ∈ s.faults, fault = none

/-- A session that has not done anything. -/
def Fresh (s : Session σ) : Prop := s.working = s.committed ∧ s.pending = []

theorem view_flushed (flushed : s.pending = []) : view s = .ok s.working := by
  rw [view, flushed]
  rfl

theorem view_fresh (fresh : Fresh s) : view s = .ok s.committed := by rw [view_flushed fresh.2, fresh.1]

theorem statement_session (s : Session σ) : (exec statement s).2 = { s with faults := s.faults.tail } := by
  obtain ⟨committed, working, pending, faults⟩ := s
  rcases faults with - | ⟨- | exc, faults⟩ <;> rfl

theorem statement_ok {u : Unit} (returned : exec statement s = (.ok u, s')) :
    s' = { s with faults := s.faults.tail } := by
  rw [← statement_session, returned]

theorem statement_calm (calm : Calm s) : ∃ s', exec statement s = (.ok (), s') ∧ Calm s' := by
  obtain ⟨committed, working, pending, faults⟩ := s
  rcases faults with - | ⟨fault, faults⟩
  · exact ⟨_, rfl, calm⟩
  · cases calm fault List.mem_cons_self
    exact ⟨_, rfl, fun fault listed => calm fault (List.mem_cons_of_mem _ listed)⟩

/-- The second session is the first one at a later time, before anything is committed. -/
structure Later (s s' : Session σ) : Prop where
  committed : s'.committed = s.committed
  faults : s'.faults <:+ s.faults

theorem later_refl (s : Session σ) : Later s s := ⟨rfl, List.suffix_refl _⟩

theorem later_trans (first : Later s s₁) (next : Later s₁ s') : Later s s' :=
  ⟨next.committed.trans first.committed, next.faults.trans first.faults⟩

theorem calm_later (calm : Calm s) (later : Later s s') : Calm s' :=
  fun fault listed => calm fault (later.faults.subset listed)

/-- The program leaves the committed tables alone, also where it raises. -/
def Uncommitted (p : Program σ α) : Prop := ∀ s, Later s (exec p s).2

theorem uncommitted_exec {p : Program σ α} {result : Except String α} (uncommitted : Uncommitted p)
    (ran : exec p s = (result, s')) : Later s s' := by
  have later := uncommitted s
  rwa [ran] at later

theorem uncommitted_bind {p : Program σ α} {f : α → Program σ β} (first : Uncommitted p)
    (rest : ∀ a, Uncommitted (f a)) : Uncommitted (p >>= f) := by
  intro s
  rw [exec_bind]
  rcases ran : exec p s with ⟨exc | a, s₁⟩
  · exact uncommitted_exec first ran
  · exact later_trans (uncommitted_exec first ran) (rest a s₁)

theorem uncommitted_statement : Uncommitted (statement : Program σ Unit) := by
  intro s
  rw [statement_session]
  exact ⟨rfl, List.tail_suffix _⟩

theorem uncommitted_emit (change : σ → Except String σ) (changes : List (σ → Except String σ)) :
    Uncommitted (emit change changes) := by
  intro s
  unfold exec emit
  split <;> exact ⟨rfl, List.suffix_refl s.faults⟩

theorem uncommitted_flush : Uncommitted (flush : Program σ Unit) := by
  have all (changes : List (σ → Except String σ)) : Uncommitted (flushAll changes) := by
    induction changes with
    | nil => exact fun s => later_refl s
    | cons change changes ih =>
      exact uncommitted_bind uncommitted_statement fun _ => uncommitted_bind (uncommitted_emit _ _) fun _ => ih
  exact fun s => all s.pending s

/-- A flush that returns has brought the changes into the transaction. -/
theorem flush_ok {u : Unit} (returned : exec flush s = (.ok u, s')) :
    s'.pending = [] ∧ view s = .ok s'.working := by
  have all (changes : List (σ → Except String σ)) (s : Session σ) (waiting : s.pending = changes)
      (returned : exec (flushAll changes) s = (.ok u, s')) : s'.pending = [] ∧ view s = .ok s'.working := by
    induction changes generalizing s with
    | nil =>
      cases returned
      exact ⟨waiting, view_flushed waiting⟩
    | cons change changes ih =>
      obtain ⟨_, s₁, stated, returned⟩ := exec_bind_ok.mp returned
      obtain ⟨_, s₂, emitted, returned⟩ := exec_bind_ok.mp returned
      cases statement_ok stated
      unfold exec emit at emitted
      split at emitted
      · cases emitted
      · rename_i working changed
        cases emitted
        obtain ⟨flushed, viewed⟩ := ih _ rfl returned
        refine ⟨flushed, viewed.symm.trans ?_ |>.symm⟩
        rw [view, view, waiting, List.foldlM_cons, changed]
        rfl
  exact all s.pending s rfl returned

/-- Undisturbed, a flush returns wherever the changes can be made. -/
theorem flush_calm (calm : Calm s) (viewed : view s = .ok db) :
    ∃ s', exec flush s = (.ok (), s') ∧ Calm s' := by
  have all (changes : List (σ → Except String σ)) (s : Session σ) (waiting : s.pending = changes) (calm : Calm s)
      (viewed : view s = .ok db) : ∃ s', exec (flushAll changes) s = (.ok (), s') ∧ Calm s' := by
    induction changes generalizing s with
    | nil => exact ⟨s, rfl, calm⟩
    | cons change changes ih =>
      obtain ⟨s₁, stated, calm⟩ := statement_calm calm
      cases statement_ok stated
      rw [view, waiting, List.foldlM_cons] at viewed
      obtain ⟨working, changed, viewed⟩ := Raises.bind_ok.mp viewed
      obtain ⟨s', returned, calm⟩ :=
        ih { s with faults := s.faults.tail, working, pending := changes } rfl calm viewed
      refine ⟨s', exec_bind_ok.mpr ⟨(), _, stated, exec_bind_ok.mpr ⟨(), _, ?_, returned⟩⟩, calm⟩
      unfold exec emit
      dsimp only
      rw [changed]
  exact all s.pending s rfl calm viewed

theorem scalar_ok {query : σ → α} (returned : exec (scalar query) s = (.ok a, s')) :
    s'.pending = [] ∧ view s = .ok s'.working ∧ a = query s'.working := by
  obtain ⟨_, s₁, flushed, returned⟩ := exec_bind_ok.mp returned
  obtain ⟨_, s₂, stated, returned⟩ := exec_bind_ok.mp returned
  cases statement_ok stated
  cases returned
  exact ⟨(flush_ok flushed).1, (flush_ok flushed).2, rfl⟩

theorem scalar_calm (query : σ → α) (calm : Calm s) (viewed : view s = .ok db) :
    ∃ s', exec (scalar query) s = (.ok (query db), s') ∧ Calm s' := by
  obtain ⟨s₁, flushed, calm⟩ := flush_calm calm viewed
  obtain ⟨s₂, stated, calm⟩ := statement_calm calm
  cases viewed.symm.trans (flush_ok flushed).2
  cases statement_ok stated
  exact ⟨_, exec_bind_ok.mpr ⟨(), _, flushed, exec_bind_ok.mpr ⟨(), _, stated, rfl⟩⟩, calm⟩

theorem uncommitted_scalar (query : σ → α) : Uncommitted (scalar query) :=
  uncommitted_bind uncommitted_flush fun _ => uncommitted_bind uncommitted_statement fun _ s => later_refl s

/-- A session that only asks remains one that has not done anything. -/
theorem fresh_scalar {query : σ → α} (fresh : Fresh s) (returned : exec (scalar query) s = (.ok a, s')) :
    Fresh s' ∧ s'.committed = s.committed ∧ a = query s.committed := by
  obtain ⟨flushed, viewed, rfl⟩ := scalar_ok returned
  have kept := (uncommitted_exec (uncommitted_scalar query) returned).committed
  rw [view_fresh fresh] at viewed
  have working : s.committed = s'.working := Except.ok.inj viewed
  exact ⟨⟨working.symm.trans kept.symm, flushed⟩, kept, congrArg query working.symm⟩

/-- A commit that returns has committed the tables with their changes. -/
theorem commit_ok {u : Unit} (returned : exec commit s = (.ok u, s')) : view s = .ok s'.committed := by
  obtain ⟨_, s₁, flushed, returned⟩ := exec_bind_ok.mp returned
  obtain ⟨_, s₂, stated, returned⟩ := exec_bind_ok.mp returned
  cases statement_ok stated
  cases returned
  exact (flush_ok flushed).2

/-- A commit that raises has committed nothing. -/
theorem commit_raises (raised : exec commit s = (.error exc, s')) : Later s s' := by
  rcases exec_bind_error.mp raised with raised | ⟨_, s₁, flushed, raised⟩
  · exact uncommitted_exec uncommitted_flush raised
  · refine later_trans (uncommitted_exec uncommitted_flush flushed) ?_
    rcases exec_bind_error.mp raised with raised | ⟨_, s₂, -, raised⟩
    · exact uncommitted_exec uncommitted_statement raised
    · cases raised

theorem commit_calm (calm : Calm s) (viewed : view s = .ok db) :
    ∃ s', exec commit s = (.ok (), s') ∧ Calm s' := by
  obtain ⟨s₁, flushed, calm⟩ := flush_calm calm viewed
  obtain ⟨s₂, stated, calm⟩ := statement_calm calm
  exact ⟨_, exec_bind_ok.mpr ⟨(), _, flushed, exec_bind_ok.mpr ⟨(), _, stated, rfl⟩⟩, calm⟩

/-- A rollback that returns leaves a session that has not done anything. -/
theorem rollback_ok {u : Unit} (returned : exec rollback s = (.ok u, s')) :
    Fresh s' ∧ s'.committed = s.committed := by
  obtain ⟨_, s₁, stated, returned⟩ := exec_bind_ok.mp returned
  cases statement_ok stated
  cases returned
  exact ⟨⟨rfl, rfl⟩, rfl⟩

theorem rollback_calm (calm : Calm s) : ∃ s', exec rollback s = (.ok (), s') ∧ Calm s' := by
  obtain ⟨s₁, stated, calm⟩ := statement_calm calm
  exact ⟨_, exec_bind_ok.mpr ⟨(), _, stated, rfl⟩, calm⟩

theorem uncommitted_rollback : Uncommitted (rollback : Program σ Unit) :=
  uncommitted_bind uncommitted_statement fun _ s => ⟨rfl, List.suffix_refl s.faults⟩

/-! ## Programs and what they do to the tables -/

/-- A program over the tables, which may raise. -/
abbrev Tables (σ α : Type) := StateT σ (Except String) α

def readTables (query : σ → α) : Tables σ α := fun db => .ok (query db, db)

def changeTables (change : σ → Except String σ) : Tables σ Unit := fun db => (change db).map fun db => ((), db)

def evaluateTables (x : Except String α) : Tables σ α := fun db => x.map fun a => (a, db)

/-- The session's program does what the other one does to the tables at once. -/
structure Refines (p : Program σ α) (spec : Tables σ α) : Prop where
  uncommitted : Uncommitted p
  sound : ∀ s a s', exec p s = (.ok a, s') → (view s').map (fun db => (a, db)) = view s >>= spec
  complete : ∀ s a db, Calm s → view s >>= spec = .ok (a, db) → ∃ s', exec p s = (.ok a, s') ∧ Calm s'

theorem Refines.congr {p : Program σ α} {spec spec' : Tables σ α} (refines : Refines p spec)
    (same : spec = spec') :
    Refines p spec' := same ▸ refines

theorem map_pair_ok {x : Except String σ} {a' : α} (pairs : x.map (fun db => (a, db)) = .ok (a', db)) :
    x = .ok db := by
  cases x with
  | error exc => cases pairs
  | ok _ =>
    cases pairs
    rfl

theorem refines_pure (a : α) : Refines (pure a : Program σ α) (pure a) := by
  constructor
  case uncommitted => exact fun s => later_refl s
  case sound =>
    intro s _ s' returned
    cases returned
    rfl
  case complete =>
    intro s a' db calm viewed
    obtain ⟨_, -, same⟩ := Raises.bind_ok.mp viewed
    cases same
    exact ⟨s, rfl, calm⟩

theorem refines_bind {p : Program σ α} {f : α → Program σ β} {spec : Tables σ α} {rest : α → Tables σ β}
    (first : Refines p spec) (next : ∀ a, Refines (f a) (rest a)) : Refines (p >>= f) (spec >>= rest) := by
  have composed (s : Session σ) :
      view s >>= (spec >>= rest) = (view s >>= spec) >>= fun result => rest result.1 result.2 :=
    (bind_assoc (view s) spec fun result => rest result.1 result.2).symm
  constructor
  case uncommitted => exact uncommitted_bind first.uncommitted fun a => (next a).uncommitted
  case sound =>
    intro s b s' returned
    obtain ⟨a, s₁, returned₁, returned⟩ := exec_bind_ok.mp returned
    rw [(next a).sound s₁ b s' returned, composed, ← first.sound s a s₁ returned₁]
    cases view s₁ <;> rfl
  case complete =>
    intro s b db calm viewed
    rw [composed] at viewed
    obtain ⟨⟨a, db₁⟩, viewed₁, viewed⟩ := Raises.bind_ok.mp viewed
    obtain ⟨s₁, returned₁, calm⟩ := first.complete s a db₁ calm viewed₁
    have viewing : view s₁ = .ok db₁ := map_pair_ok ((first.sound s a s₁ returned₁).trans viewed₁)
    obtain ⟨s', returned, calm⟩ := (next a).complete s₁ b db calm (by rw [viewing]; exact viewed)
    exact ⟨s', exec_bind_ok.mpr ⟨a, s₁, returned₁, returned⟩, calm⟩

theorem refines_statement : Refines (statement : Program σ Unit) (pure ()) := by
  constructor
  case uncommitted => exact uncommitted_statement
  case sound =>
    intro s u s' returned
    cases statement_ok returned
    rfl
  case complete =>
    intro s u db calm viewed
    exact statement_calm calm

/-- A statement and what it does. -/
theorem refines_then (p : Program σ α) {spec : Tables σ α} (does : Refines p spec) :
    Refines (statement >>= fun _ => p) spec :=
  show Refines _ ((pure () : Tables σ Unit) >>= fun _ => spec) from refines_bind refines_statement fun _ => does

theorem refines_evaluate (x : Except String α) : Refines (evaluate x : Program σ α) (evaluateTables x) := by
  apply refines_then
  constructor
  case uncommitted => exact fun s => later_refl s
  case sound =>
    intro s a s' returned
    cases returned
    cases view s <;> rfl
  case complete =>
    intro s a db calm viewed
    obtain ⟨db', -, viewed⟩ := Raises.bind_ok.mp viewed
    cases x with
    | error exc => cases viewed
    | ok a =>
      cases viewed
      exact ⟨s, rfl, calm⟩

theorem refines_add (change : σ → Except String σ) : Refines (add change) (changeTables change) := by
  apply refines_then
  constructor
  case uncommitted => exact fun s => ⟨rfl, List.suffix_refl s.faults⟩
  case sound =>
    intro s u s' returned
    cases returned
    show (view { s with pending := s.pending ++ [change] }).map _ = _
    rw [view, List.foldlM_append, view]
    cases s.pending.foldlM (fun db change => change db) s.working with
    | error exc => rfl
    | ok db =>
      simp only [Raises.ok_bind, List.foldlM_cons, List.foldlM_nil, bind_pure]
      rfl
  case complete =>
    intro s u db calm _
    exact ⟨_, rfl, calm⟩

theorem refines_flush : Refines (flush : Program σ Unit) (changeTables .ok) := by
  constructor
  case uncommitted => exact uncommitted_flush
  case sound =>
    intro s u s' returned
    rw [view_flushed (flush_ok returned).1, (flush_ok returned).2]
    rfl
  case complete =>
    intro s u db calm viewed
    obtain ⟨db', viewed, -⟩ := Raises.bind_ok.mp viewed
    exact flush_calm calm viewed

theorem refines_scalar (query : σ → α) : Refines (scalar query) (readTables query) := by
  constructor
  case uncommitted => exact uncommitted_scalar query
  case sound =>
    intro s a s' returned
    obtain ⟨flushed, viewed, rfl⟩ := scalar_ok returned
    rw [view_flushed flushed, viewed]
    rfl
  case complete =>
    intro s a db calm viewed
    obtain ⟨db', before, same⟩ := Raises.bind_ok.mp viewed
    cases same
    exact scalar_calm query calm before

/-! ## Changes -/

variable {change next : σ → Except String σ}

theorem change_tables_bind :
    (changeTables change >>= fun _ => changeTables next) = changeTables fun db => change db >>= next := by
  funext db
  show ((change db).map fun db => ((), db)) >>= _ = (change db >>= next).map _
  cases change db <;> rfl

/-- A change and then another. -/
theorem refines_changes {p q : Program σ Unit} (first : Refines p (changeTables change))
    (second : Refines q (changeTables next)) :
    Refines (p >>= fun _ => q) (changeTables fun db => change db >>= next) := by
  rw [← change_tables_bind]
  exact refines_bind first fun _ => second

theorem refines_same {p : Program σ Unit} (does : Refines p (changeTables change))
    (same : ∀ db, change db = next db) : Refines p (changeTables next) := funext same ▸ does

theorem refines_nothing : Refines (pure () : Program σ Unit) (changeTables .ok) := refines_pure ()

theorem refines_raise (exc : String) :
    Refines (evaluate (.error exc) : Program σ Unit) (changeTables fun _ => .error exc) :=
  refines_evaluate (.error exc)

/-- A change that depends on what the tables hold. -/
theorem refines_reading {p : α → Program σ Unit} {changes : α → σ → Except String σ} (query : σ → α)
    (does : ∀ a, Refines (p a) (changeTables (changes a))) :
    Refines (scalar query >>= p) (changeTables fun db => changes (query db) db) :=
  show Refines _ (readTables query >>= fun a => changeTables (changes a)) from
    refines_bind (refines_scalar query) does

/-- A change that the tables may hold already. -/
theorem refines_unless {p : Program σ Unit} (made : σ → Bool) (does : Refines p (changeTables change)) :
    Refines (do if ← scalar made then return () else p)
      (changeTables fun db => if made db then .ok db else change db) := by
  refine @refines_reading σ Bool _ (fun existing db => if existing then .ok db else change db) made ?_
  intro existing
  cases existing with
  | true => exact refines_nothing
  | false => exact does

/-! ## Transactions -/

variable {p : Program σ α} {spec : Tables σ α}

/-- A transaction that raises has committed nothing. -/
theorem transaction_raises (refines : Refines p spec) (raised : exec (transaction p) s = (.error exc, s')) :
    Later s s' := by
  rcases exec_bind_error.mp raised with raised | ⟨a, s₁, returned, raised⟩
  · exact uncommitted_exec refines.uncommitted raised
  · refine later_trans (uncommitted_exec refines.uncommitted returned) ?_
    exact commit_raises (exec_bind_pure_error.mp raised)

/-- A transaction that returns has committed what it does to the tables. -/
theorem transaction_ok (refines : Refines p spec) (returned : exec (transaction p) s = (.ok a, s')) :
    view s >>= spec = .ok (a, s'.committed) := by
  obtain ⟨a', s₁, returned₁, returned⟩ := exec_bind_ok.mp returned
  obtain ⟨_, s₂, committed, returned⟩ := exec_bind_ok.mp returned
  cases returned
  rw [← refines.sound s a s₁ returned₁, commit_ok committed]
  rfl

/-- Undisturbed, a transaction returns wherever the tables allow what it does. -/
theorem transaction_calm (refines : Refines p spec) (calm : Calm s) (allowed : view s >>= spec = .ok (a, db)) :
    ∃ s', exec (transaction p) s = (.ok a, s') ∧ Calm s' ∧ s'.committed = db := by
  obtain ⟨s₁, returned, calm⟩ := refines.complete s a db calm allowed
  have viewed : view s₁ = .ok db := map_pair_ok ((refines.sound s a s₁ returned).trans allowed)
  obtain ⟨s₂, committed, calm⟩ := commit_calm calm viewed
  cases viewed.symm.trans (commit_ok committed)
  exact ⟨s₂, exec_bind_ok.mpr ⟨a, s₁, returned, exec_bind_ok.mpr ⟨(), s₂, committed, rfl⟩⟩, calm, rfl⟩

/-- A rollback and a transaction of its own, after one that raised. -/
def recovery (q : Program σ α) : Program σ α := do
  rollback
  transaction q

/-- What was not committed is no part of what a recovery commits. -/
theorem recovery_ok (refines : Refines p spec) (returned : exec (recovery p) s = (.ok a, s')) :
    spec s.committed = .ok (a, s'.committed) := by
  obtain ⟨_, s₁, rolled, returned⟩ := exec_bind_ok.mp returned
  obtain ⟨fresh, kept⟩ := rollback_ok rolled
  have committed := transaction_ok refines returned
  rwa [view_fresh fresh, kept, Raises.ok_bind] at committed

theorem recovery_raises (refines : Refines p spec) (raised : exec (recovery p) s = (.error exc, s')) :
    Later s s' := by
  rcases exec_bind_error.mp raised with raised | ⟨_, s₁, rolled, raised⟩
  · exact uncommitted_exec uncommitted_rollback raised
  · exact later_trans (uncommitted_exec uncommitted_rollback rolled) (transaction_raises refines raised)

theorem recovery_calm (refines : Refines p spec) (calm : Calm s) (allowed : spec s.committed = .ok (a, db)) :
    ∃ s', exec (recovery p) s = (.ok a, s') ∧ Calm s' ∧ s'.committed = db := by
  obtain ⟨s₁, rolled, calm⟩ := rollback_calm calm
  obtain ⟨fresh, kept⟩ := rollback_ok rolled
  have viewed : view s₁ >>= spec = .ok (a, db) := by
    rw [view_fresh fresh, kept]
    exact allowed
  obtain ⟨s', returned, calm, committed⟩ := transaction_calm refines calm viewed
  exact ⟨s', exec_bind_ok.mpr ⟨(), s₁, rolled, returned⟩, calm, committed⟩

end RevenueGuard.Library.Sessions
