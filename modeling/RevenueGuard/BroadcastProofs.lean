import RevenueGuard.Events
import RevenueGuard.Library.Runs

/-!
Broadcasts over connections that come and go.  A broadcast awaits its sends inside an
iteration over the set of connections, so a change of that set's size between two sends
ends it, and with it the relay.  `fans_out` says what it achieves where every send ends
with as many connections as the broadcast began with.
-/

namespace RevenueGuard.BroadcastProofs

open Library Library.Runs SlotSet

variable {α : Type} [DecidableEq α] {s s' : ConnectionManager α} {es before during : List (ConnectionEvent α)}
  {e : ConnectionEvent α} {b : ℕ} {x : α} {cursor : Cursor} {websocket : α} {disconnected : List α}
  {attempts : List (α × Bool)}

/-! ## Steps -/

inductive ConnectionStep (s : ConnectionManager α) : ConnectionEvent α → ConnectionManager α → Prop where
  | connect {x : α} {placement : Placement α} {connections : Table α} :
      add x placement s.connections = some connections →
      ConnectionStep s (.connect x placement) { s with connections }
  | disconnect (x : α) : ConnectionStep s (.disconnect x) { s with connections := discard x s.connections }
  | emit {b : ℕ} : s.broadcasts b = .idle → ConnectionStep s (.emit b) (s.start b)
  | relayed {b : ℕ} : s.relay = .listening → s.broadcasts b = .idle →
      ConnectionStep s (.hear b .event) ({ s with relay := .relaying b }.start b)
  | passedOver (b : ℕ) : s.relay = .listening → ConnectionStep s (.hear b .other) s
  | failure (b : ℕ) : s.relay = .listening → ConnectionStep s (.hear b .failure) { s with relay := .left none }
  | sent {b : ℕ} {cursor : Cursor} {websocket : α} {disconnected : List α} {attempts : List (α × Bool)}
      (ok : Bool) : s.broadcasts b = .sending cursor websocket disconnected attempts →
      ConnectionStep s (.sent b ok) (s.resume b cursor (if ok then disconnected else disconnected ++ [websocket])
        (attempts ++ [(websocket, ok)]))

theorem connection_step_cases (stepped : connectionStep s e = some s') : ConnectionStep s e s' := by
  unfold connectionStep at stepped
  split at stepped
  · obtain ⟨connections, added, rfl⟩ := Option.map_eq_some_iff.mp stepped
    exact .connect added
  · cases stepped
    exact .disconnect _
  · split at stepped
    · rename_i idle
      cases stepped
      exact .emit idle
    · cases stepped
  · split at stepped
    · rename_i listening idle
      cases stepped
      exact .relayed listening idle
    · rename_i listening
      cases stepped
      exact .passedOver _ listening
    · rename_i listening
      cases stepped
      exact .failure _ listening
    · cases stepped
  · split at stepped
    · rename_i sending
      cases stepped
      exact .sent _ sending
    · cases stepped

/-- The event is a call of this broadcast. -/
def Begins (b : ℕ) (e : ConnectionEvent α) : Prop := e = .emit b ∨ e = .hear b .event

theorem resume_other {c : ℕ} (apart : c ≠ b) :
    (s.resume b cursor disconnected attempts).broadcasts c = s.broadcasts c := by
  unfold ConnectionManager.resume
  split <;> exact Function.update_of_ne apart ..

theorem resume_connections (s : ConnectionManager α) (b : ℕ) (cursor : Cursor) (disconnected : List α)
    (attempts : List (α × Bool)) :
    ∃ gone, (s.resume b cursor disconnected attempts).connections = disconnectAll gone s.connections := by
  unfold ConnectionManager.resume
  split
  · exact ⟨[], rfl⟩
  · exact ⟨disconnected, rfl⟩
  · exact ⟨[], rfl⟩

/-- What a step does to one broadcast: nothing, or its own next part. -/
inductive BroadcastStep (s : ConnectionManager α) (b : ℕ) (e : ConnectionEvent α) :
    ConnectionManager α → Prop where
  | stays {s' : ConnectionManager α} : s'.broadcasts b = s.broadcasts b → BroadcastStep s b e s'
  | begins (relay : RelayPhase) : Begins b e → s.broadcasts b = .idle →
      BroadcastStep s b e ({ s with relay }.start b)
  | goesOn {cursor : Cursor} {websocket : α} {disconnected : List α} {attempts : List (α × Bool)} (ok : Bool) :
      e = .sent b ok → s.broadcasts b = .sending cursor websocket disconnected attempts →
      BroadcastStep s b e (s.resume b cursor (if ok then disconnected else disconnected ++ [websocket])
        (attempts ++ [(websocket, ok)]))

theorem broadcast_step (b : ℕ) (stepped : connectionStep s e = some s') : BroadcastStep s b e s' := by
  cases connection_step_cases stepped with
  | connect | disconnect | passedOver | failure => exact .stays rfl
  | @emit c idle =>
    by_cases mine : b = c
    · subst mine
      exact .begins s.relay (.inl rfl) idle
    · exact .stays (resume_other mine)
  | @relayed c _ idle =>
    by_cases mine : b = c
    · subst mine
      exact .begins _ (.inr rfl) idle
    · exact .stays (resume_other mine)
  | @sent c _ _ _ _ ok sending =>
    by_cases mine : b = c
    · subst mine
      exact .goesOn ok rfl sending
    · exact .stays (resume_other mine)

/-- What a step does to the connections: it adds one, or takes some away. -/
theorem connections_step (stepped : connectionStep s e = some s') :
    (∃ gone, s'.connections = disconnectAll gone s.connections) ∨
      ∃ x placement, e = .connect x placement ∧ add x placement s.connections = some s'.connections := by
  cases connection_step_cases stepped with
  | connect added => exact .inr ⟨_, _, rfl, added⟩
  | disconnect x => exact .inl ⟨[x], rfl⟩
  | emit | relayed | sent => exact .inl (resume_connections ..)
  | passedOver | failure => exact .inl ⟨[], rfl⟩

/-! ## Connections that go -/

theorem mem_disconnect_all {gone : List α} {t : Table α} :
    x ∈ members (disconnectAll gone t) ↔ x ∈ members t ∧ x ∉ gone := by
  unfold disconnectAll
  induction gone generalizing t with
  | nil => simp
  | cons first rest ih =>
    rw [List.foldl_cons, ih, mem_members, mem_discard, ← mem_members, List.mem_cons, not_or, and_assoc]

theorem nodup_disconnect_all {gone : List α} {t : Table α} (unique : (members t).Nodup) :
    (members (disconnectAll gone t)).Nodup := by
  unfold disconnectAll
  induction gone generalizing t with
  | nil => exact unique
  | cons first rest ih =>
    refine ih ?_
    rw [members_discard]
    exact unique.filter _

theorem passed_disconnect_all {gone : List α} {t : Table α} {pos : ℕ} (stays : x ∉ gone) :
    x ∈ passed pos (disconnectAll gone t) ↔ x ∈ passed pos t := by
  unfold disconnectAll
  induction gone generalizing t with
  | nil => exact Iff.rfl
  | cons first rest ih =>
    obtain ⟨other, stays⟩ := not_or.mp (mt List.mem_cons.mpr stays)
    rw [List.foldl_cons, ih stays, passed_discard other]

theorem ahead_disconnect_all (gone : List α) (t : Table α) (pos : ℕ) :
    (ahead pos (disconnectAll gone t)).length ≤ (ahead pos t).length := by
  unfold disconnectAll
  induction gone generalizing t with
  | nil => exact Nat.le_refl _
  | cons first rest ih =>
    have fewer : (ahead pos (discard first t)).length ≤ (ahead pos t).length := by
      have dropped : (discard first t).drop pos = discard first (t.drop pos) := List.map_drop.symm
      rw [ahead, ahead, dropped, members_discard]
      exact List.length_filter_le ..
    exact Nat.le_trans (ih _) fewer

/-- No connection is in the set twice. -/
theorem connections_unique (ran : run connectionStep {} es = some s) : (members s.connections).Nodup := by
  refine run_invariant (P := fun s : ConnectionManager α => (members s.connections).Nodup) ?_ ?_ ran
  · intro s e s' unique stepped
    rcases connections_step stepped with ⟨gone, left⟩ | ⟨x, placement, _, added⟩
    · rw [left]
      exact nodup_disconnect_all unique
    · rcases add_ok added with same | ⟨new, grown⟩
      · rw [same]
        exact unique
      · exact grown.nodup_iff.mpr (List.nodup_cons.mpr ⟨new, unique⟩)
  · exact List.nodup_nil

/-! ## Undisturbed broadcasts -/

/-- A send ends with as many connections as its broadcast began with, and an insertion
that rebuilds the table carries no other connection across the place of a broadcast. -/
def Undisturbed (s : ConnectionManager α) : ConnectionEvent α → Prop
  | .connect x (.rebuilt connections) => add x (.rebuilt connections) s.connections = some connections →
    ∀ b cursor websocket disconnected attempts,
      s.broadcasts b = .sending cursor websocket disconnected attempts →
      KeepsSides cursor.pos s.connections connections
  | .sent b _ => ∀ cursor websocket disconnected attempts,
    s.broadcasts b = .sending cursor websocket disconnected attempts → size s.connections = cursor.used
  | _ => True

theorem undisturbed_sides {placement : Placement α} {connections : Table α}
    (undisturbed : Undisturbed s (.connect x placement))
    (added : add x placement s.connections = some connections)
    (sending : s.broadcasts b = .sending cursor websocket disconnected attempts) :
    KeepsSides cursor.pos s.connections connections := by
  cases placement with
  | slot i => exact keeps_sides_slot cursor.pos added
  | rebuilt rebuilt =>
    rcases add_ok added with rfl | ⟨new, _⟩
    · exact fun _ _ => Iff.rfl
    · have built : rebuilt = connections := by
        simp only [add, if_neg new] at added
        split at added
        · exact Option.some.inj added
        · cases added
      cases built
      exact undisturbed added b cursor websocket disconnected attempts sending

/-- With the size it began with, a broadcast goes on to its next send or to its end. -/
theorem resume_cases (s : ConnectionManager α) (b : ℕ) (disconnected : List α) (attempts : List (α × Bool))
    (same : size s.connections = cursor.used) :
    (∃ next cursor', SlotSet.next cursor s.connections = .yields next cursor' ∧
      s.resume b cursor disconnected attempts =
        { s with broadcasts := Function.update s.broadcasts b (.sending cursor' next disconnected attempts) }) ∨
    SlotSet.next cursor s.connections = .stops ∧ s.resume b cursor disconnected attempts =
      { connections := disconnectAll disconnected s.connections
        broadcasts := Function.update s.broadcasts b (.returned attempts)
        relay := s.relay.after b .listening } := by
  unfold ConnectionManager.resume
  cases moved : SlotSet.next cursor s.connections with
  | raises => exact absurd same (next_raises.mp moved)
  | stops => exact .inr ⟨rfl, rfl⟩
  | yields next cursor' => exact .inl ⟨next, cursor', rfl, rfl⟩

/-! ## No exception -/

/-- No broadcast has raised, and none has driven the relay out of its loop. -/
def NoneRaised (s : ConnectionManager α) : Prop :=
  (∀ b attempts, s.broadcasts b ≠ .raised attempts) ∧ ∀ b, s.relay ≠ .left (some b)

theorem none_raised_resume {relay : RelayPhase} (none : NoneRaised s) (within : ∀ b, relay ≠ .left (some b))
    (same : size s.connections = cursor.used) :
    NoneRaised (({ s with relay } : ConnectionManager α).resume b cursor disconnected attempts) := by
  have others (phase : BroadcastPhase α) (fine : ∀ attempts, phase ≠ .raised attempts) (c : ℕ)
      (attempts : List (α × Bool)) : Function.update s.broadcasts b phase c ≠ .raised attempts := by
    by_cases mine : c = b
    · subst mine
      rw [Function.update_self]
      exact fine attempts
    · rw [Function.update_of_ne mine]
      exact none.1 c attempts
  rcases resume_cases { s with relay } b disconnected attempts same with ⟨_, _, _, moved⟩ | ⟨_, moved⟩
  · rw [moved]
    exact ⟨others _ nofun, within⟩
  · rw [moved]
    refine ⟨others _ nofun, fun c => ?_⟩
    change relay.after b .listening ≠ .left (some c)
    unfold RelayPhase.after
    split
    · exact nofun
    · exact within c

theorem none_raised_step (none : NoneRaised s) (undisturbed : Undisturbed s e)
    (stepped : connectionStep s e = some s') : NoneRaised s' := by
  cases connection_step_cases stepped with
  | connect | disconnect | passedOver => exact none
  | failure => exact ⟨none.1, nofun⟩
  | emit => exact none_raised_resume none none.2 rfl
  | relayed => exact none_raised_resume none nofun rfl
  | sent ok sending => exact none_raised_resume none none.2 (undisturbed _ _ _ _ sending)

/-! ## Every connection once -/

/-- A broadcast has sent to a connection as often as it has passed it, and in the end
once. -/
def Tried (x : α) (connections : Table α) : BroadcastPhase α → Prop
  | .sending cursor websocket _ attempts =>
    (attempts.map (·.1) ++ [websocket]).count x = (passed cursor.pos connections).count x
  | .returned attempts => (attempts.map (·.1)).count x = 1
  | _ => False

theorem count_passed {t t' : Table α} {pos : ℕ} (unique : (members t).Nodup) (unique' : (members t').Nodup)
    (same : x ∈ passed pos t' ↔ x ∈ passed pos t) : (passed pos t').count x = (passed pos t).count x := by
  rw [← passed_ahead pos] at unique unique'
  rw [unique.of_append_left.count, unique'.of_append_left.count]
  exact if_congr same rfl rfl

/-- What `next` yields has been passed once more, and is sent to once more; where it
stops, every member has been passed. -/
theorem tried_resume (unique : (members s.connections).Nodup) (same : size s.connections = cursor.used)
    (registered : x ∈ members s.connections)
    (tried : (attempts.map (·.1)).count x = (passed cursor.pos s.connections).count x) :
    Tried x (s.resume b cursor disconnected attempts).connections
      ((s.resume b cursor disconnected attempts).broadcasts b) := by
  rcases resume_cases s b disconnected attempts same with
    ⟨next, cursor', yielded, moved⟩ | ⟨stopped, moved⟩
  · obtain ⟨_, passing, _⟩ := next_yields yielded
    rw [moved]
    simp only [Function.update_self, Tried]
    rw [passing, List.count_append, List.count_append, tried]
  · rw [moved]
    simp only [Function.update_self, Tried]
    have all : passed cursor.pos s.connections = members s.connections := by
      rw [← passed_ahead cursor.pos, next_stops stopped, List.append_nil]
    rw [tried, all]
    exact List.count_eq_one_of_mem unique registered

theorem tried_step (unique : (members s.connections).Nodup) (unique' : (members s'.connections).Nodup)
    (undisturbed : Undisturbed s e) (stepped : connectionStep s e = some s')
    (registered : x ∈ members s.connections)
    (registered' : (∀ attempts, s'.broadcasts b ≠ .returned attempts) → x ∈ members s'.connections)
    (tried : Tried x s.connections (s.broadcasts b)) : Tried x s'.connections (s'.broadcasts b) := by
  cases broadcast_step b stepped with
  | stays same =>
    rw [same]
    rw [same] at registered'
    cases phase : s.broadcasts b with
    | idle | raised =>
      rw [phase] at tried
      exact tried.elim
    | returned =>
      rw [phase] at tried
      exact tried
    | sending cursor websocket disconnected attempts =>
      rw [phase] at tried
      have registered' : x ∈ members s'.connections := registered' (by simp [phase])
      have stays : x ∈ passed cursor.pos s'.connections ↔ x ∈ passed cursor.pos s.connections := by
        rcases connections_step stepped with ⟨gone, left⟩ | ⟨new, placement, rfl, added⟩
        · rw [left] at registered' ⊢
          exact passed_disconnect_all (mem_disconnect_all.mp registered').2
        · exact undisturbed_sides undisturbed added phase x registered
      exact tried.trans (count_passed unique unique' stays).symm
  | begins relay _ idle =>
    rw [idle] at tried
    exact tried.elim
  | goesOn ok sent sending =>
    cases sent
    rw [sending] at tried
    refine tried_resume unique (undisturbed _ _ _ _ sending) registered ?_
    rw [List.map_append]
    exact tried

theorem begins_step (begins : Begins b e) (stepped : connectionStep s e = some s') :
    s.broadcasts b = .idle ∧ ∃ relay, s' = ({ s with relay } : ConnectionManager α).start b := by
  rcases begins with rfl | rfl
  · cases connection_step_cases stepped with
    | emit idle => exact ⟨idle, s.relay, rfl⟩
  · cases connection_step_cases stepped with
    | relayed _ idle => exact ⟨idle, _, rfl⟩

/-- A broadcast that has returned has done so for good. -/
theorem returned_step (stepped : connectionStep s e = some s')
    (returned : s.broadcasts b = .returned attempts) :
    s'.broadcasts b = .returned attempts := by
  cases broadcast_step b stepped with
  | stays same => exact same.trans returned
  | begins _ _ idle => cases idle.symm.trans returned
  | goesOn _ _ sending => cases sending.symm.trans returned

/-- The connection is in the set from the call of a broadcast after `before` until it
returns. -/
def Registered (before es : List (ConnectionEvent α)) (b : ℕ) (x : α) : Prop :=
  ∀ earlier t, before <+: earlier → earlier <+: es → run connectionStep {} earlier = some t →
    (∀ attempts, t.broadcasts b ≠ .returned attempts) → x ∈ members t.connections

theorem tried_run (met : Meets connectionStep Undisturbed {} (before ++ e :: during))
    (ran : run connectionStep {} (before ++ e :: during) = some s) (begins : Begins b e)
    (registered : Registered before (before ++ e :: during) b x) : Tried x s.connections (s.broadcasts b) := by
  refine meets_since (P := fun during (s : ConnectionManager α) =>
    Registered before (before ++ e :: during) b x → Tried x s.connections (s.broadcasts b))
    ?_ ?_ met ran registered
  · intro s s' ran _ stepped registered
    obtain ⟨idle, relay, rfl⟩ := begins_step begins stepped
    have member := registered before s List.prefix_rfl (List.prefix_append ..) ran (by simp [idle])
    have unique := connections_unique ran
    exact tried_resume (s := { s with relay }) unique rfl member rfl
  · intro earlier s last s' ran tried undisturbed stepped registered
    have longer : before ++ e :: (earlier ++ [last]) = before ++ e :: earlier ++ [last] := by simp
    rw [longer] at registered
    have ran' : run connectionStep {} (before ++ e :: earlier ++ [last]) = some s' :=
      run_snoc_iff.mpr ⟨s, ran, stepped⟩
    have begun : before <+: before ++ e :: earlier := List.prefix_append ..
    have whole : before ++ e :: earlier <+: before ++ e :: earlier ++ [last] := List.prefix_append ..
    have tried := tried fun prior t after upto => registered prior t after (upto.trans whole)
    by_cases returned : ∃ attempts, s.broadcasts b = .returned attempts
    · obtain ⟨attempts, returned⟩ := returned
      rw [returned] at tried
      rw [returned_step stepped returned]
      exact tried
    · exact tried_step (connections_unique ran) (connections_unique ran') undisturbed stepped
        (registered _ s begun whole ran fun attempts same => returned ⟨attempts, same⟩)
        (registered _ s' (begun.trans whole) List.prefix_rfl ran') tried

theorem once_of_count (once : (attempts.map (·.1)).count x = 1) :
    ∃ ok, attempts.filter (fun attempt => attempt.1 = x) = [(x, ok)] := by
  have single : (attempts.filter fun attempt => attempt.1 = x).length = 1 := by
    rw [← List.countP_eq_length_filter, ← once, List.count, List.countP_map]
    exact List.countP_congr fun attempt _ => by simp
  obtain ⟨⟨websocket, ok⟩, alone⟩ := List.length_eq_one_iff.mp single
  have listed : (websocket, ok) ∈ attempts.filter fun attempt => attempt.1 = x := by
    rw [alone]
    exact List.mem_singleton_self _
  have same : websocket = x := by simpa using (List.mem_filter.mp listed).2
  subst same
  exact ⟨ok, alone⟩

/-! ## Failed connections -/

/-- The connections whose send has failed are on the list of the broadcast. -/
def FailedListed : BroadcastPhase α → Prop
  | .sending _ _ disconnected attempts => ∀ x, (x, false) ∈ attempts → x ∈ disconnected
  | _ => True

omit [DecidableEq α] in
theorem failed_attempt {ok : Bool} (listed : ∀ x, (x, false) ∈ attempts → x ∈ disconnected)
    (failed : (x, false) ∈ attempts ++ [(websocket, ok)]) :
    x ∈ if ok then disconnected else disconnected ++ [websocket] := by
  rcases List.mem_append.mp failed with earlier | last
  · split
    · exact listed x earlier
    · exact List.mem_append_left _ (listed x earlier)
  · cases List.mem_singleton.mp last
    exact List.mem_append_right _ (List.mem_singleton_self _)

theorem failed_listed_step (listed : ∀ b, FailedListed (s.broadcasts b))
    (stepped : connectionStep s e = some s')
    (b : ℕ) : FailedListed (s'.broadcasts b) := by
  cases broadcast_step b stepped with
  | stays same =>
    rw [same]
    exact listed b
  | begins relay _ idle =>
    unfold ConnectionManager.start ConnectionManager.resume
    split <;> simp [FailedListed]
  | goesOn ok sent sending =>
    have known := listed b
    rw [sending] at known
    unfold ConnectionManager.resume
    split <;> simp only [Function.update_self, FailedListed]
    exact fun x failed => failed_attempt known failed

theorem failed_listed (ran : run connectionStep {} es = some s) (b : ℕ) : FailedListed (s.broadcasts b) := by
  refine run_invariant (P := fun s : ConnectionManager α => ∀ b, FailedListed (s.broadcasts b)) ?_ ?_ ran b
  · intro s e s' listed stepped
    exact failed_listed_step listed stepped
  · intro b
    trivial

/-- The end of a broadcast takes every connection out whose send has failed. -/
theorem failed_removed (listed : FailedListed (s.broadcasts b)) (stepped : connectionStep s e = some s')
    (sending : s.broadcasts b = .sending cursor websocket disconnected attempts) {all : List (α × Bool)}
    (returned : s'.broadcasts b = .returned all) (failed : (x, false) ∈ all) : x ∉ members s'.connections := by
  cases broadcast_step b stepped with
  | stays same => cases (same.trans sending).symm.trans returned
  | begins _ _ idle => cases idle.symm.trans sending
  | goesOn ok sent held =>
    rw [held] at listed
    unfold ConnectionManager.resume at returned ⊢
    split at returned <;> simp only [Function.update_self] at returned <;> cases returned
    exact fun member => (mem_disconnect_all.mp member).2 (failed_attempt listed failed)

/-! ## How many sends -/

/-- The sends that a broadcast has begun. -/
def sends : BroadcastPhase α → ℕ
  | .idle => 0
  | .sending _ _ _ attempts => attempts.length + 1
  | .returned attempts => attempts.length
  | .raised attempts => attempts.length

/-- The connections that a broadcast has ahead. -/
def pending (connections : Table α) : BroadcastPhase α → ℕ
  | .sending cursor _ _ _ => (ahead cursor.pos connections).length
  | _ => 0

def isConnect : ConnectionEvent α → Bool
  | .connect _ _ => true
  | _ => false

theorem sends_resume : sends ((s.resume b cursor disconnected attempts).broadcasts b) +
    pending (s.resume b cursor disconnected attempts).connections
      ((s.resume b cursor disconnected attempts).broadcasts b) ≤
    attempts.length + (ahead cursor.pos s.connections).length := by
  unfold ConnectionManager.resume
  split
  · simp only [Function.update_self, sends, pending]
    omega
  · simp only [Function.update_self, sends, pending]
    omega
  · rename_i yielded
    obtain ⟨_, _, first⟩ := next_yields yielded
    simp only [Function.update_self, sends, pending, first, List.length_cons]
    omega

theorem sends_step (unique : (members s.connections).Nodup) (unique' : (members s'.connections).Nodup)
    (undisturbed : Undisturbed s e) (stepped : connectionStep s e = some s') (begun : s.broadcasts b ≠ .idle) :
    sends (s'.broadcasts b) + pending s'.connections (s'.broadcasts b) ≤
      sends (s.broadcasts b) + pending s.connections (s.broadcasts b) + (isConnect e).toNat := by
  cases broadcast_step b stepped with
  | stays same =>
    rw [same]
    cases phase : s.broadcasts b with
    | idle => exact absurd phase begun
    | returned | raised => simp only [pending]; omega
    | sending cursor websocket disconnected attempts =>
      simp only [pending]
      rcases connections_step stepped with ⟨gone, left⟩ | ⟨new, placement, rfl, added⟩
      · have fewer := ahead_disconnect_all gone s.connections cursor.pos
        rw [← left] at fewer
        omega
      · have grown : ∀ y ∈ members s'.connections, y = new ∨ y ∈ members s.connections := by
          intro y member
          rcases add_ok added with same | ⟨_, grown⟩
          · exact .inr (same ▸ member)
          · exact List.mem_cons.mp (grown.mem_iff.mp member)
        have sides := undisturbed_sides undisturbed added phase
        have more := ahead_length_le unique' unique grown sides
        simp only [isConnect, Bool.toNat_true]
        omega
  | begins _ _ idle => exact absurd idle begun
  | @goesOn cursor websocket disconnected attempts ok sent sending =>
    refine Nat.le_trans sends_resume ?_
    rw [sending]
    simp only [sends, pending, List.length_append, List.length_singleton]
    omega

theorem resume_begun : (s.resume b cursor disconnected attempts).broadcasts b ≠ .idle := by
  unfold ConnectionManager.resume
  split <;> simp

theorem begun_step (begun : s.broadcasts b ≠ .idle) (stepped : connectionStep s e = some s') :
    s'.broadcasts b ≠ .idle := by
  cases broadcast_step b stepped with
  | stays same =>
    rw [same]
    exact begun
  | begins _ _ idle => exact absurd idle begun
  | goesOn => exact resume_begun

/-- A broadcast sends no oftener than there are connections when it begins, and later. -/
theorem sends_run (met : Meets connectionStep Undisturbed {} (before ++ e :: during))
    (ran : run connectionStep {} (before ++ e :: during) = some s) (begins : Begins b e) :
    s.broadcasts b ≠ .idle ∧ ∃ start, run connectionStep {} before = some start ∧
      sends (s.broadcasts b) + pending s.connections (s.broadcasts b) ≤
        size start.connections + during.countP isConnect := by
  refine meets_since (P := fun during (s : ConnectionManager α) =>
    s.broadcasts b ≠ .idle ∧ ∃ start, run connectionStep {} before = some start ∧
      sends (s.broadcasts b) + pending s.connections (s.broadcasts b) ≤
        size start.connections + during.countP isConnect) ?_ ?_ met ran
  · intro s s' ran _ stepped
    obtain ⟨_, relay, rfl⟩ := begins_step begins stepped
    refine ⟨resume_begun, s, ran, Nat.le_trans sends_resume ?_⟩
    change 0 + (ahead 0 s.connections).length ≤ size s.connections + 0
    rw [ahead_start, Nat.zero_add]
    exact Nat.le_refl _
  · rintro earlier s last s' ran ⟨begun, start, reached, bound⟩ undisturbed stepped
    have ran' : run connectionStep {} (before ++ e :: earlier ++ [last]) = some s' :=
      run_snoc_iff.mpr ⟨s, ran, stepped⟩
    refine ⟨begun_step begun stepped, start, reached, ?_⟩
    have one := sends_step (connections_unique ran) (connections_unique ran') undisturbed stepped begun
    rw [List.countP_append, List.countP_singleton]
    cases connects : isConnect last with
    | true =>
      rw [connects, Bool.toNat_true] at one
      rw [if_pos rfl]
      omega
    | false =>
      rw [connects, Bool.toNat_false] at one
      rw [if_neg Bool.false_ne_true]
      omega

/-! ## What a broadcast achieves -/

/-- A broadcast called after `before`, in a later state: it has not raised; it makes no
more sends than there are connections; when it has returned, it has sent once to each
connection that was there throughout; its end takes out those whose send has failed; and
it has not driven the relay out of its loop. -/
structure FansOut (before during : List (ConnectionEvent α)) (e : ConnectionEvent α) (b : ℕ)
    (s : ConnectionManager α) : Prop where
  raises : ∀ attempts, s.broadcasts b ≠ .raised attempts
  ends : ∃ start, run connectionStep {} before = some start ∧
    sends (s.broadcasts b) ≤ size start.connections + during.countP isConnect
  goesOn : ∀ cursor websocket disconnected attempts ok,
    s.broadcasts b = .sending cursor websocket disconnected attempts →
    (connectionStep s (.sent b ok)).isSome
  once : ∀ attempts, s.broadcasts b = .returned attempts → ∀ x, Registered before (before ++ e :: during) b x →
    ∃ ok, attempts.filter (fun attempt => attempt.1 = x) = [(x, ok)]
  removed : ∀ last s' cursor websocket disconnected attempts all x,
    s.broadcasts b = .sending cursor websocket disconnected attempts → connectionStep s last = some s' →
    s'.broadcasts b = .returned all → (x, false) ∈ all → x ∉ members s'.connections
  relay : s.relay ≠ .left (some b)

/-- Whatever else happens, a broadcast fans out if it is not disturbed. -/
theorem fans_out (met : Meets connectionStep Undisturbed {} (before ++ e :: during)) (begins : Begins b e)
    (ran : run connectionStep {} (before ++ e :: during) = some s) : FansOut before during e b s := by
  have none : NoneRaised s := by
    refine meets_invariant (P := NoneRaised) ?_ ?_ met ran
    · constructor
      · intro b attempts raised
        cases raised
      · intro b left
        cases left
    · intro s e s' none undisturbed stepped
      exact none_raised_step none undisturbed stepped
  obtain ⟨_, start, reached, bound⟩ := sends_run met ran begins
  constructor
  case raises => exact none.1 b
  case ends => exact ⟨start, reached, by omega⟩
  case goesOn =>
    intro cursor websocket disconnected attempts ok sending
    simp only [connectionStep, sending, Option.isSome_some]
  case once =>
    intro attempts returned x registered
    have tried := tried_run met ran begins registered
    rw [returned] at tried
    exact once_of_count tried
  case removed =>
    intro last s' cursor websocket disconnected attempts all x sending stepped returned failed
    exact failed_removed (failed_listed ran b) stepped sending returned failed
  case relay => exact none.2 b

/-- The set has the size an iteration needs, and no insertion rebuilds it. -/
def sizeKept (s : ConnectionManager α) : ConnectionEvent α → Bool
  | .connect _ (.rebuilt _) => false
  | .sent b _ =>
    match s.broadcasts b with
    | .sending cursor _ _ _ => size s.connections = cursor.used
    | _ => true
  | _ => true

theorem undisturbed_of_size (kept : sizeKept s e = true) : Undisturbed s e := by
  cases e with
  | connect x placement =>
    cases placement with
    | slot i => trivial
    | rebuilt connections => cases kept
  | sent b ok =>
    intro cursor websocket disconnected attempts sending
    simp only [sizeKept, sending] at kept
    exact of_decide_eq_true kept
  | disconnect | emit | hear => trivial

/-- While the first of two connections fails, the other one leaves and a third one comes. -/
def exchanged : List (ConnectionEvent ℕ) := [.disconnect 1, .connect 2 (.slot 6), .sent 0 false, .sent 0 true]

theorem fans_out_exchanged :
    ∃ s, s.broadcasts 0 = .returned [(0, false), (2, true)] ∧
      FansOut [.connect 0 (.slot 3), .connect 1 (.slot 5)] exchanged (.hear 0 .event) 0 s := by
  have ends : (run connectionStep {} (.connect 0 (.slot 3) :: .connect 1 (.slot 5) :: .hear 0 .event ::
      exchanged)).map (fun s : ConnectionManager ℕ => s.broadcasts 0) =
        some (.returned [(0, false), (2, true)]) := rfl
  obtain ⟨s, ran, returned⟩ := Option.map_eq_some_iff.mp ends
  have kept : Meets connectionStep (fun s e => sizeKept s e = true) {}
      (.connect 0 (.slot 3) :: .connect 1 (.slot 5) :: .hear 0 .event :: exchanged) :=
    meets_of_checks (by decide +kernel)
  exact ⟨s, returned, fans_out (meets_mono kept fun _ _ => undisturbed_of_size) (.inr rfl) ran⟩

/-! ## A connection that comes during a send -/

/-- The relay is in a broadcast to one connection when another one comes. -/
def joined : List (ConnectionEvent ℕ) :=
  [.connect 0 (.slot 3), .hear 0 .event, .connect 1 (.slot 5), .sent 0 true]

/-- Every broadcast of every run fans out. -/
def FansOutAlways : Prop :=
  ∀ (before during : List (ConnectionEvent ℕ)) (e : ConnectionEvent ℕ) (b : ℕ) (s : ConnectionManager ℕ),
    Begins b e → run connectionStep {} (before ++ e :: during) = some s → FansOut before during e b s

theorem connect_ends_relay : ¬ FansOutAlways := by
  intro always
  have left : (run connectionStep {} joined).map (·.relay) = some (.left (some 0)) := by decide +kernel
  obtain ⟨s, ran, relay⟩ := Option.map_eq_some_iff.mp left
  exact (always [.connect 0 (.slot 3)] _ (.hear 0 .event) 0 s (.inr rfl) ran).relay relay

end RevenueGuard.BroadcastProofs
