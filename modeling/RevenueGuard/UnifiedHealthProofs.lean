import RevenueGuard.DowntimeMonitor
import RevenueGuard.GraphProofs

/-!
The two signals behind the health of a gateway.  With the breaker at hand, the state of the
snapshot is the worse of the two; where the breaker raises, the snapshot is the healthy
default whatever the processor reports.  `worse_of_two_iff` says when this is no matter.

The processor's signal is a list of downtimes or none.  A reply whose `items` is null is neither:
`fetch_downtimes` hands the null on, the loop over it raises past the fall-back for the downtimes,
and the run takes the healthy default, whatever the breaker says.
-/

namespace RevenueGuard.UnifiedHealthProofs

open Library DowntimeMonitor GraphProofs

variable {own snapshot : GatewayHealthSnapshot} {bank rail : String}

/-! ## Signals -/

/-- CLOSED, HALF_OPEN, OPEN: from the best to the worst. -/
def severity : GatewayHealthState → ℕ
  | .closed => 0
  | .halfOpen => 1
  | .open => 2

def worse (a b : GatewayHealthState) : GatewayHealthState := if severity a ≤ severity b then b else a

theorem severity_worse (a b : GatewayHealthState) : severity (worse a b) = max (severity a) (severity b) := by
  unfold worse
  split
  · rename_i below
    exact (max_eq_right below).symm
  · rename_i above
    exact (max_eq_left (not_le.mp above).le).symm

/-- What a list of downtimes says of a bank and a rail. -/
def reportedState (items : List Json) (bank rail : String) : GatewayHealthState :=
  if items.any fun item => downtimeMatches item bank rail then .open else .closed

theorem reported_state_open {items : List Json} :
    reportedState items bank rail = .open ↔ ∃ item ∈ items, downtimeMatches item bank rail := by
  rw [← List.any_eq_true]
  unfold reportedState
  split
  · rename_i reported
    exact iff_of_true rfl reported
  · rename_i silent
    exact iff_of_false nofun silent

theorem reported_state_silent {items : List Json} (silent : reportedState items bank rail ≠ .open) :
    reportedState items bank rail = .closed := by
  unfold reportedState at silent ⊢
  split
  · rename_i reported
    exact absurd (if_pos reported) silent
  · rfl

theorem unified_health_ok (own : GatewayHealthSnapshot) (items : List Json) :
    unifiedHealth own bank rail (.ok items) =
      if reportedState items bank rail = .open then downtimeOverride own else own := by
  simp only [unifiedHealth, reported_state_open, List.any_eq_true]

/-- With both signals, the state is the worse of the two. -/
theorem unified_worse (own : GatewayHealthSnapshot) (items : List Json) :
    (unifiedHealth own bank rail (.ok items)).state = worse own.state (reportedState items bank rail) := by
  rw [unified_health_ok]
  split
  · rename_i reported
    rw [reported]
    cases own.state <;> rfl
  · rename_i silent
    rw [reported_state_silent silent]
    cases own.state <;> rfl

/-! ## Both signals in a run -/

/-- The snapshot is as bad as each signal that is available; during a downtime of the bank
and the rail it defers, for ten minutes at least. -/
structure WorseOfTwo (internal : Except String GatewayHealthSnapshot) (bank rail : String)
    (downtimes : Except String (List Json)) (snapshot : GatewayHealthSnapshot) : Prop where
  internal : ∀ own, internal = .ok own → severity own.state ≤ severity snapshot.state
  external : ∀ items, downtimes = .ok items →
    severity (reportedState items bank rail) ≤ severity snapshot.state
  downtime : ∀ items, downtimes = .ok items → ∀ item ∈ items, downtimeMatches item bank rail →
    snapshot.state = .open ∧ snapshot.recommendedAction = "DEFER" ∧ 600 ≤ snapshot.retryAfterSeconds

/-- The processor reports a downtime of the bank and the rail. -/
def Reported (downtimes : Except String (List Json)) (bank rail : String) : Prop :=
  ∃ items, downtimes = .ok items ∧ ∃ item ∈ items, downtimeMatches item bank rail

theorem unified_worse_of_two (own : GatewayHealthSnapshot) (downtimes : Except String (List Json)) :
    WorseOfTwo (.ok own) bank rail downtimes (unifiedHealth own bank rail downtimes) := by
  cases downtimes with
  | error exc =>
    constructor
    · intro internal same
      cases same
      exact Nat.le_refl _
    · intro items unavailable
      cases unavailable
    · intro items unavailable
      cases unavailable
  | ok items =>
    constructor
    · intro internal same
      cases same
      rw [unified_worse, severity_worse]
      exact Nat.le_max_left ..
    · intro listed same
      cases same
      rw [unified_worse, severity_worse]
      exact Nat.le_max_right ..
    · intro listed same item member fits
      cases same
      rw [unified_health_ok, if_pos (reported_state_open.mpr ⟨item, member, fits⟩)]
      exact ⟨rfl, rfl, Int.le_max_right ..⟩

/-- The healthy default is as bad as a processor that reports nothing. -/
theorem default_worse_of_two {downtimes : Except String (List Json)} {exc : String} (case : CaseData)
    (silent : ¬ Reported downtimes bank rail) :
    WorseOfTwo (.error exc) bank rail downtimes (healthyDefault case) := by
  constructor
  · intro own unavailable
    cases unavailable
  · intro items same
    have closed : reportedState items bank rail = .closed :=
      reported_state_silent fun opened => silent ⟨items, same, reported_state_open.mp opened⟩
    rw [closed]
    exact Nat.zero_le _
  · intro items same item member fits
    exact absurd ⟨items, same, item, member, fits⟩ silent

/-- The answer of the monitor to a case. -/
def asked (internal : Except String GatewayHealthSnapshot) (downtimes : Except String (List Json))
    (case : CaseData) : Except String GatewayHealthSnapshot :=
  getUnifiedHealth internal (bankOf case) (railOf case) downtimes

/-- A run is given the worse of the two signals exactly if the breaker is available or no
downtime of its bank and rail is reported. -/
theorem worse_of_two_iff (inputs : DecisionInputs) (s : RecoveryState)
    (internal : Except String GatewayHealthSnapshot) (downtimes : Except String (List Json)) :
    (∃ snapshot, (enrichWithHealth { inputs with unifiedHealth := asked internal downtimes s.caseData }
        s).gatewayHealth = some snapshot ∧
      WorseOfTwo internal (bankOf s.caseData) (railOf s.caseData) downtimes snapshot) ↔
      internal.isOk ∨ ¬ Reported downtimes (bankOf s.caseData) (railOf s.caseData) := by
  cases internal with
  | ok own => exact iff_of_true ⟨_, rfl, unified_worse_of_two own downtimes⟩ (.inl rfl)
  | error exc =>
    constructor
    · rintro ⟨snapshot, put, worst⟩
      refine .inr fun reported => ?_
      obtain ⟨items, listed, item, member, fits⟩ := reported
      cases put
      cases (worst.downtime items listed item member fits).1
    · intro available
      have silent := available.resolve_left Bool.false_ne_true
      exact ⟨_, rfl, default_worse_of_two s.caseData silent⟩

/-! ## The breaker raises during a downtime -/

/-- Every run is given the worse of the two signals. -/
def UnifiedHealth : Prop :=
  ∀ (inputs : DecisionInputs) (s : RecoveryState) internal downtimes,
    ∃ snapshot, (enrichWithHealth { inputs with unifiedHealth := asked internal downtimes s.caseData }
        s).gatewayHealth = some snapshot ∧
      WorseOfTwo internal (bankOf s.caseData) (railOf s.caseData) downtimes snapshot

/-- A case of the bank and the rail of the sample snapshot. -/
def hdfcCase : RecoveryCase :=
  { sampleCase "REC-00000007" 250000 with
    customerData := [(contextKey, .obj [("metadata",
      .obj [("bank_name", .str "HDFC"), ("payment_method", .str "upi")])])] }

/-- The processor reports a downtime of the bank's rail, Redis cannot be reached, and the
run is told that all is well. -/
theorem downtime_lost : ¬ UnifiedHealth := by
  intro unified
  obtain ⟨s, built, fits⟩ : ∃ s, buildState hdfcCase none = .ok s ∧
      downtimeMatches (.obj [("status", .str "started"), ("bank", .str "HDFC"), ("method", .str "upi")])
        (bankOf s.caseData) (railOf s.caseData) = true := ⟨_, rfl, by decide⟩
  obtain ⟨snapshot, put, worst⟩ :=
    unified (sampleDecision .closed "stop") s (.error "ConnectionError") (.ok [_])
  cases put
  cases (worst.downtime _ rfl _ (List.mem_singleton_self _) fits).1

end RevenueGuard.UnifiedHealthProofs
