import RevenueGuard.LlmProofs
import RevenueGuard.NormalizerProofs
import RevenueGuard.PolicyProofs
import RevenueGuard.TableProofs

/-!
Addresses on their way from a payload to a nudge.  The channel node takes a channel
only for a customer with the address that it needs, and stops the case where no channel
is left.  But a payment without a contact or an e-mail gets a placeholder from the
normalizer, and to the channel node that is an address like any other.
-/

namespace RevenueGuard.AddressProofs

open Library Library.Raises GraphProofs LlmProofs NormalizerProofs PolicyProofs TableProofs

variable {rawEvent entity : Dict} {key default caseHex customerHex eventId : String} {kind : DatabaseKind}
  {transaction : ℕ} {now : ℤ} {record : WebhookEvent} {case row : RecoveryCase} {d : Deployment}
  {decision : DecisionInputs} {clock : PolicyClock} {finish : FinishInputs}
  {approval : Option RecoveryApproval} {s t init result : RecoveryState} {channel : RecoveryChannel}
  {action : RecoveryAction}

/-! ## From the payload to the stored customer -/

/-- The entity that the normalizer reads of an event. -/
def EntityOf (rawEvent entity : Dict) : Prop := ∃ payload,
  (rawEvent.getD "payload" (.obj [])).asDict = .ok payload ∧ normalizedEntity payload = .ok entity

/-- The entity has an address under a key. -/
def Given (entity : Dict) (key : String) : Prop := ∃ text, entity.lookup key = some (.str text) ∧ text ≠ ""

/-- The address that the normalizer reads under a key, its placeholder included. -/
def ReadAs (entity : Dict) (key default : String) (address : Json) : Prop :=
  ∃ text, entity.getD key (.str default) = .str text ∧ address = .str text

/-- The category that the normalizer gives the failure. -/
def categoryOf (entity : Dict) : Except String FailureCategory :=
  classifyFailure (entity.getD "error_source" (.str "unknown")) (entity.getD "error_reason" (.str "unknown"))

/-- What the stored case has from the entity, as far as a nudge depends on it. -/
structure MadeOf (entity : Dict) (case : RecoveryCase) : Prop where
  phone : ReadAs entity "contact" "+910000000000" (case.customerData.get "phone")
  email : ReadAs entity "email" "unknown@example.com" (case.customerData.get "email")
  optedIn : case.customerData.get "opted_out" = .bool false
  lifetimeValue : case.customerData.get "lifetime_value_paise" = .int 0
  context : ∃ context, (case.customerData.getD contextKey (.obj [])).asDict = .ok context
  amount : (entity.getD "amount" (.int 0)).intField = .ok case.amountPaise
  category : (categoryOf entity).map FailureCategory.value = .ok case.failureCategory

theorem str_field_ok {value : Json} {text : String} (taken : value.strField = .ok text) :
    value = .str text := by
  cases value with
  | str held =>
    cases taken
    rfl
  | _ => cases taken

theorem made_of_entity (read : EntityOf rawEvent entity)
    (added : webhookRows kind transaction caseHex customerHex now eventId rawEvent = .ok (record, some case)) :
    MadeOf entity case := by
  obtain ⟨payload, body, entityRead⟩ := read
  obtain ⟨_, _, added⟩ := bind_ok.mp added
  split at added
  · obtain ⟨normalized, returned, shape⟩ := bind_ok.mp added
    cases pure_ok.mp shape
    simp only [normalizeRazorpayEvent, body, entityRead, ok_bind, bind_ok, pure_ok] at returned
    obtain ⟨_, _, _, _, _, _, _, email, _, contact, _, _, _, _, _, _, _, _, _, amount, _, _, _, category, _, _, _,
      _, _, _, _, _, _, _, _, _, rfl⟩ := returned
    exact
      { phone := ⟨_, str_field_ok contact, rfl⟩
        email := ⟨_, str_field_ok email, rfl⟩
        optedIn := rfl
        lifetimeValue := rfl
        context := ⟨_, rfl⟩
        amount
        category := by rw [categoryOf, category]; rfl }
  · cases pure_ok.mp added

/-- Later rows of the case have it too. -/
theorem made_of_later (made : MadeOf entity case) (same : intakePart row = intakePart case) :
    MadeOf entity row := by
  have customerData : row.customerData = case.customerData := congrArg (·.customerData) same
  have amount : row.amountPaise = case.amountPaise := (intake_part_amount same).2
  have category : row.failureCategory = case.failureCategory := congrArg (·.failureCategory) same
  constructor
  case phone => exact customerData ▸ made.phone
  case email => exact customerData ▸ made.email
  case optedIn => exact customerData ▸ made.optedIn
  case lifetimeValue => exact customerData ▸ made.lifetimeValue
  case context => exact customerData ▸ made.context
  case amount => exact amount ▸ made.amount
  case category => exact category ▸ made.category

/-- To the channel node an address is there when it was given, and when it is a placeholder. -/
theorem read_as_truthy {address : Json} (read : ReadAs entity key default address)
    (placeholder : default ≠ "") :
    address.truthy = true ↔ Given entity key ∨ entity.lookup key = none := by
  obtain ⟨text, read, rfl⟩ := read
  unfold Given
  cases found : entity.lookup key with
  | none =>
    rw [Dict.getD, found, Option.getD_none, Json.str.injEq] at read
    subst read
    simpa [Json.truthy] using placeholder
  | some value =>
    rw [Dict.getD, found, Option.getD_some] at read
    subst read
    simp [Json.truthy]

/-! ## The channel node -/

/-- The strategy is a nudge. -/
def Nudges (s : RecoveryState) : Prop := ∃ actionType ∈ nudgeActions, s.action = some actionType

/-- The bandit's draw that puts one channel first. -/
def favour (channel : RecoveryChannel) : RecoveryChannel → ℚ := fun other => if other = channel then 1 else 0

theorem best_channel_stays (channel : RecoveryChannel) (rest : List RecoveryChannel) :
    bestChannel (favour channel) channel rest = channel := by
  induction rest with
  | nil => rfl
  | cons other rest ih =>
    have first : ¬ favour channel channel < favour channel other := by
      unfold favour
      rw [if_pos rfl]
      split
      · exact lt_irrefl 1
      · exact not_lt.mpr zero_le_one
    rw [bestChannel, if_neg first]
    exact ih

theorem best_channel_favoured {best : RecoveryChannel} {rest : List RecoveryChannel}
    (listed : channel ∈ best :: rest) : bestChannel (favour channel) best rest = channel := by
  induction rest generalizing best with
  | nil =>
    cases List.mem_singleton.mp listed
    rfl
  | cons other rest ih =>
    rw [bestChannel]
    by_cases found : best = channel
    · subst found
      exact best_channel_stays best (other :: rest)
    · apply ih
      split
      · rcases List.mem_cons.mp listed with same | later
        · exact absurd same.symm found
        · exact later
      · rename_i notLess
        have apart : other ≠ channel := by
          rintro rfl
          simp [favour, found] at notLess
        rcases List.mem_cons.mp listed with same | later
        · exact absurd same.symm found
        · rcases List.mem_cons.mp later with same | later
          · exact absurd same.symm apart
          · exact List.mem_cons_of_mem _ later

/-- The channels of a customer who has not opted out. -/
theorem mem_eligible_channels {customer : Dict} (optedIn : ¬ (customer.get "opted_out").truthy) :
    channel ∈ eligibleChannels customer ↔ (channel = .sms ∧ (customer.get "phone").truthy) ∨
      (channel = .email ∧ (customer.get "email").truthy) ∨
      (channel = .whatsapp ∧ (customer.get "phone").truthy ∧ whatsappAllowed customer = true) := by
  unfold eligibleChannels
  rw [if_neg optedIn]
  simp only [List.mem_append, List.mem_ite_nil_right, List.mem_singleton, Bool.and_eq_true, or_assoc]
  exact or_congr and_comm (or_congr and_comm and_comm)

theorem eligible_channel_mapped {customer : Dict} (optedIn : ¬ (customer.get "opted_out").truthy)
    (eligible : channel ∈ eligibleChannels customer) :
    ∃ actionType, actionByChannel channel = .ok actionType := by
  rcases (mem_eligible_channels optedIn).mp eligible with ⟨rfl, _⟩ | ⟨rfl, _⟩ | ⟨rfl, _⟩
  · exact ⟨_, rfl⟩
  · exact ⟨_, rfl⟩
  · exact ⟨_, rfl⟩

/-- A nudge goes over the bandit's channel, and is stopped where no channel is eligible. -/
theorem select_channel_nudge (decision : DecisionInputs) {segment : String} (nudges : Nudges s)
    (optedIn : ¬ (s.caseData.customer.get "opted_out").truthy)
    (segmented : segmentCustomer s.caseData.customer = .ok segment) :
    ∃ selected, selectChannel decision s = .ok selected ∧
      ((eligibleChannels s.caseData.customer = [] ∧ selected.action = some .stop) ∨
        ∃ channel actionType,
          banditSelect (decision.expectations segment) (eligibleChannels s.caseData.customer) = .ok channel ∧
            actionByChannel channel = .ok actionType ∧ selected.action = some actionType) := by
  obtain ⟨_, nudge, acted⟩ := nudges
  obtain ⟨strategy, held, rfl⟩ := Option.map_eq_some_iff.mp acted
  cases eligible : eligibleChannels s.caseData.customer with
  | nil =>
    simp only [selectChannel, held, nudge, not_true_eq_false, ↓reduceIte, eligible]
    exact ⟨_, rfl, .inl ⟨trivial, rfl⟩⟩
  | cons first rest =>
    obtain ⟨channel, chosen⟩ : ∃ channel,
        banditSelect (decision.expectations segment) (first :: rest) = .ok channel := ⟨_, rfl⟩
    have reachable : channel ∈ eligibleChannels s.caseData.customer := eligible ▸ bandit_select_mem chosen
    obtain ⟨actionType, mapped⟩ := eligible_channel_mapped optedIn reachable
    simp only [selectChannel, held, nudge, not_true_eq_false, ↓reduceIte, eligible, segmented, chosen, mapped,
      ok_bind]
    exact ⟨_, rfl, .inr ⟨channel, actionType, rfl, mapped, rfl⟩⟩

/-- The channel node makes no nudge of another action. -/
theorem nudges_before_channel (ran : selectChannel decision s = .ok t) (nudges : Nudges t) : Nudges s := by
  cases select_channel_cases ran with
  | absent none =>
    obtain ⟨_, _, acted⟩ := nudges
    simp [RecoveryState.action, none] at acted
  | other => exact nudges
  | stopped held nudge => exact ⟨_, nudge, by rw [RecoveryState.action, held]; rfl⟩
  | nudged held nudge => exact ⟨_, nudge, by rw [RecoveryState.action, held]; rfl⟩

/-! ## The strategy agent -/

/-- The agent proposes no nudge for a business failure, whatever the language model answers. -/
theorem strategize_not_business {cfg : Settings} (ran : agentStrategize cfg decision s = .ok t)
    (nudges : Nudges t) : lower s.caseData.category ≠ "business" := by
  obtain ⟨strategy, decided, rfl⟩ := agent_strategize_ok.mp ran
  obtain ⟨actionType, nudge, acted⟩ := nudges
  cases Option.some.inj acted
  unfold strategyDecision at decided
  split at decided
  · rename_i overridden
    cases decided
    have apart : ∀ actionType ∈ nudgeActions, actionType ∉ [.defer, .stop, .escalateHuman] := by decide
    exact absurd (override_actions overridden) (apart _ nudge)
  · rename_i silent
    exact (override_none.mp silent).2.2.2

theorem handed_not_business (visited : Visits d decision clock finish init .selectChannel s)
    (nudges : Nudges s) :
    lower init.caseData.category ≠ "business" := by
  obtain ⟨t, _, strategized⟩ := visits_handed visited
  have kept : s.caseData = t.caseData := (agent_strategize_keeps strategized).1.caseData
  rw [← (visits_facts visited).caseData, kept]
  exact strategize_not_business strategized nudges

theorem proposed_not_business (ran : propose d decision init = .ok s) (nudges : Nudges s) :
    lower init.caseData.category ≠ "business" := by
  obtain ⟨enriched, arm, kept, _, _, _, ⟨_, rfl⟩ | ⟨_, diagnosed, strategized, ranDiagnose, ranStrategize,
    ranSelect⟩⟩ := propose_cases ran
  · obtain ⟨actionType, nudge, acted⟩ := nudges
    cases Option.some.inj acted
    exact absurd nudge (baseline_decide_no_nudge _)
  · rw [← kept.caseData, ← (agent_diagnose_keeps ranDiagnose).1.caseData]
    exact strategize_not_business ranStrategize (nudges_before_channel ranSelect nudges)

/-! ## Nudges and the addresses they go to -/

/-- The action is a nudge over the channel. -/
def NudgedOver (action : RecoveryAction) (channel : RecoveryChannel) : Prop :=
  action.actionType ∈ nudgeActions ∧ action.channel = some channel

/-- In the treatment arm no run of the case sends a nudge to an address that the payment did
not give, and a payment that gives none has every proposed nudge turned into `STOP`. -/
structure AddressesGiven (entity : Dict) (case : RecoveryCase) : Prop where
  executed : ∀ row d decision clock finish approval result action, intakePart row = intakePart case →
    assignExperimentArm d.md5 row.caseId d.settings.experimentVariantPct = .ok .treatment →
    (graphRun d decision clock finish row approval).2 = .ok result → action ∈ result.actions →
    (NudgedOver action .sms ∨ NudgedOver action .whatsapp → Given entity "contact") ∧
      (NudgedOver action .email → Given entity "email")
  stopped : ¬ Given entity "contact" → ¬ Given entity "email" →
    ∀ row d decision clock finish approval init s, intakePart row = intakePart case →
      buildState row approval = .ok init → Visits d decision clock finish init .selectChannel s → Nudges s →
      ∃ result, (graphRun d decision clock finish row approval).2 = .ok result ∧ result.action = some .stop

/-- The entity has both keys, so that no placeholder takes the place of an address. -/
def NamesAddresses (entity : Dict) : Prop :=
  (∃ value, entity.lookup "contact" = some value) ∧ ∃ value, entity.lookup "email" = some value

/-- The failure is one that no run nudges for. -/
def NeverNudged (entity : Dict) : Prop :=
  (∃ amount, (entity.getD "amount" (.int 0)).intField = .ok amount ∧ amount < 10000) ∨
    categoryOf entity = .ok .business

theorem nudged_address {customer : Dict} (ready : NudgeReady customer action.actionType action.channel) :
    (NudgedOver action .sms ∨ NudgedOver action .whatsapp → (customer.get "phone").truthy) ∧
      (NudgedOver action .email → (customer.get "email").truthy) := by
  obtain ⟨email, sms, whatsapp⟩ := ready
  unfold NudgedOver nudgeActions
  cases typed : action.actionType with
  | nudgeEmail => simp [email typed]
  | nudgeSms => simp [sms typed]
  | nudgeWhatsapp => simp [whatsapp typed]
  | _ => simp

theorem made_amount (made : MadeOf entity case) (small : ∃ amount,
    (entity.getD "amount" (.int 0)).intField = .ok amount ∧ amount < 10000) : case.amountPaise < 10000 := by
  obtain ⟨amount, read, small⟩ := small
  cases made.amount.symm.trans read
  exact small

theorem made_business (made : MadeOf entity case) :
    lower case.failureCategory = "business" ↔ categoryOf entity = .ok .business := by
  have stored := made.category
  cases classes : categoryOf entity with
  | error raised =>
    rw [classes] at stored
    cases stored
  | ok category =>
    rw [classes] at stored
    have same : category.value = case.failureCategory := Except.ok.inj stored
    rw [← same]
    cases category <;> decide

theorem never_nudged_executed (made : MadeOf entity row) (never : NeverNudged entity)
    (ran : (graphRun d decision clock finish row approval).2 = .ok result)
    (executed : action ∈ result.actions) :
    action.actionType ∉ nudgeActions := by
  intro nudge
  obtain ⟨⟨s, proposed, built, ranPropose, examined⟩, permitted⟩ := executed_permitted ran executed
  rcases never with small | business
  · have small := made_amount made small
    rcases permitted.amount with enough | escalate
    · omega
    · rw [escalate] at nudge
      exact absurd nudge (by decide)
  · apply proposed_not_business ranPropose ⟨_, nudge, examined⟩
    rw [(build_state_ok built).category]
    exact (made_business made).mpr business

theorem executed_given (made : MadeOf entity row) (kept : NamesAddresses entity ∨ NeverNudged entity)
    (ran : (graphRun d decision clock finish row approval).2 = .ok result)
    (executed : action ∈ result.actions) :
    (NudgedOver action .sms ∨ NudgedOver action .whatsapp → Given entity "contact") ∧
      (NudgedOver action .email → Given entity "email") := by
  rcases kept with ⟨⟨contact, named⟩, ⟨email, namedEmail⟩⟩ | never
  · obtain ⟨phoneReady, emailReady⟩ := nudged_address (executed_permitted ran executed).2.nudge
    refine ⟨fun nudged => ?_, fun nudged => ?_⟩
    · refine ((read_as_truthy made.phone (by decide)).mp (phoneReady nudged)).resolve_right ?_
      simp [named]
    · refine ((read_as_truthy made.email (by decide)).mp (emailReady nudged)).resolve_right ?_
      simp [namedEmail]
  · have other := never_nudged_executed made never ran executed
    exact ⟨fun nudged => absurd (nudged.elim (·.1) (·.1)) other, fun nudged => absurd nudged.1 other⟩

/-! ## A proposed nudge with nowhere to go -/

/-- A run that proposes `STOP`, or what the policies forbid, returns with `STOP`. -/
theorem run_stops {proposed : RecoveryState} (built : buildState case approval = .ok init)
    (ran : propose d decision init = .ok proposed)
    (stops : proposed.action = some .stop ∨ ¬ Allowed d.settings clock proposed) :
    ∃ result, (graphRun d decision clock finish case approval).2 = .ok result ∧ result.action = some .stop := by
  obtain ⟨stopped, unneeded⟩ : (policyCheckNode d.settings clock proposed).action = some .stop ∧
      (policyCheckNode d.settings clock proposed).needsApproval = false := by
    rcases policy_check_node_cases d.settings clock proposed with
      ⟨_, stopped, unneeded⟩ | ⟨allowed, _, needed⟩
    · exact ⟨stopped, unneeded⟩
    · have stop := stops.resolve_right fun blocked => blocked allowed
      refine ⟨(policy_check_allowed allowed).1.action_eq.trans stop, ?_⟩
      rw [needed, PolicyEngine.needsApproval, stop]
      simp
  have route : routePolicy (policyCheckNode d.settings clock proposed) = .stop :=
    route_stop.mpr ⟨unneeded, by rw [stopped]; rfl⟩
  rw [graph_run_eq built ran, finishGraph, route]
  exact ⟨_, rfl, stopped⟩

/-- What a state that is rebuilt from the case tells the channel node. -/
structure CustomerOf (entity customer : Dict) : Prop where
  phone : ReadAs entity "contact" "+910000000000" (customer.get "phone")
  email : ReadAs entity "email" "unknown@example.com" (customer.get "email")
  optedIn : ¬ (customer.get "opted_out").truthy
  segmented : ∃ segment, segmentCustomer customer = .ok segment

theorem customer_of (made : MadeOf entity case) : CustomerOf entity (case.customerData.erase contextKey) := by
  constructor
  case phone =>
    rw [get_stored (by decide)]
    exact made.phone
  case email =>
    rw [get_stored (by decide)]
    exact made.email
  case optedIn =>
    rw [get_stored (by decide), made.optedIn]
    exact Bool.false_ne_true
  case segmented =>
    unfold segmentCustomer
    rw [get_stored (by decide : "lifetime_value_paise" ≠ contextKey), made.lifetimeValue]
    exact ⟨_, rfl⟩

/-- A payment that gives no address leaves a proposed nudge no channel, or the policies forbid it. -/
theorem nudge_stopped (made : MadeOf entity row) (kept : NamesAddresses entity ∨ NeverNudged entity)
    (noContact : ¬ Given entity "contact") (noEmail : ¬ Given entity "email")
    (built : buildState row approval = .ok init)
    (visited : Visits d decision clock finish init .selectChannel s) (nudges : Nudges s) :
    ∃ result, (graphRun d decision clock finish row approval).2 = .ok result ∧ result.action = some .stop := by
  have stored := build_state_ok built
  have carried : s.caseData = init.caseData := (visits_facts visited).caseData
  have knows : CustomerOf entity s.caseData.customer := by
    rw [carried, stored.customer]
    exact customer_of made
  obtain ⟨segment, segmented⟩ := knows.segmented
  obtain ⟨selected, ran, outcome⟩ := select_channel_nudge decision nudges knows.optedIn segmented
  have proposed : propose d decision init = .ok selected := visits_policy_check.mp (.next visited ran rfl)
  apply run_stops built proposed
  rcases outcome with ⟨_, stopped⟩ | ⟨channel, actionType, chosen, mapped, acted⟩
  · exact .inl stopped
  · rcases kept with ⟨⟨contact, named⟩, ⟨email, namedEmail⟩⟩ | small | business
    · obtain ⟨needsEmail, needsPhone⟩ := eligible_channel_address (bandit_select_mem chosen)
      have phoneless : ¬ (s.caseData.customer.get "phone").truthy := by
        rw [read_as_truthy knows.phone (by decide)]
        simp [noContact, named]
      have mailless : ¬ (s.caseData.customer.get "email").truthy := by
        rw [read_as_truthy knows.email (by decide)]
        simp [noEmail, namedEmail]
      cases channel with
      | sms => exact absurd (needsPhone (.inl rfl)) phoneless
      | whatsapp => exact absurd (needsPhone (.inr rfl)) phoneless
      | email => exact absurd (needsEmail rfl) mailless
      | inApp => cases mapped
    · right
      intro allowed
      have few : selected.caseData.amountPaise < 10000 := by
        rw [(select_channel_ok ran).1.caseData, carried, stored.amount]
        exact made_amount made small
      have nudge := mapped_nudge mapped
      rcases allowed.amount few with stop | escalate
      · rw [Option.some.inj (acted.symm.trans stop)] at nudge
        exact absurd nudge (by decide)
      · rw [Option.some.inj (acted.symm.trans escalate)] at nudge
        exact absurd nudge (by decide)
    · refine absurd ?_ (handed_not_business visited nudges)
      rw [stored.category]
      exact (made_business made).mpr business

/-! ## A nudge to a placeholder -/

/-- Every case falls into the treatment arm, under the settings as they are by default. -/
def treatmentDeployment : Deployment := { md5 := fun _ => 0 }

/-- The language model wants a nudge, and the bandit one channel. -/
def nudgeDecision (channel : RecoveryChannel) : DecisionInputs :=
  { sampleDecision .closed "nudge_sms" with expectations := fun _ => favour channel }

/-- The middle of a day in Kolkata. -/
def noon : ℤ := 1788501600000000

/-- The operator has approved the case, for as long as its amount may need it. -/
def approvedRow (case : RecoveryCase) : RecoveryApproval :=
  { approvalId := "APR-000000000001"
    caseId := case.caseId
    paymentId := case.externalPaymentId
    amountPaise := case.amountPaise
    requestedAction := .nudgeSms
    agentRecommendation := ""
    status := .approved
    requestedAt := noon
    expiresAt := noon + Instant.seconds 7200
    approvedAt := some noon }

/-- The strategy agent hands on the nudge of the language model. -/
theorem nudge_handed (made : MadeOf entity case) (fresh : case.retryCount = 0)
    (notBusiness : lower case.failureCategory ≠ "business") (built : buildState case approval = .ok init)
    (channel : RecoveryChannel) :
    ∃ handed, Nudges handed ∧ handed.caseData = init.caseData ∧
      propose treatmentDeployment (nudgeDecision channel) init =
        selectChannel (nudgeDecision channel) handed := by
  have stored := build_state_ok built
  obtain ⟨triage, scored⟩ : ∃ triage, (nudgeDecision channel).score = .ok triage := ⟨_, rfl⟩
  obtain ⟨reply, diagnosis, answered, valid⟩ : ∃ reply diagnosis,
      (nudgeDecision channel).diagnosisReply = .ok reply ∧ DiagnosisResult.validate reply = .ok diagnosis :=
    ⟨_, _, rfl, rfl⟩
  obtain ⟨strategy, decided, nudge⟩ : ∃ strategy,
      llmDecision (nudgeDecision channel).strategyReply = .ok strategy ∧ strategy.actionType = .nudgeSms :=
    ⟨_, rfl, rfl⟩
  have optedIn : ¬ (init.caseData.customer.get "opted_out").truthy :=
    stored.customer ▸ (customer_of made).optedIn
  have unretried : init.caseData.retryCount < treatmentDeployment.settings.maxRetryAttempts := by
    rw [stored.retryCount, fresh]
    decide
  have closed : (healthSnapshot (nudgeDecision channel) init.caseData).state ≠ .open := by
    intro opened
    cases opened
  obtain ⟨handed, caseData, held, path⟩ := propose_decided scored (d := treatmentDeployment) rfl answered valid
    closed optedIn unretried (stored.category.symm ▸ notBusiness) decided
  refine ⟨handed, ⟨.nudgeSms, by decide, ?_⟩, caseData, path⟩
  rw [RecoveryState.action, held, ← nudge]
  rfl

theorem bandit_favoured {eligible : List RecoveryChannel} (listed : channel ∈ eligible) :
    banditSelect (favour channel) eligible = .ok channel := by
  cases eligible with
  | nil => cases listed
  | cons first rest => exact congrArg Except.ok (best_channel_favoured listed)

theorem nudge_permitted {actionType : ActionType} {chosen : Option RecoveryChannel} (made : MadeOf entity case)
    (fresh : intakePart case = case) (enough : 10000 ≤ case.amountPaise) (nudge : actionType ∈ nudgeActions)
    (ready : NudgeReady case.customerData actionType chosen) :
    Permitted treatmentDeployment.settings (sampleClock noon) case actionType chosen := by
  have count : case.retryCount = 0 := congrArg (·.retryCount) fresh.symm
  have unretried : case.lastRetryAt = none := congrArg (·.lastRetryAt) fresh.symm
  constructor
  case notStop =>
    rintro rfl
    exact absurd nudge (by decide)
  case optedIn =>
    rw [made.optedIn]
    exact Bool.false_ne_true
  case retries =>
    rw [count]
    decide
  case amount => exact .inl enough
  case cooldown =>
    intro _ lastRetry retried
    cases unretried.symm.trans retried
  case quiet =>
    intro _
    rw [← in_quiet_hours_iff]
    decide
  case nudge => exact ready

/-- A nudge for a new case of some amount goes over any channel that the channel node finds eligible. -/
theorem nudged_over_eligible (made : MadeOf entity case) (fresh : intakePart case = case)
    (enough : 10000 ≤ case.amountPaise) (notBusiness : lower case.failureCategory ≠ "business")
    (eligible : channel ∈ eligibleChannels (case.customerData.erase contextKey)) :
    ∃ result action, (graphRun treatmentDeployment (nudgeDecision channel) (sampleClock noon)
        (sampleFinish noon "action-1") case (some (approvedRow case))).2 = .ok result ∧
      action ∈ result.actions ∧ NudgedOver action channel := by
  obtain ⟨init, built⟩ : ∃ init, buildState case (some (approvedRow case)) = .ok init :=
    build_state_returns_iff.mpr made.context
  obtain ⟨handed, nudges, caseData, path⟩ :=
    nudge_handed made (congrArg (·.retryCount) fresh.symm) notBusiness built channel
  have customer : handed.caseData.customer = case.customerData.erase contextKey := by
    rw [caseData]
    exact (build_state_ok built).customer
  have knows : CustomerOf entity handed.caseData.customer := customer ▸ customer_of made
  obtain ⟨segment, segmented⟩ := knows.segmented
  obtain ⟨proposed, ran, outcome⟩ :=
    select_channel_nudge (nudgeDecision channel) nudges knows.optedIn segmented
  have drawn : banditSelect ((nudgeDecision channel).expectations segment)
      (eligibleChannels handed.caseData.customer) = .ok channel := customer ▸ bandit_favoured eligible
  obtain ⟨actionType, mapped, acted⟩ : ∃ actionType, actionByChannel channel = .ok actionType ∧
      proposed.action = some actionType := by
    rcases outcome with ⟨nowhere, _⟩ | ⟨other, actionType, chosen, mapped, acted⟩
    · rw [nowhere] at drawn
      cases drawn
    · cases drawn.symm.trans chosen
      exact ⟨actionType, mapped, acted⟩
  have ranPropose : propose treatmentDeployment (nudgeDecision channel) init = .ok proposed := path.trans ran
  have rebuilt := rebuilt_from built ranPropose
  have nudge := mapped_nudge mapped
  have ready := nudge_ready_proposed rebuilt (propose_ok ranPropose).2.2 acted
  have permitted := nudge_permitted made fresh enough nudge ready
  have passed :
      Passed treatmentDeployment (sampleClock noon) (sampleFinish noon "action-1") proposed actionType := by
    refine (passed_iff_permitted rebuilt acted permitted.notStop ready).mpr ⟨permitted, fun now asked => .inr ?_⟩
    have atNoon : now = noon := by simpa [sampleClock, sampleFinish] using asked
    have unexpired : noon < noon + Instant.seconds 7200 := by decide
    exact ⟨approvedRow case, rfl, rfl, atNoon ▸ unexpired⟩
  obtain ⟨output, executed⟩ : ∃ output, execute noon (sampleFinish noon "action-1").execution.link actionType
      proposed.strategy (executionChannel proposed) = .ok output := by
    cases channel <;> cases mapped <;> exact ⟨_, rfl⟩
  obtain ⟨result, action, finished, actions, typed, acts⟩ := finish_executes passed executed
  refine ⟨result, action, by rw [graph_run_eq built ranPropose, finished], ?_, typed ▸ nudge, ?_⟩
  · rw [actions]
    exact List.mem_append_right _ (List.mem_singleton_self _)
  · obtain ⟨email, sms, whatsapp⟩ := nudge_ready_executed acts (typed ▸ ready)
    cases channel <;> cases mapped
    · exact (sms typed).1
    · exact (email typed).1
    · exact (whatsapp typed).1

/-! ## The addresses of a case -/

theorem kept_of_addresses_given (made : MadeOf entity case) (fresh : intakePart case = case)
    (given : AddressesGiven entity case) : NamesAddresses entity ∨ NeverNudged entity := by
  by_contra lost
  rw [not_or, NeverNudged, not_or] at lost
  obtain ⟨unnamed, large, notBusiness⟩ := lost
  have enough : 10000 ≤ case.amountPaise := by
    by_contra small
    exact large ⟨_, made.amount, not_le.mp small⟩
  have notBusiness : lower case.failureCategory ≠ "business" :=
    fun business => notBusiness ((made_business made).mp business)
  have knows := customer_of made
  by_cases contact : entity.lookup "contact" = none
  · have phone := (read_as_truthy knows.phone (by decide)).mpr (.inr contact)
    obtain ⟨result, action, ran, executed, nudged⟩ := nudged_over_eligible made fresh enough notBusiness
      ((mem_eligible_channels knows.optedIn).mpr (.inl ⟨rfl, phone⟩))
    obtain ⟨text, listed, _⟩ :=
      (given.executed case _ _ _ _ _ result action rfl rfl ran executed).1 (.inl nudged)
    cases contact.symm.trans listed
  · have email : entity.lookup "email" = none := by
      by_contra email
      exact unnamed ⟨Option.ne_none_iff_exists'.mp contact, Option.ne_none_iff_exists'.mp email⟩
    have address := (read_as_truthy knows.email (by decide)).mpr (.inr email)
    obtain ⟨result, action, ran, executed, nudged⟩ := nudged_over_eligible made fresh enough notBusiness
      ((mem_eligible_channels knows.optedIn).mpr (.inr (.inl ⟨rfl, address⟩)))
    obtain ⟨text, listed, _⟩ := (given.executed case _ _ _ _ _ result action rfl rfl ran executed).2 nudged
    cases email.symm.trans listed

/-- Every nudge goes to an address that the payment gave, and a payment that gives none has
every nudge stopped, if and only if the payment entity has both keys, or no run nudges for it. -/
theorem addresses_given_iff (read : EntityOf rawEvent entity)
    (added : webhookRows kind transaction caseHex customerHex now eventId rawEvent = .ok (record, some case)) :
    AddressesGiven entity case ↔ NamesAddresses entity ∨ NeverNudged entity := by
  have made := made_of_entity read added
  have fresh : intakePart case = case := webhook_rows_intake added case rfl
  constructor
  · exact kept_of_addresses_given made fresh
  · intro kept
    constructor
    case executed =>
      intro row d decision clock finish approval result action same _ ran executed
      exact executed_given (made_of_later made same) kept ran executed
    case stopped =>
      intro noContact noEmail row d decision clock finish approval init s same built visited nudges
      exact nudge_stopped (made_of_later made same) kept noContact noEmail built visited nudges

/-- A payment whose contact is empty and whose e-mail is given. -/
def emptyContact : Dict :=
  [("id", .str "pay_1"), ("amount", .int 250000), ("error_source", .str "customer"), ("contact", .str ""),
   ("email", .str "payer@example.com")]

theorem addresses_given_iff_empty_contact : ∃ record case,
    webhookRows .sqlite 0 "00000007" "A1B2C3" 0 "evt_1" (failedPayment emptyContact) = .ok (record, some case) ∧
      AddressesGiven emptyContact case := by
  obtain ⟨record, case, added⟩ : ∃ record case, webhookRows .sqlite 0 "00000007" "A1B2C3" 0 "evt_1"
      (failedPayment emptyContact) = .ok (record, some case) := ⟨_, _, rfl⟩
  exact ⟨record, case, added, (addresses_given_iff ⟨_, rfl, rfl⟩ added).mpr (.inl ⟨⟨_, rfl⟩, ⟨_, rfl⟩⟩)⟩

/-- A payment by a card on file, without a contact and without an e-mail. -/
def noAddress : Dict := [("id", .str "pay_2"), ("amount", .int 250000), ("error_source", .str "customer")]

/-- An SMS goes to the placeholder. -/
theorem placeholder_nudged : ∃ record case,
    webhookRows .sqlite 0 "00000007" "A1B2C3" 0 "evt_2" (failedPayment noAddress) = .ok (record, some case) ∧
      (¬ Given noAddress "contact") ∧ (¬ Given noAddress "email") ∧
      case.customerData.get "phone" = .str "+910000000000" ∧
      (∃ result action, (graphRun treatmentDeployment (nudgeDecision .sms) (sampleClock noon)
          (sampleFinish noon "action-1") case none).2 = .ok result ∧
        action ∈ result.actions ∧ action.actionType = .nudgeSms ∧ action.channel = some .sms) ∧
      ¬ AddressesGiven noAddress case := by
  obtain ⟨record, case, added, phone, result, action, ran, executed, typed, overSms⟩ : ∃ record case,
      webhookRows .sqlite 0 "00000007" "A1B2C3" 0 "evt_2" (failedPayment noAddress) = .ok (record, some case) ∧
        case.customerData.get "phone" = .str "+910000000000" ∧
        ∃ result action, (graphRun treatmentDeployment (nudgeDecision .sms) (sampleClock noon)
            (sampleFinish noon "action-1") case none).2 = .ok result ∧
          action ∈ result.actions ∧ action.actionType = .nudgeSms ∧ action.channel = some .sms :=
    ⟨_, _, rfl, rfl, _, _, rfl, List.mem_singleton_self _, rfl, rfl⟩
  have noContact : ¬ Given noAddress "contact" := by
    rintro ⟨text, listed, _⟩
    cases listed
  have noEmail : ¬ Given noAddress "email" := by
    rintro ⟨text, listed, _⟩
    cases listed
  refine ⟨record, case, added, noContact, noEmail, phone, ⟨result, action, ran, executed, typed, overSms⟩, ?_⟩
  intro given
  have nudged : NudgedOver action .sms := ⟨by rw [typed]; decide, overSms⟩
  exact noContact ((given.executed case _ _ _ _ _ result action rfl rfl ran executed).1 (.inl nudged))

end RevenueGuard.AddressProofs
