import RevenueGuard.Nodes
import RevenueGuard.Library.Raises

/-!
The strategy reply, field by field, and what becomes of a field that it sends as
null.  Null stands for a missing field everywhere but in two places: the text of
a null action names no action, and the reasoning takes strings only.
-/

namespace RevenueGuard.StrategyProofs

open Library Library.Raises

variable {intField : Json → Except String ℤ} {p : Dict} {f key : String} {decision : StrategyDecision}

/-! ## What a reply is read as -/

/-- The text in which a reply names its action. -/
def actionText (p : Dict) : String := lower (p.getD "action_type" (.str "stop")).pyStr

/-- The delay of a reply before it is cut at zero. -/
def replyDelay (p : Dict) : Except String ℤ := ((p.get "retry_delay_seconds").orElse (.int 0)).pyInt

theorem action_of_value (text : String) (action : ActionType) :
    ActionType.ofValue text = .ok action ↔ text = action.value := by
  constructor
  · intro named
    unfold ActionType.ofValue at named
    split at named <;> cases named <;> rfl
  · rintro rfl
    cases action <;> rfl

theorem with_default_congr {α : Type} {q : Dict} (same : q.lookup key = p.lookup key)
    (field : Json → Except String α) (default : α) :
    q.withDefault key field default = p.withDefault key field default := by
  rw [Dict.withDefault, same, Dict.withDefault]

/-- The probability that a reply may hold is dropped before anything is read. -/
theorem llm_decision_eq (p : Dict) :
    readDecision intField (.ok p) = (do
      let delay ← replyDelay p
      StrategyDecision.validate intField (actionText p) (max 0 delay) p) := by
  have kept (key : String) (apart : key ≠ "recovery_probability") :
      (p.erase "recovery_probability").lookup key = p.lookup key := Dict.lookup_erase apart
  have text : (p.erase "recovery_probability").getD "action_type" (.str "stop") =
      p.getD "action_type" (.str "stop") := by
    rw [Dict.getD, kept "action_type" (by decide), Dict.getD]
  have delay : (p.erase "recovery_probability").get "retry_delay_seconds" = p.get "retry_delay_seconds" :=
    Dict.get_erase (by decide)
  have fields (action : String) (seconds : ℤ) :
      StrategyDecision.validate intField action seconds (p.erase "recovery_probability") =
        StrategyDecision.validate intField action seconds p := by
    simp only [StrategyDecision.validate, with_default_congr (kept "channel" (by decide)),
      with_default_congr (kept "reasoning" (by decide)), with_default_congr (kept "message_content" (by decide)),
      with_default_congr (kept "payment_link_amount_paise" (by decide)),
      with_default_congr (kept "escalation_reason" (by decide)),
      with_default_congr (kept "stopping_reason" (by decide))]
  simp only [readDecision, normalizeStrategyPayload, ok_bind, bind_assoc, pure_bind, text, delay, fields]
  rfl

/-- What a decision that is accepted says about the reply. -/
theorem llm_decision_sound (accepted : readDecision intField (.ok p) = .ok decision) :
    actionText p = decision.actionType.value ∧ 0 ≤ decision.retryDelaySeconds := by
  rw [llm_decision_eq] at accepted
  obtain ⟨delay, _, accepted⟩ := bind_ok.mp accepted
  obtain ⟨action, named, accepted⟩ := bind_ok.mp accepted
  simp only [bind_ok, pure_ok] at accepted
  obtain ⟨_, _, _, _, _, _, _, _, _, _, _, _, rfl⟩ := accepted
  exact ⟨(action_of_value _ _).mp named, le_max_left 0 delay⟩

/-! ## Replies that are accepted -/

/-- A field of the reply holds nothing that its type refuses. -/
def Takes {α : Type} (field : Json → Except String α) (p : Dict) (key : String) : Prop :=
  ∀ value, p.lookup key = some value → ∃ a, field value = .ok a

/-- Every field of the reply is one that `StrategyDecision` takes, where `intField`
is what an `int` field takes. -/
structure Accepted (intField : Json → Except String ℤ) (p : Dict) : Prop where
  action : ∃ action : ActionType, actionText p = action.value
  delay : ∃ delay, replyDelay p = .ok delay
  channel : Takes (Json.optionalField (enumField RecoveryChannel.ofValue)) p "channel"
  reasoning : Takes Json.strField p "reasoning"
  messageContent : Takes (Json.optionalField Json.strField) p "message_content"
  paymentLinkAmountPaise : Takes (Json.optionalField intField) p "payment_link_amount_paise"
  escalationReason : Takes (Json.optionalField Json.strField) p "escalation_reason"
  stoppingReason : Takes (Json.optionalField Json.strField) p "stopping_reason"

theorem with_default_returns {α : Type} {field : Json → Except String α} {default : α} :
    (∃ a, p.withDefault key field default = .ok a) ↔ Takes field p key := by
  unfold Dict.withDefault Takes
  cases p.lookup key with
  | none => simp
  | some value => simp

theorem accepted_iff : (∃ decision, readDecision intField (.ok p) = .ok decision) ↔ Accepted intField p := by
  rw [llm_decision_eq]
  simp only [StrategyDecision.validate, bind_ok, pure_ok, action_of_value]
  constructor
  · rintro ⟨_, _, delay, action, named, _, channel, _, reasoning, _, message, _, amount, _, escalation, _,
      stopping, _⟩
    exact
      { action := ⟨action, named⟩
        delay := ⟨_, delay⟩
        channel := with_default_returns.mp ⟨_, channel⟩
        reasoning := with_default_returns.mp ⟨_, reasoning⟩
        messageContent := with_default_returns.mp ⟨_, message⟩
        paymentLinkAmountPaise := with_default_returns.mp ⟨_, amount⟩
        escalationReason := with_default_returns.mp ⟨_, escalation⟩
        stoppingReason := with_default_returns.mp ⟨_, stopping⟩ }
  · intro accepted
    obtain ⟨action, named⟩ := accepted.action
    obtain ⟨delay, read⟩ := accepted.delay
    obtain ⟨_, channel⟩ := with_default_returns.mpr accepted.channel
    obtain ⟨_, reasoning⟩ := with_default_returns.mpr accepted.reasoning
    obtain ⟨_, message⟩ := with_default_returns.mpr accepted.messageContent
    obtain ⟨_, amount⟩ := with_default_returns.mpr accepted.paymentLinkAmountPaise
    obtain ⟨_, escalation⟩ := with_default_returns.mpr accepted.escalationReason
    obtain ⟨_, stopping⟩ := with_default_returns.mpr accepted.stoppingReason
    exact ⟨_, delay, read, action, named, _, channel, _, reasoning, _, message, _, amount, _, escalation, _, stopping,
      rfl⟩

/-! ## A field that is null -/

/-- The reply with a field that it lacks added as null. -/
def withNull (p : Dict) (f : String) : Dict := p ++ [(f, .null)]

theorem lookup_with_null (absent : p.lookup f = none) (key : String) :
    (withNull p f).lookup key = if key = f then some .null else p.lookup key := by
  rw [withNull, List.lookup_append, List.lookup_cons, List.lookup_nil]
  by_cases same : key = f
  · subst same
    rw [absent, if_pos rfl, beq_self_eq_true]
    rfl
  · rw [if_neg same, beq_false_of_ne same]
    exact Option.or_none

theorem get_with_null (absent : p.lookup f = none) (key : String) : (withNull p f).get key = p.get key := by
  rw [Dict.get, lookup_with_null absent, Dict.get]
  split
  · rename_i same
    rw [same, absent]
    rfl
  · rfl

/-- A field that may be null is none either way. -/
theorem optional_with_null {α : Type} (absent : p.lookup f = none) (field : Json → Except String α)
    (key : String) :
    (withNull p f).withDefault key (Json.optionalField field) none =
      p.withDefault key (Json.optionalField field) none := by
  by_cases same : key = f
  · rw [Dict.withDefault, lookup_with_null absent, if_pos same, Dict.withDefault, same, absent]
    rfl
  · exact with_default_congr (by rw [lookup_with_null absent, if_neg same]) _ _

/-- Null stands for a missing field where the field is neither the action nor the
reasoning. -/
theorem llm_decision_with_null (absent : p.lookup f = none) (action : f ≠ "action_type")
    (reasoning : f ≠ "reasoning") :
    readDecision intField (.ok (withNull p f)) = readDecision intField (.ok p) := by
  have text : actionText (withNull p f) = actionText p := by
    rw [actionText, Dict.getD, lookup_with_null absent, if_neg action.symm, actionText, Dict.getD]
  have delay : replyDelay (withNull p f) = replyDelay p := by
    rw [replyDelay, get_with_null absent, replyDelay]
  have reason : (withNull p f).lookup "reasoning" = p.lookup "reasoning" := by
    rw [lookup_with_null absent, if_neg reasoning.symm]
  simp only [llm_decision_eq, StrategyDecision.validate, text, delay, optional_with_null absent,
    with_default_congr reason]

/-- `str(None)` names no action. -/
theorem null_action_refused (absent : p.lookup "action_type" = none) :
    ¬ Accepted intField (withNull p "action_type") := by
  intro accepted
  obtain ⟨action, named⟩ := accepted.action
  rw [actionText, Dict.getD, lookup_with_null absent, if_pos rfl] at named
  revert named
  cases action <;> decide

theorem null_reasoning_refused (absent : p.lookup "reasoning" = none) :
    ¬ Accepted intField (withNull p "reasoning") := by
  intro accepted
  obtain ⟨reasoning, taken⟩ := accepted.reasoning .null (by rw [lookup_with_null absent, if_pos rfl])
  cases taken

/-- Null under a field that a reply lacks has the outcome of no such field, and
what is accepted either way names an action and waits no negative time. -/
structure NullIsMissing (intField : Json → Except String ℤ) (p : Dict) (f : String) : Prop where
  same : (readDecision intField (.ok (withNull p f))).toOption = (readDecision intField (.ok p)).toOption
  sound : ∀ reply ∈ [p, withNull p f], ∀ decision, readDecision intField (.ok reply) = .ok decision →
    actionText reply = decision.actionType.value ∧ 0 ≤ decision.retryDelaySeconds

theorem refused_iff : ¬ Accepted intField p ↔ (readDecision intField (.ok p)).toOption = none := by
  rw [← accepted_iff]
  cases readDecision intField (.ok p) with
  | error e => simp [Except.toOption]
  | ok decision => simp [Except.toOption]

/-- Null stands for a missing field exactly if the field is neither the action nor
the reasoning, or the reply is refused for another of its fields anyway.  It does not
matter which numbers an `int` field takes. -/
theorem null_is_missing_iff (absent : p.lookup f = none) :
    NullIsMissing intField p f ↔ (f ∉ ["action_type", "reasoning"] ∨ ¬ Accepted intField p) := by
  have sound : ∀ reply ∈ [p, withNull p f], ∀ decision, readDecision intField (.ok reply) = .ok decision →
      actionText reply = decision.actionType.value ∧ 0 ≤ decision.retryDelaySeconds :=
    fun _ _ _ accepted => llm_decision_sound accepted
  have lawful : NullIsMissing intField p f ↔
      (readDecision intField (.ok (withNull p f))).toOption = (readDecision intField (.ok p)).toOption :=
    ⟨NullIsMissing.same, fun same => ⟨same, sound⟩⟩
  rw [lawful, refused_iff]
  by_cases special : f ∈ ["action_type", "reasoning"]
  · have refused : (readDecision intField (.ok (withNull p f))).toOption = none := by
      rw [← refused_iff]
      simp only [List.mem_cons, List.not_mem_nil, or_false] at special
      rcases special with rfl | rfl
      · exact null_action_refused absent
      · exact null_reasoning_refused absent
    rw [refused]
    simp only [special, not_true, false_or, eq_comm]
  · have apart : f ≠ "action_type" ∧ f ≠ "reasoning" := by
      simpa only [List.mem_cons, List.not_mem_nil, or_false, not_or] using special
    rw [llm_decision_with_null absent apart.1 apart.2]
    simp only [special, not_false_eq_true, true_or]

theorem null_is_missing_iff_delay :
    NullIsMissing Json.intField [("action_type", .str "SMART_RETRY")] "retry_delay_seconds" :=
  (null_is_missing_iff rfl).mpr (Or.inl (by decide))

/-- A retry that gives no reason is accepted, and refused if its reason is null. -/
theorem null_reasoning_not_missing :
    ([("action_type", .str "SMART_RETRY")] : Dict).lookup "reasoning" = none ∧
      ¬ NullIsMissing Json.intField [("action_type", .str "SMART_RETRY")] "reasoning" := by
  refine ⟨rfl, fun lawful => ?_⟩
  cases lawful.same

end RevenueGuard.StrategyProofs
