import RevenueGuard.ChannelBandit
import RevenueGuard.GraphProofs
import RevenueGuard.Library.Separators

/-!
The bandits of the segments.  A segment is told by its text, so that a bandit learns from the
customers of one language, one value and one eligibility alone.  The channel node asks it for the best
of the channels that the customer can be reached over, and nothing tells it what came of that.
-/

namespace RevenueGuard.BanditProofs

open Library Library.Raises Library.Separators ChannelBandit GraphProofs

variable {M : Type} {mab : Mab M} {bandit : Option M} {customer : Dict} {channel : String}

/-! ## Segments -/

/-- What `segment_customer` tells customers apart by. -/
structure Segment where
  language : String
  highValue : Bool
  whatsapp : Bool
  deriving DecidableEq

/-- The name of a segment. -/
def Segment.text (segment : Segment) : String :=
  segment.language ++ "_" ++ (if segment.highValue then "high" else "low") ++ "_" ++
    (if segment.whatsapp then "wa" else "nowa")

def segmentOf (customer : Dict) : Except String Segment := do
  let language := lower (strip (customer.getD "preferred_language" (.str "en")).pyStr)
  let lifetimeValue ← ((customer.get "lifetime_value_paise").orElse (.int 0)).pyInt
  let eligible := match customer.get "whatsapp_eligible" with
    | .null => (customer.get "phone").truthy
    | value => value.truthy
  return {
    language := if language = "" then "en" else language
    highValue := lifetimeValue ≥ 1000000
    whatsapp := eligible && !(customer.get "opted_out").truthy }

theorem segment_customer_eq (customer : Dict) :
    segmentCustomer customer = (segmentOf customer).map Segment.text := by
  unfold segmentCustomer segmentOf
  cases ((customer.get "lifetime_value_paise").orElse (.int 0)).pyInt with
  | error exc => rfl
  | ok lifetimeValue =>
    simp only [ok_bind]
    by_cases high : lifetimeValue ≥ 1000000 <;> cases customer.get "whatsapp_eligible" <;>
      simp [Except.map, pure, Except.pure, Segment.text, high]

/-- The name of a segment tells what it is, whatever the language is called. -/
theorem segment_text_inj : Function.Injective Segment.text := by
  intro x y same
  have values : ∀ high : Bool, '_' ∉ (if high then "high" else "low").toList := by decide
  have channels : ∀ whatsapp : Bool, '_' ∉ (if whatsapp then "wa" else "nowa").toList := by decide
  have listed : (x.language.toList ++ '_' :: (if x.highValue then "high" else "low").toList) ++
        '_' :: (if x.whatsapp then "wa" else "nowa").toList =
      (y.language.toList ++ '_' :: (if y.highValue then "high" else "low").toList) ++
        '_' :: (if y.whatsapp then "wa" else "nowa").toList := by
    simpa [Segment.text] using congrArg String.toList same
  obtain ⟨front, channel⟩ := append_separator_inj (channels _) (channels _) listed
  obtain ⟨language, value⟩ := append_separator_inj (values _) (values _) front
  have valued : ∀ a b : Bool, (if a then "high" else "low").toList = (if b then "high" else "low").toList →
      a = b := by decide
  have reached : ∀ a b : Bool, (if a then "wa" else "nowa").toList = (if b then "wa" else "nowa").toList →
      a = b := by decide
  cases x
  cases y
  cases String.toList_injective language
  cases valued _ _ value
  cases reached _ _ channel
  rfl

/-! ## Calls -/

theorem eligible_of_ok {eligibleChannels : Option (List String)} {eligible : List String}
    (checked : eligibleOf eligibleChannels = .ok eligible) : eligible ≠ [] ∧ ∀ channel, channel ∈ eligible ↔
      channel ∈ eligibleChannels.getD arms := by
  cases eligibleChannels with
  | none =>
    cases checked
    exact ⟨by decide, fun _ => Iff.rfl⟩
  | some channels =>
    unfold eligibleOf at checked
    dsimp only at checked
    split at checked
    · cases checked
    split at checked
    · cases checked
    · cases checked
      exact ⟨‹_›, fun channel => List.mem_eraseDups⟩

/-- What is known of a channel that was chosen for a segment. -/
structure Chosen (mab : Mab M) (bandit : Option M) (eligibleChannels : Option (List String))
    (channel : String) :
    Prop where
  eligible : channel ∈ eligibleChannels.getD arms
  best : ∀ other ∈ eligibleChannels.getD arms,
    (mab.predictExpectations (getOrCreateBandit mab bandit)).1 other ≤
      (mab.predictExpectations (getOrCreateBandit mab bandit)).1 channel

theorem select_chosen {eligibleChannels : Option (List String)} {answer : Option String}
    (returned : (banditCall mab bandit (.select eligibleChannels)).1 = .ok answer) :
    ∃ channel, answer = some channel ∧ Chosen mab bandit eligibleChannels channel := by
  obtain ⟨eligible, checked, rest⟩ := bind_ok.mp returned
  obtain ⟨channel, chosen, same⟩ := bind_pure_ok.mp rest
  obtain ⟨nonempty, listed⟩ := eligible_of_ok checked
  obtain ⟨best, there, chosen', largest⟩ :=
    Maximum.max_by_ok (mab.predictExpectations (getOrCreateBandit mab bandit)).1 nonempty
  cases Except.ok.inj (chosen.symm.trans chosen')
  exact ⟨_, same, (listed _).mp there, fun other given => largest other ((listed other).mpr given)⟩

/-! ## Runs -/

/-- The calls for some customers: without a segment there is no call. -/
def named (calls : List (Dict × BanditCall)) : List (String × BanditCall) :=
  calls.filterMap fun made => (segmentCustomer made.1).toOption.map fun text => (text, made.2)

/-- The calls for the customers of one segment. -/
def own (segment : Segment) (calls : List (Dict × BanditCall)) : List BanditCall :=
  (calls.filter fun made => (segmentOf made.1).toOption = some segment).map (·.2)

theorem segment_named (customer : Dict) :
    (segmentCustomer customer).toOption = (segmentOf customer).toOption.map Segment.text := by
  rw [segment_customer_eq]
  cases segmentOf customer <;> rfl

theorem under_named (segment : Segment) (calls : List (Dict × BanditCall)) :
    Families.under segment.text (named calls) = own segment calls := by
  induction calls with
  | nil => rfl
  | cons made calls ih =>
    unfold named own at ih ⊢
    rw [List.filterMap_cons, List.filter_cons, segment_named]
    cases (segmentOf made.1).toOption with
    | none => simpa using ih
    | some other =>
      by_cases same : other = segment
      · subst same
        rw [Option.map_some, Option.map_some, if_pos (by simp), List.map_cons, ← ih, Families.under_cons_same]
      · have apart : other.text ≠ segment.text := fun texts => same (segment_text_inj texts)
        rw [Option.map_some, Option.map_some, if_neg (by simp [same]), ← ih]
        exact Families.under_cons_other apart _

/-- A segment has the answers and the bandit that it would have if no other customer ever came. -/
theorem segments_apart (mab : Mab M) (calls : List (Dict × BanditCall)) (segment : Segment) :
    (Families.under segment.text (banditCalls mab (named calls)).1,
        (banditCalls mab (named calls)).2 segment.text) =
      Families.run (banditCall mab) none (own segment calls) := by
  rw [banditCalls, Families.run_all_apart, under_named]

/-! ## The channel node -/

section Node

variable {inputs : DecisionInputs} {s s' : RecoveryState} {strategy : StrategyDecision}
  {expectation : RecoveryChannel → ℚ} {expectations : String → ℚ} {bandits : String → Option M}

/-- The largest of some channels is the largest of their names. -/
theorem best_channel_named (told : ∀ channel, expectations channel.value = expectation channel)
    (best : RecoveryChannel) (rest : List RecoveryChannel) :
    (best.value :: rest.map (·.value)).argmax expectations = some
    (bestChannel expectation best rest).value := by
  induction rest generalizing best with
  | nil => rfl
  | cons channel rest ih =>
    rw [bestChannel, ← ih, List.map_cons, List.argmax_cons, List.argmax_cons]
    rw [List.argmax_cons expectations (if expectation best < expectation channel then channel else best).value]
    by_cases larger : expectation best < expectation channel
    · cases (rest.map (·.value)).argmax expectations with
      | none => simp [told, larger]
      | some later =>
        by_cases more : expectation channel < expectations later
        · simp [told, larger, more, larger.trans more]
        · simp [told, larger, more]
    · cases (rest.map (·.value)).argmax expectations with
      | none => simp [told, larger]
      | some later =>
        by_cases more : expectation channel < expectations later
        · simp [told, larger, more]
        · have fewer : ¬ expectation best < expectations later := fun less =>
            larger (less.trans_le (not_lt.mp more))
          simp [told, larger, more, fewer]

theorem eligible_of_channels (customer : Dict) (reachable : eligibleChannels customer ≠ []) :
    eligibleOf (some ((eligibleChannels customer).map (·.value))) =
      .ok ((eligibleChannels customer).map (·.value)) := by
  unfold eligibleChannels at reachable ⊢
  by_cases contact : (customer.get "opted_out").truthy = true <;>
    by_cases phone : (customer.get "phone").truthy = true <;>
    by_cases email : (customer.get "email").truthy = true <;>
    by_cases whatsapp : whatsappAllowed customer = true <;>
    simp only [contact, phone, email, whatsapp] at reachable ⊢ <;> first | exact absurd rfl reachable | rfl

/-- What the bandits draw when they are asked next. -/
def drawn (mab : Mab M) (bandits : String → Option M) (segment : String) (channel : RecoveryChannel) : ℚ :=
  (mab.predictExpectations (getOrCreateBandit mab (bandits segment))).1 channel.value

/-- A bandit after it was asked. -/
def draw (mab : Mab M) (bandit : Option M) : Option M :=
  some (mab.predictExpectations (getOrCreateBandit mab bandit)).2

/-- The node asks the bandit of a segment for a nudge to a customer of it who can be reached. -/
def asks (segment : String) (s : RecoveryState) : Bool :=
  s.strategy.any (fun strategy => strategy.actionType ∈ nudgeActions) &&
    eligibleChannels s.caseData.customer ≠ [] && (segmentCustomer s.caseData.customer).toOption = some segment

theorem bandit_answers (mab : Mab M) {first : RecoveryChannel} {rest : List RecoveryChannel}
    (reachable : eligibleChannels customer = first :: rest) (bandits : String → Option M) (segment : String) :
    (banditCall mab (bandits segment) (.select (some ((first :: rest).map (·.value))))).1 =
      .ok (some (bestChannel (drawn mab bandits segment) first rest).value) := by
  have listed := eligible_of_channels customer (by rw [reachable]; exact List.cons_ne_nil _ _)
  rw [reachable] at listed
  have best := best_channel_named (fun channel => (rfl : _ = drawn mab bandits segment channel)) first rest
  exact bind_ok.mpr ⟨_, listed, bind_pure_ok.mpr ⟨_, by rw [List.map_cons, Maximum.maxBy, best], rfl⟩⟩

theorem channel_of_value (channel : RecoveryChannel) : RecoveryChannel.ofValue channel.value = .ok channel := by
  cases channel <;> rfl

/-- The node does with its bandits what it does in the graph with what they draw. -/
theorem channel_node_eq (mab : Mab M) (bandits : String → Option M) (s : RecoveryState) :
    (∀ inputs : DecisionInputs, (channelNode mab bandits s).1 =
        selectChannel { inputs with expectations := drawn mab bandits } s) ∧
      ∀ segment, (channelNode mab bandits s).2 segment =
        if asks segment s then draw mab (bandits segment) else bandits segment := by
  unfold channelNode selectChannel asks
  cases s.strategy with
  | none => exact ⟨fun _ => rfl, fun _ => rfl⟩
  | some strategy =>
    dsimp only
    by_cases other : strategy.actionType ∉ nudgeActions
    · simp [other]
    cases reachable : eligibleChannels s.caseData.customer with
    | nil => simp [other]
    | cons first rest =>
      cases segmented : segmentCustomer s.caseData.customer with
      | error exc => simp [other, Except.toOption, bind, Except.bind]
      | ok segment =>
        have answer := bandit_answers mab reachable bandits segment
        constructor
        · intro inputs
          simp only [if_neg other, Families.call, answer, ok_bind, Option.getD_some, channel_of_value,
            banditSelect]
        · intro asked
          by_cases same : asked = segment
          · subst same
            simp [not_not.mp other, Families.call, banditCall, draw, Except.toOption]
          · simp [other, Families.call, Except.toOption, same, Ne.symm same]

/-- The bandits of a process after some cases came through its node. -/
def banditsAfter (mab : Mab M) (cases : List RecoveryState) : String → Option M :=
  (Families.run (channelNode mab) (fun _ => none) cases).2

theorem run_draws (mab : Mab M) (cases : List RecoveryState) (bandits : String → Option M) (segment : String) :
    (Families.run (channelNode mab) bandits cases).2 segment =
      (draw mab)^[cases.countP (asks segment)] (bandits segment) := by
  induction cases generalizing bandits with
  | nil => rfl
  | cons s cases ih =>
    rw [Families.run, ih, (channel_node_eq mab bandits s).2, List.countP_cons]
    split
    · rw [Function.iterate_succ_apply]
    · rfl

/-- What the node makes of a nudge: it asks the bandit of the segment, and goes by its answer. -/
structure Asked (mab : Mab M) (bandits : String → Option M) (s s' : RecoveryState) (segment : String)
    (channel : RecoveryChannel) : Prop where
  segmented : segmentCustomer s.caseData.customer = .ok segment
  answer : (banditCall mab (bandits segment)
    (.select (some ((eligibleChannels s.caseData.customer).map (·.value))))).1 = .ok (some channel.value)
  chosen : Chosen mab (bandits segment) (some ((eligibleChannels s.caseData.customer).map (·.value))) channel.value
  selected : s'.selectedChannel = some channel
  action : ∃ actionType, actionByChannel channel = .ok actionType ∧ s'.action = some actionType

/-- A nudge for a customer who can be reached goes over the channel that the bandit of the segment
answers. -/
theorem nudge_asked (held : s.strategy = some strategy) (nudge : strategy.actionType ∈ nudgeActions)
    (reachable : eligibleChannels s.caseData.customer ≠ []) (bandits : String → Option M)
    (ran : selectChannel { inputs with expectations := drawn mab bandits } s = .ok s') :
    ∃ segment channel, Asked mab bandits s s' segment channel := by
  cases select_channel_cases ran with
  | absent none => cases held.symm.trans none
  | other held' other =>
    cases held.symm.trans held'
    exact absurd nudge other
  | stopped _ _ nowhere => exact absurd nowhere reachable
  | @nudged _ segment channel actionType _ _ segmented chosen mapped =>
    have answer : (banditCall mab (bandits segment)
        (.select (some ((eligibleChannels s.caseData.customer).map (·.value))))).1 = .ok (some channel.value) := by
      cases eligible : eligibleChannels s.caseData.customer with
      | nil => exact absurd eligible reachable
      | cons first rest =>
        rw [eligible] at chosen
        cases Except.ok.inj chosen
        exact bandit_answers mab eligible bandits segment
    obtain ⟨_, same, best⟩ := select_chosen answer
    cases same
    exact ⟨segment, channel, segmented, answer, best, rfl, actionType, mapped, rfl⟩

/-- What a process's node does with a case after some others: the bandits have only been asked. -/
structure Untaught (mab : Mab M) (inputs : DecisionInputs) (before : List RecoveryState) (s : RecoveryState) :
    Prop where
  bandits : ∀ segment, banditsAfter mab before segment = (draw mab)^[before.countP (asks segment)] none
  outcome : (channelNode mab (banditsAfter mab before) s).1 = selectChannel
    { inputs with expectations := drawn mab fun segment => (draw mab)^[before.countP (asks segment)] none } s
  nudged : ∀ strategy s', s.strategy = some strategy → strategy.actionType ∈ nudgeActions →
    eligibleChannels s.caseData.customer ≠ [] → (channelNode mab (banditsAfter mab before) s).1 = .ok s' →
    ∃ segment channel, Asked mab (banditsAfter mab before) s s' segment channel

/-- Over any sequence of cases nothing is learned: what a segment's bandit answers is the next draw
from where it started, whatever became of the cases before. -/
theorem node_never_learns (mab : Mab M) (inputs : DecisionInputs) (before : List RecoveryState)
    (s : RecoveryState) : Untaught mab inputs before s := by
  have asked : banditsAfter mab before = fun segment => (draw mab)^[before.countP (asks segment)] none := by
    funext segment
    exact run_draws mab before _ segment
  constructor
  case bandits => exact fun segment => congrFun asked segment
  case outcome =>
    rw [asked]
    exact (channel_node_eq mab _ s).1 inputs
  case nudged =>
    intro strategy s' held nudge reachable ran
    rw [(channel_node_eq mab _ s).1 inputs] at ran
    exact nudge_asked held nudge reachable _ ran

end Node

end RevenueGuard.BanditProofs
