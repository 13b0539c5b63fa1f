import Mathlib.Data.String.Basic
import RevenueGuard.Library.Families
import RevenueGuard.Library.Maximum
import RevenueGuard.Library.StableSort
import RevenueGuard.Nodes

/-!
`ml/channel_bandit.py`: the bandits that the channel node asks, one for every segment of customers.
MABWiser's `MAB` is a parameter.  Between two of its calls nothing else runs.
-/

namespace RevenueGuard

def RecoveryChannel.value : RecoveryChannel → String
  | sms => "sms"
  | email => "email"
  | whatsapp => "whatsapp"
  | inApp => "in_app"

namespace ChannelBandit

open Library

/-- What the code uses of a `MAB` over `arms` with Thompson sampling.  A prediction draws, so that it
leaves another generator behind. -/
structure Mab (M : Type) where
  create : M
  fit : List String → List ℤ → M → M
  partialFit : List String → List ℤ → M → M
  predictExpectations : M → (String → ℚ) × M

/-- `arms`. -/
def arms : List String := ["sms", "email", "whatsapp"]

variable {M : Type}

/-- The bandit that `get_or_create_bandit` makes for a segment: one success and one failure of every
arm. -/
def newBandit (mab : Mab M) : M :=
  mab.fit (arms.flatMap fun arm => [arm, arm]) (arms.flatMap fun _ => [1, 0]) mab.create

/-- `get_or_create_bandit`, on what there is for the segment. -/
def getOrCreateBandit (mab : Mab M) (bandit : Option M) : M := bandit.getD (newBandit mab)

/-- `_eligible_channels`. -/
def eligibleOf (eligibleChannels : Option (List String)) : Except String (List String) :=
  match eligibleChannels with
  | none => .ok arms
  | some channels =>
    let eligible := channels.eraseDups
    let unknown := eligible.filter fun channel => channel ∉ arms
    if unknown ≠ [] then .error ("Unsupported eligible channels: " ++
      (Json.arr ((StableSort.sortedBy id unknown).map .str)).pyStr)
    else if eligible = [] then .error "At least one eligible channel is required"
    else .ok eligible

/-- A call of `select_channel` or of `update` for a segment. -/
inductive BanditCall where
  | select (eligibleChannels : Option (List String))
  | update (channel : String) (recovered : Bool)

/-- What a call makes of the bandit of its segment, and the channel that it returns if it returns one. -/
def banditCall (mab : Mab M) (bandit : Option M) : BanditCall → Except String (Option String) × Option M
  | .select eligibleChannels =>
    let (expectations, bandit) := mab.predictExpectations (getOrCreateBandit mab bandit)
    (do return some (← Maximum.maxBy expectations (← eligibleOf eligibleChannels)), some bandit)
  | .update channel recovered =>
    if channel ∉ arms then (.error ("Unsupported channel: " ++ channel), bandit)
    else (.ok none, some (mab.partialFit [channel] [if recovered then 1 else 0] (getOrCreateBandit mab bandit)))

/-- The calls of a `ChannelBandit` from its making on, each with its segment: their answers, and
`segment_bandits` after them. -/
def banditCalls (mab : Mab M) (calls : List (String × BanditCall)) :
    List (String × Except String (Option String)) × (String → Option M) :=
  Families.runAll (banditCall mab) (fun _ => none) calls

/-- `select_channel` of `channel_node.py`, with the bandits of its process.  In the graph the node is
given what its bandit draws. -/
def channelNode (mab : Mab M) (bandits : String → Option M) (s : RecoveryState) :
    Except String RecoveryState × (String → Option M) :=
  match s.strategy with
  | none => (.ok { s with selectedChannel := none }, bandits)
  | some strategy =>
    if strategy.actionType ∉ nudgeActions then (.ok { s with selectedChannel := strategy.channel }, bandits)
    else
      match eligibleChannels s.caseData.customer with
      | [] =>
        (.ok { s with
          strategy := some { strategy with
            actionType := .stop
            channel := none
            reasoning := "No eligible customer communication channel is available."
            stoppingReason := some "No eligible channel" }
          selectedChannel := none
          auditTrail := appendAudit s "channel_bandit" "select_channel" }, bandits)
      | eligible =>
        match segmentCustomer s.caseData.customer with
        | .error exc => (.error exc, bandits)
        | .ok segment =>
          let (answer, bandits) :=
            Families.call (banditCall mab) bandits (segment, .select (some (eligible.map (·.value))))
          (do
            let channel ← RecoveryChannel.ofValue ((← answer).getD "")
            let actionType ← actionByChannel channel
            return { s with
              strategy := some { strategy with channel := some channel, actionType }
              selectedChannel := some channel
              auditTrail := appendAudit s "channel_bandit" "select_channel" }, bandits)

end ChannelBandit

end RevenueGuard
