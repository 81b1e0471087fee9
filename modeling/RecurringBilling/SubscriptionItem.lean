import RecurringBilling.Calendar
import RecurringBilling.Decimal.Text
import RecurringBilling.Id
import RecurringBilling.Json

/-!
Subscription items: the features of a subscription as they were granted when it was made, each with
its count of use, and the log of that use.
-/

namespace RecurringBilling

/-- An item for a subscription that is yet to be made. -/
structure ItemSeed where
  featureId : Id
  value : Option String

/-- An item that is about to be stored. -/
structure NewSubscriptionItem where
  subscriptionId : Id
  featureId : Id
  value : Option String
  usage : Decimal

structure SubscriptionItem extends NewSubscriptionItem where
  id : Id
  createdAt : Instant
  updatedAt : Instant

/-- The item of a subscription, with nothing used. -/
def ItemSeed.forSubscription (seed : ItemSeed) (subscriptionId : Id) : NewSubscriptionItem :=
  ⟨subscriptionId, seed.featureId, seed.value, 0⟩

namespace SubscriptionItem

/-- The value as a number; one that is missing or no number reads as zero. -/
def limitValue (item : SubscriptionItem) : Decimal :=
  match item.value with
  | some raw => (Decimal.ofText? (Text.trim raw)).getD 0
  | none => 0

/-- The value as a flag: `1`, `true`, `on` and `yes` in either case. -/
def isEnabled (item : SubscriptionItem) : Bool :=
  item.value.any fun raw =>
    ["1", "true", "on", "yes"].contains (Text.lowerAscii (Text.trim raw))

/-- Whether so much more would exceed the value; an item without a value has no limit. -/
def isOverLimit (item : SubscriptionItem) (additional : Decimal) : Except ArithmeticFault Bool :=
  match item.value with
  | none => .ok false
  | some _ => do return decide (item.limitValue < (← item.usage.add additional))

/-- What is left of the value, at least zero; nothing stands for no limit. -/
def remaining (item : SubscriptionItem) : Except ArithmeticFault (Option Decimal) :=
  match item.value with
  | none => .ok none
  | some _ => do return some (max (← item.limitValue.sub item.usage) 0)

/-- The use in percent of the value, to two places. -/
def usagePercentage (item : SubscriptionItem) : Except ArithmeticFault (Option Decimal) :=
  match item.value with
  | none => .ok none
  | some _ =>
    if item.limitValue.units = 0 then .ok none
    else do
      let ratio ← item.usage.div item.limitValue
      return some ((← ratio.mul .hundred).roundTo 2)

end SubscriptionItem

/-- An entry of the log of use that is about to be stored. -/
structure NewUsageLog where
  subscriptionId : Id
  featureId : Id
  amount : Decimal
  description : Option String
  metadata : Option Json

structure UsageLog extends NewUsageLog where
  id : Id
  createdAt : Instant

end RecurringBilling
