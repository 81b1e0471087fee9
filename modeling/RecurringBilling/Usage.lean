import RecurringBilling.Procedure

/-!
Use of features: whether an amount may be used, and the count of what was. The count of a limited
feature goes up by a conditional update, so that calls at the same time cannot pass the limit.
-/

namespace RecurringBilling.Usage

open Procedure

def target : String := "application::usecases::usage"

def incrementNote : String := "Usage increment"
def resetNote : String := "Usage reset"

/-- Four fifths of a limit. -/
def warningThreshold : Decimal :=
  { units := 8, scale := 1, units_lt := by decide, scale_le := by decide }

/-- Whether use goes from below four fifths of the limit to four fifths or more. A limit of zero is
never crossed. -/
def crossesThreshold (previous current limit : Decimal) : Except ArithmeticFault Bool := do
  if limit ≤ 0 then return false
  if warningThreshold ≤ (← current.div limit) then
    return decide ((← previous.div limit) < warningThreshold)
  return false

/-- Whether an item lets an amount be used. A limit that is not positive is none. -/
def allows (item : SubscriptionItem) (feature : Feature) (amount : Decimal) :
    Except ArithmeticFault Bool := do
  if !feature.isActive then return false
  match feature.type? with
  | some .limit =>
    if item.limitValue ≤ 0 then return true
    return decide ((← item.usage.add amount) ≤ item.limitValue)
  | some .boolean => return item.isEnabled
  | _ => return true

/-- Whether the amount may be used at present. -/
def check (subscription : Subscription) (slug : String) (amount : Decimal) :
    Procedure Bool := do
  if !subscription.isValidAt (← now) then
    log .debug target "usage: subscription not valid; denying access"
      [("subscription_id", .ofId subscription.id), ("feature_slug", .quoted slug)]
    return false
  match ← request (.findItem subscription.id slug) with
  | some (item, feature) => compute (allows item feature amount)
  | none => return false

/-- The limit that an increment has to keep, if there is one. -/
def enforcedLimit (item : SubscriptionItem) (feature : Feature) : Option Decimal :=
  if feature.isOfType .limit && 0 < item.limitValue then some item.limitValue else none

def exceeds (item : SubscriptionItem) (amount : Decimal) :
    Option Decimal → Except ArithmeticFault Bool
  | some limit => do return decide (limit < (← item.usage.add amount))
  | none => .ok false

def writeLog (subscription : Subscription) (item : SubscriptionItem) (amount : Decimal)
    (description : String) : Procedure Unit := do
  let _ ← requestOr
    (.createUsageLog ⟨subscription.id, item.featureId, amount, some description, none⟩) fun e =>
    log .error target "usage: failed to write usage log"
      [("subscription_id", .ofId subscription.id), ("feature_id", .ofId item.featureId),
        ("db_error", .shown e.report)]

/-- Warns of an increment that crosses the threshold of a metered feature. -/
def warnIfCrossed (subscription : Subscription) (slug : String) (item : SubscriptionItem)
    (feature : Feature) (amount newUsage : Decimal) : Procedure Unit := do
  if feature.isMetered then
    let previous ← compute (newUsage.sub amount)
    if ← compute (crossesThreshold previous newUsage item.limitValue) then
      log .info target "usage: warning threshold crossed"
        [("subscription_id", .ofId subscription.id), ("feature_slug", .quoted slug),
          ("usage", .shown newUsage.text), ("limit", .shown item.limitValue.text)]
      publish (.usageLimitWarning subscription feature newUsage item.limitValue)

/-- Adds the amount to what has been used, unless there is no item or the limit would be passed.
Whether the subscription is valid does not matter here. -/
def increment (subscription : Subscription) (slug : String) (amount : Decimal) :
    Procedure Bool := do
  let some (item, feature) ← request (.findItem subscription.id slug)
    | log .debug target "usage: no item for feature"
        [("subscription_id", .ofId subscription.id), ("feature_slug", .quoted slug)]
      return false
  if ← compute (exceeds item amount (enforcedLimit item feature)) then
    log .info target "usage: increment rejected; limit exceeded"
      [("subscription_id", .ofId subscription.id), ("feature_slug", .quoted slug),
        ("usage", .shown item.usage.text), ("amount", .shown amount.text),
        ("limit", .shown item.limitValue.text)]
    return false
  let updated ← requestOr (.incrementUsage item.id amount (enforcedLimit item feature)) fun e =>
    log .error target "usage: failed to increment usage"
      [("subscription_id", .ofId subscription.id), ("item_id", .ofId item.id),
        ("db_error", .shown e.report)]
  match updated with
  | none =>
    log .info target "usage: increment rejected by conditional update"
      [("subscription_id", .ofId subscription.id), ("feature_slug", .quoted slug),
        ("amount", .shown amount.text)]
    return false
  | some newUsage =>
    warnIfCrossed subscription slug item feature amount newUsage
    writeLog subscription item amount incrementNote
    return true

/-- Sets what has been used of a feature to zero, if the subscription has it. -/
def reset (subscription : Subscription) (slug : String) : Procedure Bool := do
  let some (item, _) ← request (.findItem subscription.id slug) | return false
  request (.resetUsage item.id)
  writeLog subscription item 0 resetNote
  log .info target "usage: usage reset"
    [("subscription_id", .ofId subscription.id), ("feature_slug", .quoted slug)]
  return true

/-- Sets what has been used of every feature to zero, without an entry in the log of use. -/
def resetAll (subscription : Subscription) : Procedure Nat := do
  let count ← request (.resetAllUsage subscription.id)
  log .info target "usage: all usage reset"
    [("subscription_id", .ofId subscription.id), ("items", .ofNat count)]
  return count

def item? (subscription : Subscription) (slug : String) :
    Procedure (Option (SubscriptionItem × Feature)) :=
  request (.findItem subscription.id slug)

def items (subscription : Subscription) : Procedure (List (SubscriptionItem × Feature)) :=
  request (.listItems subscription.id)

/-- The value with which the feature was granted. -/
def featureValue (subscription : Subscription) (slug : String) : Procedure (Option String) := do
  return (← item? subscription slug).bind fun (item, _) => item.value

/-- What has been used, zero if there is no item. -/
def featureUsage (subscription : Subscription) (slug : String) : Procedure Decimal := do
  match ← item? subscription slug with
  | some (item, _) => return item.usage
  | none => return 0

/-- What is left, nothing if there is no limit or no item. -/
def featureRemaining (subscription : Subscription) (slug : String) :
    Procedure (Option Decimal) := do
  match ← item? subscription slug with
  | some (item, _) => compute item.remaining
  | none => return none

end RecurringBilling.Usage
