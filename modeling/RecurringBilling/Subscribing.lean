import RecurringBilling.Procedure

/-!
The life of a subscription: subscribe, cancel, resume and switch to another package. A change is
announced once it is stored, and a failed one leaves nothing behind.
-/

namespace RecurringBilling.Subscribing

open Procedure

def target : String := "application::usecases::subscriptions"

def planSwitchReason : String := "Plan switch"

/-- The end of the trial, if one was asked for and the package has one. -/
def trialEnd? (package : Package) (withTrial : Bool) (start : Instant) : Option Instant :=
  if withTrial && package.hasTrial then start.addDays? package.trialDays else none

/-- The end of the first cycle, or of the trial if that is later. -/
def firstEnd? (cycleEnd trialEnd : Option Instant) : Option Instant :=
  match trialEnd, cycleEnd with
  | some trial, some cycle => if cycle < trial then some trial else some cycle
  | some trial, none => some trial
  | none, cycle => cycle

/-- The subscription that a subscriber takes out at an instant. -/
def newSubscription (subscriber : Subscriber) (package : Package) (withTrial : Bool)
    (start : Instant) : NewSubscription :=
  let trialEnd := trialEnd? package withTrial start
  { subscriberType := subscriber.kind.word
    subscriberId := subscriber.id
    packageId := package.id
    status := (if trialEnd.isSome then SubscriptionStatus.onTrial else .active).word
    startsAt := start
    endsAt := firstEnd? (BillingPeriod.cycleEnd? start package.period? package.billingInterval)
      trialEnd
    trialEndsAt := trialEnd
    cancelledAt := none
    cancellationReason := none
    autoRenew := true
    metadata := none }

/-- Cancelling at once ends the subscription now; otherwise it keeps its end and is not renewed. -/
def cancellation (now : Instant) (immediate : Bool) (reason : Option String) :
    SubscriptionChanges :=
  { status := .set SubscriptionStatus.cancelled.word
    endsAt := if immediate then .set (some now) else .keep
    cancelledAt := .set (some now)
    cancellationReason := .set reason
    autoRenew := if immediate then .keep else .set false
    updatedAt := now }

def resumption (now : Instant) : SubscriptionChanges :=
  { status := .set SubscriptionStatus.active.word
    cancelledAt := .set none
    cancellationReason := .set none
    autoRenew := .set true
    updatedAt := now }

/-- The items for the features that a package makes available. -/
def itemSeeds (package : Package) : Procedure (List ItemSeed) := do
  let granted ← requestOr (.listFeatures package.id) fun e =>
    log .error target "subscriptions: failed to load package features"
      [("package_id", .ofId package.id), ("db_error", .shown e.report)]
  return (granted.filter (·.isAvailable)).map fun g => ⟨g.feature.id, g.value⟩

def subscribe (subscriber : Subscriber) (package : Package) (withTrial : Bool) :
    Procedure Subscription := do
  log .info target "subscriptions: subscribe requested"
    [("subscriber", .shown subscriber.text), ("package_id", .ofId package.id),
      ("package_slug", .shown package.slug), ("with_trial", .ofBool withTrial)]
  let row := newSubscription subscriber package withTrial (← now)
  let items ← itemSeeds package
  let created ← requestOr (.createSubscription row items) fun e =>
    log .error target "subscriptions: failed to create subscription"
      [("subscriber", .shown subscriber.text), ("package_id", .ofId package.id),
        ("db_error", .shown e.report)]
  log .info target "subscriptions: subscription created"
    [("subscriber", .shown subscriber.text), ("subscription_id", .ofId created.id),
      ("status", .shown created.status), ("ends_at", .ofInstant? created.endsAt)]
  publish (.subscriptionCreated created)
  return created

def cancel (subscription : Subscription) (immediate : Bool) (reason : Option String) :
    Procedure Subscription := do
  log .info target "subscriptions: cancel requested"
    [("subscription_id", .ofId subscription.id), ("immediate", .ofBool immediate),
      ("reason", .ofOption quote reason)]
  let changes := cancellation (← now) immediate reason
  let cancelled ← requestOr (.updateSubscription subscription.id changes) fun e =>
    log .error target "subscriptions: failed to cancel subscription"
      [("subscription_id", .ofId subscription.id), ("db_error", .shown e.report)]
  log .info target "subscriptions: subscription cancelled"
    [("subscription_id", .ofId cancelled.id), ("ends_at", .ofInstant? cancelled.endsAt),
      ("auto_renew", .ofBool cancelled.autoRenew)]
  return cancelled

/-- Takes up a cancelled subscription again before it ends; any other is left as it is. -/
def resume (subscription : Subscription) : Procedure Subscription := do
  let instant ← now
  if !subscription.isResumableAt instant then
    log .info target "subscriptions: subscription not resumable; leaving unchanged"
      [("subscription_id", .ofId subscription.id), ("status", .shown subscription.status),
        ("ends_at", .ofInstant? subscription.endsAt)]
    return subscription
  let resumed ← requestOr (.updateSubscription subscription.id (resumption instant)) fun e =>
    log .error target "subscriptions: failed to resume subscription"
      [("subscription_id", .ofId subscription.id), ("db_error", .shown e.report)]
  log .info target "subscriptions: subscription resumed" [("subscription_id", .ofId resumed.id)]
  return resumed

/-- Ends the subscription now and takes out another for the same subscriber, in one step of the
storage and without a trial. -/
def switchPlan (subscription : Subscription) (package : Package) : Procedure Subscription := do
  let some subscriber := subscription.subscriber?
    | .fail (.unknownSubscriber subscription.id subscription.subscriberType)
  log .info target "subscriptions: plan switch requested"
    [("subscription_id", .ofId subscription.id), ("subscriber", .shown subscriber.text),
      ("from_package_id", .ofId subscription.packageId), ("to_package_id", .ofId package.id)]
  let instant ← now
  let row := newSubscription subscriber package false instant
  let items ← itemSeeds package
  let (old, created) ←
    requestOr (.switchPlan subscription.id (cancellation instant true (some planSwitchReason)) row
      items) fun e =>
    log .error target "subscriptions: failed to switch plan"
      [("subscription_id", .ofId subscription.id), ("to_package_id", .ofId package.id),
        ("db_error", .shown e.report)]
  log .info target "subscriptions: plan switched"
    [("old_subscription_id", .ofId old.id), ("new_subscription_id", .ofId created.id)]
  publish (.subscriptionCreated created)
  return created

def current? (subscriber : Subscriber) : Procedure (Option Subscription) :=
  request (.findValidSubscription subscriber)

def isSubscribed (subscriber : Subscriber) : Procedure Bool :=
  request (.hasValidSubscription subscriber none)

def isSubscribedTo (subscriber : Subscriber) (packageSlug : String) : Procedure Bool :=
  request (.hasValidSubscription subscriber (some packageSlug))

def resumable? (subscriber : Subscriber) : Procedure (Option Subscription) := do
  request (.findResumable subscriber (← now))

def listFor (subscriber : Subscriber) : Procedure (List Subscription) :=
  request (.listSubscriptions subscriber)

def find (id : Id) : Procedure Subscription := do
  match ← request (.findSubscription id) with
  | some subscription => return subscription
  | none => .fail (.subscriptionNotFound id)

def findPackage (slug : String) : Procedure Package := do
  match ← request (.findPackageBySlug slug) with
  | some package => return package
  | none =>
    log .warn target "subscriptions: package not found" [("package_slug", .shown slug)]
    .fail (.packageNotFound slug)

end RecurringBilling.Subscribing
