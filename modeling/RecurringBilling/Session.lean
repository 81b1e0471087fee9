import RecurringBilling.Invoicing
import RecurringBilling.Reports
import RecurringBilling.Subscribing
import RecurringBilling.Usage

/-!
Sessions: the billing as one subscriber sees it. A session remembers the subscriber's valid
subscription once it has looked it up, and forgets it with every change that it makes.
-/

namespace RecurringBilling

/-- What a session remembers is nothing yet, or the answer of its last look-up. -/
structure Session where
  subscriber : Subscriber
  remembered : Option (Option Subscription) := none

namespace Session

open Procedure

def target : String := "application::usecases::subscriber_context"

/-- An operation settles what the session remembers and hands over the rest of its work, which
leaves that alone, whether it comes to a good end or not. -/
abbrev Operation (α : Type) := Session → Procedure (Session × Procedure α)

/-- Runs an operation; the session changes unless the first part comes to nothing. -/
def Operation.run {α σ : Type} (b : Backend σ) (op : Operation α) (session : Session) (s : σ) :
    Outcome α × Session × σ :=
  match (op session).run b s with
  | (.done (session, rest), s) =>
    let (outcome, s) := rest.run b s
    (outcome, session, s)
  | (.failed e, s) => (.failed e, session, s)
  | (.halted f, s) => (.halted f, session, s)

def forget (s : Session) : Session := { s with remembered := none }

/-- Looks the subscription up and remembers the answer. -/
def lookUp (s : Session) : Procedure (Session × Option Subscription) := do
  let current ← Subscribing.current? s.subscriber
  log .debug target "subscriber_context: subscription resolved"
    [("subscriber", .shown s.subscriber.text),
      ("subscription_id", .ofOption Id.text (current.map (·.id)))]
  return ({ s with remembered := some current }, current)

/-- The subscription as remembered, or looked up. -/
def resolve (s : Session) : Procedure (Session × Option Subscription) :=
  match s.remembered with
  | some current => return (s, current)
  | none => s.lookUp

/-- Goes on with the subscription, or with an answer for want of one. -/
def withSubscription {α : Type} (absent : α) (work : Subscription → Procedure α) : Operation α :=
  fun s => do
    let (s, current) ← s.resolve
    return (s, match current with
      | some subscription => work subscription
      | none => pure absent)

/-- As `withSubscription` for work that changes the subscription. -/
def changeSubscription {α : Type} (work : Subscription → Procedure α) : Operation (Option α) :=
  fun s => do
    let (s, current) ← s.resolve
    return match current with
      | some subscription => (s.forget, some <$> work subscription)
      | none => (s, pure none)

def subscription : Operation (Option Subscription) :=
  withSubscription none fun current => pure (some current)

def refresh : Operation (Option Subscription) := fun s => do
  let (s, current) ← s.lookUp
  return (s, pure current)

def clear : Operation Unit := fun s => pure (s.forget, pure ())

def isSubscribed : Operation Bool := fun s =>
  pure (s, Subscribing.isSubscribed s.subscriber)

def isSubscribedTo (slug : String) : Operation Bool := fun s =>
  pure (s, Subscribing.isSubscribedTo s.subscriber slug)

def isOnTrial : Operation Bool :=
  withSubscription false fun current => return current.isOnTrialAt (← now)

def subscribe (package : Package) (withTrial : Bool) : Operation Subscription := fun s =>
  pure (s.forget, Subscribing.subscribe s.subscriber package withTrial)

def cancel (immediate : Bool) (reason : Option String) : Operation (Option Subscription) :=
  changeSubscription fun current => Subscribing.cancel current immediate reason

def switchPlan (package : Package) : Operation (Option Subscription) :=
  changeSubscription fun current => Subscribing.switchPlan current package

/-- Takes up the subscription that was cancelled and has not ended, if there is one. -/
def resume : Operation (Option Subscription) := fun s => do
  match ← Subscribing.resumable? s.subscriber with
  | some cancelled => return (s.forget, some <$> Subscribing.resume cancelled)
  | none => return (s, pure none)

def hasFeature (slug : String) : Operation Bool :=
  withSubscription false fun current => Usage.check current slug 1

def featureValue (slug : String) : Operation (Option String) :=
  withSubscription none fun current => Usage.featureValue current slug

def featureUsage (slug : String) : Operation Decimal :=
  withSubscription 0 fun current => Usage.featureUsage current slug

def featureRemaining (slug : String) : Operation (Option Decimal) :=
  withSubscription none fun current => Usage.featureRemaining current slug

def dailyUsage (slug : String) (days : Int) : Operation (List DailyUsage) :=
  withSubscription [] fun current => do
    match ← Usage.item? current slug with
    | some (item, _) => Reports.dailyUsage current.id item.featureId days
    | none => return []

/-- Uses up an amount of a feature. -/
def useFeature (slug : String) (amount : Decimal) : Operation Bool :=
  withSubscription false fun current => Usage.increment current slug amount

def invoices : Operation (List Invoice) := fun s =>
  pure (s, Invoicing.listFor s.subscriber)

end Session

end RecurringBilling
