import RecurringBilling.Calendar
import RecurringBilling.Json
import RecurringBilling.Subscriber

/-!
Subscriptions: a subscriber's hold on a package, and what its status and dates say at an instant.
-/

namespace RecurringBilling

inductive SubscriptionStatus where
  | pending
  | active
  | onTrial
  | pastDue
  | cancelled
  | expired
  | suspended
  deriving DecidableEq

namespace SubscriptionStatus

instance : Inhabited SubscriptionStatus := ⟨pending⟩

def all : List SubscriptionStatus :=
  [pending, active, onTrial, pastDue, cancelled, expired, suspended]

/-- The statuses that give access. -/
def valid : List SubscriptionStatus := [active, onTrial]

def word : SubscriptionStatus → String
  | pending => "pending"
  | active => "active"
  | onTrial => "on_trial"
  | pastDue => "past_due"
  | cancelled => "cancelled"
  | expired => "expired"
  | suspended => "suspended"

/-- The status of a word, and pending for any other text. -/
def ofText : String → SubscriptionStatus
  | "active" => active
  | "on_trial" => onTrial
  | "past_due" => pastDue
  | "cancelled" => cancelled
  | "expired" => expired
  | "suspended" => suspended
  | _ => pending

/-- The status of a word alone. -/
def ofWord? (text : String) : Option SubscriptionStatus :=
  all.find? (·.word == text)

/-- Whether a stored status text is the word of a status that gives access. -/
def isValidText (text : String) : Bool := valid.any (·.word == text)

end SubscriptionStatus

/-- A subscription that is about to be stored. -/
structure NewSubscription where
  subscriberType : String
  subscriberId : Id
  packageId : Id
  status : String
  startsAt : Instant
  endsAt : Option Instant
  trialEndsAt : Option Instant
  cancelledAt : Option Instant
  cancellationReason : Option String
  autoRenew : Bool
  metadata : Option Json

/-- A stored subscription. One without an end lasts for life. -/
structure Subscription extends NewSubscription where
  id : Id
  createdAt : Instant
  updatedAt : Instant
  deletedAt : Option Instant

namespace Subscription

def statusOf (s : Subscription) : SubscriptionStatus := .ofText s.status

/-- The subscriber, unless the stored kind is unknown. -/
def subscriber? (s : Subscription) : Option Subscriber :=
  (SubscriberKind.ofWord? s.subscriberType).map (⟨·, s.subscriberId⟩)

def isActiveAt (s : Subscription) (now : Instant) : Bool :=
  s.statusOf == .active && s.endsAt.all (now < ·)

/-- On trial by status, or of any status while the trial's end is still to come. -/
def isOnTrialAt (s : Subscription) (now : Instant) : Bool :=
  s.statusOf == .onTrial || s.trialEndsAt.any (now < ·)

def isCancelled (s : Subscription) : Bool :=
  s.statusOf == .cancelled || s.cancelledAt.isSome

def isExpiredAt (s : Subscription) (now : Instant) : Bool :=
  s.statusOf == .expired || (s.endsAt.any (· < now) && !s.isCancelled)

def isSuspended (s : Subscription) : Bool := s.statusOf == .suspended

def isPastDue (s : Subscription) : Bool := s.statusOf == .pastDue

/-- Whether the subscription gives access; a cancelled one does not, even before its end. -/
def isValidAt (s : Subscription) (now : Instant) : Bool := s.isActiveAt now || s.isOnTrialAt now

def isResumableAt (s : Subscription) (now : Instant) : Bool :=
  s.statusOf == .cancelled && s.endsAt.all (now ≤ ·)

def isLive (s : Subscription) : Bool := s.deletedAt.isNone

def belongsTo (s : Subscription) (subscriber : Subscriber) : Bool :=
  s.subscriberType == subscriber.kind.word && s.subscriberId == subscriber.id

end Subscription

/-- What an update does to a column. -/
inductive Change (α : Type) where
  | keep
  | set (value : α)

def Change.apply {α : Type} (old : α) : Change α → α
  | keep => old
  | set value => value

/-- An update of a subscription: any of five columns, and always the time of the update. -/
structure SubscriptionChanges where
  status : Change String := .keep
  endsAt : Change (Option Instant) := .keep
  cancelledAt : Change (Option Instant) := .keep
  cancellationReason : Change (Option String) := .keep
  autoRenew : Change Bool := .keep
  updatedAt : Instant

def SubscriptionChanges.apply (c : SubscriptionChanges) (s : Subscription) : Subscription :=
  { s with
    status := c.status.apply s.status
    endsAt := c.endsAt.apply s.endsAt
    cancelledAt := c.cancelledAt.apply s.cancelledAt
    cancellationReason := c.cancellationReason.apply s.cancellationReason
    autoRenew := c.autoRenew.apply s.autoRenew
    updatedAt := c.updatedAt }

end RecurringBilling
