import RecurringBilling.Decimal.Text
import RecurringBilling.Feature
import RecurringBilling.Logging
import RecurringBilling.Subscription

/-!
Events that the billing announces once a change is stored, and their form in the log.
-/

namespace RecurringBilling

inductive BillingEvent where
  | subscriptionCreated (subscription : Subscription)
  | usageLimitWarning (subscription : Subscription) (feature : Feature) (currentUsage : Decimal)
      (limit : Decimal)

namespace BillingEvent

def name : BillingEvent → String
  | subscriptionCreated _ => "subscription_created"
  | usageLimitWarning .. => "usage_limit_warning"

def subscription : BillingEvent → Subscription
  | subscriptionCreated s => s
  | usageLimitWarning s .. => s

def target : String := "infra::events"

def logRecord (event : BillingEvent) : LogRecord :=
  match event with
  | subscriptionCreated s =>
    ⟨.info, target, "events: subscription created",
      [("event", .quoted event.name), ("subscription_id", .ofId s.id),
        ("package_id", .ofId s.packageId), ("status", .shown s.status)]⟩
  | usageLimitWarning s feature usage limit =>
    ⟨.warn, target, "events: usage limit warning",
      [("event", .quoted event.name), ("subscription_id", .ofId s.id),
        ("feature", .shown feature.slug), ("current_usage", .shown usage.text),
        ("limit", .shown limit.text)]⟩

end BillingEvent

end RecurringBilling
