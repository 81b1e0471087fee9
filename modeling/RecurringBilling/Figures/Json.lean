import RecurringBilling.Calendar.Text
import RecurringBilling.Decimal.Text
import RecurringBilling.BillingPeriod
import RecurringBilling.Feature
import RecurringBilling.Figures
import RecurringBilling.Invoice
import RecurringBilling.Json
import RecurringBilling.Subscription

/-!
The JSON form of the words, of subscribers and of the figures. Decimals, dates and identifiers are
strings. A record is written as an object; it is read from an object, whatever else that has, or
from the array of its fields.
-/

namespace RecurringBilling

/-- A type with a JSON form. -/
class JsonForm (α : Type) where
  toJson : α → Json
  ofJson? : Json → Option α

export JsonForm (toJson ofJson?)

instance : JsonForm String := ⟨.string, Json.string?⟩

instance : JsonForm Int := ⟨.int, Json.int?⟩

instance : JsonForm Date where
  toJson d := .string d.text
  ofJson? j := do Date.read? true (← j.string?).toList

instance : JsonForm Id where
  toJson id := .string id.text
  ofJson? j := do Id.ofText? (← j.string?)

/-- Decimals are written as strings and read from strings and numbers. -/
instance : JsonForm Decimal where
  toJson d := .string d.text
  ofJson?
    | .string s => Decimal.ofText? s
    | .int n => Decimal.ofInt? n
    | .real isNegative x => Decimal.ofText? ((if isNegative then "-" else "") ++ x.text)
    | _ => none

instance : JsonForm BillingPeriod where
  toJson p := .string p.word
  ofJson? j := do BillingPeriod.ofWord? (← j.word?)

instance : JsonForm FeatureType where
  toJson t := .string t.word
  ofJson? j := do FeatureType.ofWord? (← j.word?)

instance : JsonForm InvoiceStatus where
  toJson s := .string s.word
  ofJson? j := do InvoiceStatus.ofWord? (← j.word?)

instance : JsonForm TransactionStatus where
  toJson s := .string s.word
  ofJson? j := do TransactionStatus.ofWord? (← j.word?)

instance : JsonForm SubscriberKind where
  toJson k := .string k.word
  ofJson? j := do SubscriberKind.ofWord? (← j.word?)

instance : JsonForm SubscriptionStatus where
  toJson s := .string s.word
  ofJson? j := do SubscriptionStatus.ofWord? (← j.word?)

instance : JsonForm Subscriber where
  toJson s := .object [("kind", toJson s.kind), ("id", toJson s.id)]
  ofJson? j := do
    match ← j.record? ["kind", "id"] with
    | [kind, id] => return ⟨← ofJson? kind, ← ofJson? id⟩
    | _ => none

instance : JsonForm DailyUsage where
  toJson v := .object [("date", toJson v.date), ("total", toJson v.total)]
  ofJson? j := do
    match ← j.record? ["date", "total"] with
    | [date, total] => return ⟨← ofJson? date, ← ofJson? total⟩
    | _ => none

instance : JsonForm MonthlyCount where
  toJson v := .object [("month", toJson v.month), ("count", toJson v.count)]
  ofJson? j := do
    match ← j.record? ["month", "count"] with
    | [month, count] => return ⟨← ofJson? month, ← ofJson? count⟩
    | _ => none

instance : JsonForm MonthlyRevenue where
  toJson v := .object [("month", toJson v.month), ("revenue", toJson v.revenue)]
  ofJson? j := do
    match ← j.record? ["month", "revenue"] with
    | [month, revenue] => return ⟨← ofJson? month, ← ofJson? revenue⟩
    | _ => none

instance : JsonForm PackageSubscriberCount where
  toJson v := .object [("package_id", toJson v.packageId), ("package_name", toJson v.packageName),
    ("count", toJson v.count)]
  ofJson? j := do
    match ← j.record? ["package_id", "package_name", "count"] with
    | [id, name, count] => return ⟨← ofJson? id, ← ofJson? name, ← ofJson? count⟩
    | _ => none

instance : JsonForm PackageRevenue where
  toJson v := .object [("package_id", toJson v.packageId), ("package_name", toJson v.packageName),
    ("revenue", toJson v.revenue)]
  ofJson? j := do
    match ← j.record? ["package_id", "package_name", "revenue"] with
    | [id, name, revenue] => return ⟨← ofJson? id, ← ofJson? name, ← ofJson? revenue⟩
    | _ => none

instance : JsonForm ChurnPoint where
  toJson v := .object [("month", toJson v.month), ("churn_rate", toJson v.churnRate)]
  ofJson? j := do
    match ← j.record? ["month", "churn_rate"] with
    | [month, rate] => return ⟨← ofJson? month, ← ofJson? rate⟩
    | _ => none

instance : JsonForm StatusBreakdown where
  toJson v := .object [("active", toJson v.active), ("on_trial", toJson v.onTrial),
    ("cancelled", toJson v.cancelled), ("expired", toJson v.expired)]
  ofJson? j := do
    match ← j.record? ["active", "on_trial", "cancelled", "expired"] with
    | [active, onTrial, cancelled, expired] =>
      return ⟨← ofJson? active, ← ofJson? onTrial, ← ofJson? cancelled, ← ofJson? expired⟩
    | _ => none

instance : JsonForm DashboardSummary where
  toJson v := .object [("total_subscriptions", toJson v.totalSubscriptions),
    ("active_subscriptions", toJson v.activeSubscriptions),
    ("subscriptions_by_status", toJson v.subscriptionsByStatus), ("mrr", toJson v.mrr),
    ("arpu", toJson v.arpu), ("total_revenue", toJson v.totalRevenue),
    ("churn_rate", toJson v.churnRate), ("trial_conversion_rate", toJson v.trialConversionRate),
    ("pending_invoices", toJson v.pendingInvoices),
    ("overdue_invoices", toJson v.overdueInvoices)]
  ofJson? j := do
    match ← j.record? ["total_subscriptions", "active_subscriptions", "subscriptions_by_status",
      "mrr", "arpu", "total_revenue", "churn_rate", "trial_conversion_rate", "pending_invoices",
      "overdue_invoices"] with
    | [total, active, byStatus, mrr, arpu, revenue, churn, conversion, pending, overdue] =>
      return ⟨← ofJson? total, ← ofJson? active, ← ofJson? byStatus, ← ofJson? mrr,
        ← ofJson? arpu, ← ofJson? revenue, ← ofJson? churn, ← ofJson? conversion,
        ← ofJson? pending, ← ofJson? overdue⟩
    | _ => none

instance : JsonForm PackageAnalytics where
  toJson v := .object [("package_id", toJson v.packageId), ("package_name", toJson v.packageName),
    ("total_subscribers", toJson v.totalSubscribers),
    ("active_subscribers", toJson v.activeSubscribers),
    ("cancelled_count", toJson v.cancelledCount), ("mrr", toJson v.mrr),
    ("average_mrr", toJson v.averageMrr), ("trial_conversion_rate", toJson v.trialConversionRate),
    ("total_revenue", toJson v.totalRevenue), ("pending_invoices", toJson v.pendingInvoices),
    ("overdue_invoices", toJson v.overdueInvoices)]
  ofJson? j := do
    match ← j.record? ["package_id", "package_name", "total_subscribers", "active_subscribers",
      "cancelled_count", "mrr", "average_mrr", "trial_conversion_rate", "total_revenue",
      "pending_invoices", "overdue_invoices"] with
    | [id, name, total, active, cancelled, mrr, average, conversion, revenue, pending, overdue] =>
      return ⟨← ofJson? id, ← ofJson? name, ← ofJson? total, ← ofJson? active,
        ← ofJson? cancelled, ← ofJson? mrr, ← ofJson? average, ← ofJson? conversion,
        ← ofJson? revenue, ← ofJson? pending, ← ofJson? overdue⟩
    | _ => none

end RecurringBilling
