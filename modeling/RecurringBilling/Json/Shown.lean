import RecurringBilling.DailyRun
import RecurringBilling.Figures.Json
import RecurringBilling.Settings
import RecurringBilling.Table.Rows

/-!
The JSON form of what procedures answer with. Decimals lose the zeros at the end of their fraction,
which the figures otherwise keep.
-/

namespace RecurringBilling

/-- A type whose values can be shown as JSON. -/
class Shown (α : Type) where
  shown : α → Json

export Shown (shown)

instance : Shown Json := ⟨fun j => j⟩
instance : Shown Unit := ⟨fun _ => .null⟩
instance : Shown Bool := ⟨.bool⟩
instance : Shown String := ⟨.string⟩
instance : Shown Int := ⟨.int⟩
instance : Shown Nat := ⟨fun n => .int n⟩
instance : Shown Id := ⟨fun i => .string i.text⟩
instance : Shown Date := ⟨fun d => .string d.text⟩
instance : Shown Instant := ⟨fun t => .string t.text⟩
instance : Shown Decimal := ⟨fun d => .string d.canonicalText⟩
instance : Shown Subscriber := ⟨fun s => .string s.text⟩

instance : Shown BillingPeriod := ⟨fun p => .string p.word⟩
instance : Shown FeatureType := ⟨fun t => .string t.word⟩
instance : Shown InvoiceStatus := ⟨fun s => .string s.word⟩
instance : Shown TransactionStatus := ⟨fun s => .string s.word⟩
instance : Shown SubscriptionStatus := ⟨fun s => .string s.word⟩

section

variable {α β : Type} [Shown α] [Shown β]

instance : Shown (Option α) := ⟨fun a => (a.map shown).getD .null⟩
instance : Shown (List α) := ⟨fun as => .array (as.map shown)⟩
instance : Shown (α × β) := ⟨fun (a, b) => .array [shown a, shown b]⟩

end

instance : Shown Cells := ⟨Cells.toJson⟩
instance : Shown Feature := ⟨fun r => shown r.cells⟩
instance : Shown Package := ⟨fun r => shown r.cells⟩
instance : Shown Grant := ⟨fun r => shown r.cells⟩
instance : Shown Subscription := ⟨fun r => shown r.cells⟩
instance : Shown SubscriptionItem := ⟨fun r => shown r.cells⟩
instance : Shown UsageLog := ⟨fun r => shown r.cells⟩
instance : Shown Invoice := ⟨fun r => shown r.cells⟩
instance : Shown Transaction := ⟨fun r => shown r.cells⟩

instance : Shown ItemSeed :=
  ⟨fun s => .object [("feature_id", shown s.featureId), ("value", shown s.value)]⟩

instance : Shown GrantedFeature :=
  ⟨fun g => .object [("feature", shown g.feature), ("value", shown g.value),
    ("is_available", shown g.isAvailable), ("sort_order", shown g.sortOrder)]⟩

def shownChange {α : Type} [Shown α] (name : String) : Change α → List (String × Json)
  | .keep => []
  | .set a => [(name, shown a)]

/-- The columns that are written, and nothing of the others. -/
instance : Shown SubscriptionChanges :=
  ⟨fun c => .object (shownChange "status" c.status ++ shownChange "ends_at" c.endsAt ++
    shownChange "cancelled_at" c.cancelledAt ++
    shownChange "cancellation_reason" c.cancellationReason ++
    shownChange "auto_renew" c.autoRenew ++ [("updated_at", shown c.updatedAt)])⟩

instance : Shown BillingEvent where
  shown e := .object (("event", .string e.name) :: match e with
    | .subscriptionCreated s => [("subscription", shown s)]
    | .usageLimitWarning s feature usage limit =>
      [("subscription", shown s), ("feature", shown feature), ("current_usage", shown usage),
        ("limit", shown limit)])

instance : Shown StatusCounts :=
  ⟨fun counts => .object (counts.map fun (s, n) => (s.word, shown n))⟩

instance : Shown Lifetime :=
  ⟨fun v => .object [("created_at", shown v.createdAt), ("ends_at", shown v.endsAt)]⟩

instance : Shown PricedSubscription :=
  ⟨fun v => .object [("subscription_id", shown v.subscriptionId),
    ("package_id", shown v.packageId), ("package_name", shown v.packageName),
    ("status", shown v.status), ("trial_ends_at", shown v.trialEndsAt),
    ("created_at", shown v.createdAt), ("price", shown v.price),
    ("billing_period", shown v.periodWord), ("billing_interval", shown v.billingInterval)]⟩

instance : Shown PackageInvoice :=
  ⟨fun v => .object [("invoice_id", shown v.invoiceId), ("package_id", shown v.packageId),
    ("package_name", shown v.packageName), ("amount", shown v.amount),
    ("status", shown v.status), ("due_date", shown v.dueDate)]⟩

instance : Shown PaidInvoice :=
  ⟨fun v => .object [("paid_at", shown v.paidAt), ("amount", shown v.amount)]⟩

instance : Shown DailyUsage := ⟨fun v => toJson { v with total := v.total.trim }⟩
instance : Shown MonthlyCount := ⟨toJson⟩
instance : Shown MonthlyRevenue := ⟨fun v => toJson { v with revenue := v.revenue.trim }⟩
instance : Shown PackageSubscriberCount := ⟨toJson⟩
instance : Shown PackageRevenue := ⟨fun v => toJson { v with revenue := v.revenue.trim }⟩
instance : Shown ChurnPoint := ⟨fun v => toJson { v with churnRate := v.churnRate.trim }⟩

instance : Shown DashboardSummary :=
  ⟨fun v => toJson { v with
    mrr := v.mrr.trim
    arpu := v.arpu.trim
    totalRevenue := v.totalRevenue.trim
    churnRate := v.churnRate.trim
    trialConversionRate := v.trialConversionRate.trim }⟩

instance : Shown PackageAnalytics :=
  ⟨fun v => toJson { v with
    mrr := v.mrr.trim
    averageMrr := v.averageMrr.trim
    trialConversionRate := v.trialConversionRate.trim
    totalRevenue := v.totalRevenue.trim }⟩

instance : Shown RunReport :=
  ⟨fun r => .object [("renewals_scanned", shown r.renewalsScanned),
    ("invoices_generated", shown r.invoicesGenerated),
    ("cancelled_pending_invoice", shown r.cancelledPendingInvoice),
    ("renewal_failures", shown r.renewalFailures),
    ("expirations_scanned", shown r.expirationsScanned), ("expired", shown r.expired),
    ("expiration_failures", shown r.expirationFailures), ("invoiced_ids", shown r.invoicedIds),
    ("cancelled_ids", shown r.cancelledIds), ("expired_ids", shown r.expiredIds),
    ("failed_ids", shown r.failedIds), ("expirations_incomplete", shown r.expirationsIncomplete),
    ("failures", shown r.failures)]⟩

instance : Shown BillingSettings :=
  ⟨fun s => .object [("currency", shown s.currency), ("invoice_prefix", shown s.invoicePrefix),
    ("invoice_format", shown s.invoiceFormat), ("invoice_due_days", shown s.invoiceDueDays)]⟩

end RecurringBilling
