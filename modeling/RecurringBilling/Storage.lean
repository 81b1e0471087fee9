import RecurringBilling.BillingEvent
import RecurringBilling.Figures
import RecurringBilling.Invoice
import RecurringBilling.Package
import RecurringBilling.SubscriptionItem

/-!
Requests to the storage of the billing. A request is a value; the type of its reply depends on it.
-/

namespace RecurringBilling

/-- Why the storage did not do what it was asked for. -/
inductive StorageError where
  | refused (message : String)
  | recordNotFound
  | unexpectedNull
  | numericOverflow
  deriving DecidableEq

namespace StorageError

def message : StorageError → String
  | refused message => message
  | recordNotFound => "Record not found"
  | unexpectedNull => "Unexpected null for non-null column"
  | numericOverflow => "numeric field overflow"

/-- A row that cannot be read fails in the words of the column that made it fail. -/
def cause? : StorageError → Option String
  | unexpectedNull => some unexpectedNull.message
  | _ => none

def report (e : StorageError) : String := failureReport e.message e.cause?

end StorageError

/-- How many subscriptions there are of each status; a status that is not listed has none. -/
abbrev StatusCounts := List (SubscriptionStatus × Int)

namespace StatusCounts

def count (counts : StatusCounts) (status : SubscriptionStatus) : Int :=
  ((counts.find? (·.1 == status)).map (·.2)).getD 0

/-- Adds to the count of a status. -/
def add (status : SubscriptionStatus) (n : Int) : StatusCounts → StatusCounts
  | [] => [(status, n)]
  | (s, m) :: rest => if s = status then (s, m + n) :: rest else (s, m) :: add status n rest

/-- The counts of status texts, those of one status taken together. -/
def ofTexts (counts : List (String × Int)) : StatusCounts :=
  counts.foldl (fun acc (text, n) => add (.ofText text) n acc) []

end StatusCounts

inductive Request where
  | createFeature (row : NewFeature)
  | findFeature (id : Id)
  | findFeatureBySlug (slug : String)
  | upsertFeature (row : NewFeature)
  | createPackage (row : NewPackage)
  | findPackage (id : Id)
  | findPackageBySlug (slug : String)
  | upsertPackage (row : NewPackage)
  | listActivePackages
  | syncFeatures (packageId : Id) (rows : List NewGrant)
  | listFeatures (packageId : Id)
  | createSubscription (row : NewSubscription) (items : List ItemSeed)
  | switchPlan (id : Id) (changes : SubscriptionChanges) (row : NewSubscription)
      (items : List ItemSeed)
  | updateSubscription (id : Id) (changes : SubscriptionChanges)
  | findSubscription (id : Id)
  | findValidSubscription (subscriber : Subscriber)
  | hasValidSubscription (subscriber : Subscriber) (packageSlug : Option String)
  | findResumable (subscriber : Subscriber) (now : Instant)
  | listSubscriptions (subscriber : Subscriber)
  | listExpiring (date : Date) (autoRenew : Option Bool)
  | countSubscriptions
  | countActive
  | countByStatus
  | countChurned (since : Instant)
  | countInPeriod (since now : Instant)
  | listCreated (since : Instant)
  | listCancelled (since : Instant)
  | listLifetimes (since now : Instant)
  | listPricedSubscriptions
  | findItem (subscriptionId : Id) (featureSlug : String)
  | listItems (subscriptionId : Id)
  | incrementUsage (id : Id) (amount : Decimal) (limit : Option Decimal)
  | resetUsage (id : Id)
  | resetAllUsage (subscriptionId : Id)
  | createUsageLog (row : NewUsageLog)
  | listUsageLogs (subscriptionId featureId : Id) (since : Instant)
  | createInvoice (row : NewInvoice)
  | findInvoice (id : Id)
  | listInvoices (subscriptionIds : List Id)
  | hasPendingInvoice (subscriptionId : Id)
  | setInvoiceStatus (id : Id) (status : InvoiceStatus)
  | markInvoicePaid (id : Id) (paidAt : Instant)
  | countPendingInvoices
  | countOverdueInvoices (now : Instant)
  | totalRevenue
  | listPaid (since : Instant)
  | listPackageInvoices
  | createTransaction (row : NewTransaction)
  | findTransaction (id : Id)
  | listTransactions (invoiceId : Id)
  | setTransactionStatus (id : Id) (status : TransactionStatus) (gatewayResponse : Option Json)
  | recordRefund (id : Id) (amount : Decimal) (reason : Option String) (refundedAt : Instant)

namespace Request

@[reducible] def Reply : Request → Type
  | createFeature _ | upsertFeature _ => Feature
  | findFeature _ | findFeatureBySlug _ => Option Feature
  | createPackage _ | upsertPackage _ => Package
  | findPackage _ | findPackageBySlug _ => Option Package
  | listActivePackages => List Package
  | syncFeatures .. => Unit
  | listFeatures _ => List GrantedFeature
  | createSubscription .. | updateSubscription .. => Subscription
  | switchPlan .. => Subscription × Subscription
  | findSubscription _ | findValidSubscription _ | findResumable .. => Option Subscription
  | hasValidSubscription .. | hasPendingInvoice _ => Bool
  | listSubscriptions _ | listExpiring .. => List Subscription
  | countSubscriptions | countActive | countChurned _ | countInPeriod .. => Int
  | countPendingInvoices | countOverdueInvoices _ => Int
  | countByStatus => StatusCounts
  | listCreated _ | listCancelled _ => List Instant
  | listLifetimes .. => List Lifetime
  | listPricedSubscriptions => List PricedSubscription
  | findItem .. => Option (SubscriptionItem × Feature)
  | listItems _ => List (SubscriptionItem × Feature)
  | incrementUsage .. => Option Decimal
  | resetUsage _ => Unit
  | resetAllUsage _ => Nat
  | createUsageLog _ => UsageLog
  | listUsageLogs .. => List UsageLog
  | createInvoice _ | setInvoiceStatus .. | markInvoicePaid .. => Invoice
  | findInvoice _ => Option Invoice
  | listInvoices _ => List Invoice
  | totalRevenue => Decimal
  | listPaid _ => List PaidInvoice
  | listPackageInvoices => List PackageInvoice
  | createTransaction _ | setTransactionStatus .. | recordRefund .. => Transaction
  | findTransaction _ => Option Transaction
  | listTransactions _ => List Transaction

/-- The name under which the request is recorded. -/
def name : Request → String
  | createFeature _ => "features.create"
  | findFeature _ => "features.find_by_id"
  | findFeatureBySlug _ => "features.find_by_slug"
  | upsertFeature _ => "features.upsert_by_slug"
  | createPackage _ => "packages.create"
  | findPackage _ => "packages.find_by_id"
  | findPackageBySlug _ => "packages.find_by_slug"
  | upsertPackage _ => "packages.upsert_by_slug"
  | listActivePackages => "packages.list_active"
  | syncFeatures .. => "packages.sync_features"
  | listFeatures _ => "packages.list_features"
  | createSubscription .. => "subscriptions.create_with_items"
  | switchPlan .. => "subscriptions.switch_plan"
  | updateSubscription .. => "subscriptions.update"
  | findSubscription _ => "subscriptions.find_by_id"
  | findValidSubscription _ => "subscriptions.find_valid_for_subscriber"
  | hasValidSubscription .. => "subscriptions.subscriber_has_valid_subscription"
  | findResumable .. => "subscriptions.find_cancelled_resumable"
  | listSubscriptions _ => "subscriptions.list_for_subscriber"
  | listExpiring .. => "subscriptions.get_expiring_subscriptions"
  | countSubscriptions => "subscriptions.total_count"
  | countActive => "subscriptions.active_count"
  | countByStatus => "subscriptions.count_by_status"
  | countChurned _ => "subscriptions.churned_count"
  | countInPeriod .. => "subscriptions.total_count_in_period"
  | listCreated _ => "subscriptions.created_since"
  | listCancelled _ => "subscriptions.cancelled_since"
  | listLifetimes .. => "subscriptions.lifetimes_since"
  | listPricedSubscriptions => "subscriptions.package_rows"
  | findItem .. => "subscription_items.find_by_feature_slug"
  | listItems _ => "subscription_items.list_for_subscription"
  | incrementUsage .. => "subscription_items.increment_usage"
  | resetUsage _ => "subscription_items.reset_usage"
  | resetAllUsage _ => "subscription_items.reset_all_usage"
  | createUsageLog _ => "usage_logs.create"
  | listUsageLogs .. => "usage_logs.list_since"
  | createInvoice _ => "invoices.create"
  | findInvoice _ => "invoices.find_by_id"
  | listInvoices _ => "invoices.find_by_subscription_ids"
  | hasPendingInvoice _ => "invoices.has_pending_for_subscription"
  | setInvoiceStatus .. => "invoices.update_status"
  | markInvoicePaid .. => "invoices.mark_paid"
  | countPendingInvoices => "invoices.pending_count"
  | countOverdueInvoices _ => "invoices.overdue_count"
  | totalRevenue => "invoices.total_revenue"
  | listPaid _ => "invoices.paid_since"
  | listPackageInvoices => "invoices.package_rows"
  | createTransaction _ => "transactions.create"
  | findTransaction _ => "transactions.find_by_id"
  | listTransactions _ => "transactions.list_for_invoice"
  | setTransactionStatus .. => "transactions.update_status"
  | recordRefund .. => "transactions.record_refund"

/-- The identifier by which one request of its name is told from another. -/
def key? : Request → Option Id
  | findFeature id | findPackage id | syncFeatures id _ | listFeatures id | switchPlan id ..
  | updateSubscription id _ | findSubscription id | findItem id _ | listItems id
  | incrementUsage id .. | resetUsage id | resetAllUsage id | listUsageLogs id ..
  | findInvoice id | hasPendingInvoice id | setInvoiceStatus id _ | markInvoicePaid id _
  | findTransaction id | listTransactions id | setTransactionStatus id .. | recordRefund id .. =>
    some id
  | findValidSubscription s | hasValidSubscription s _ | findResumable s _ | listSubscriptions s =>
    some s.id
  | createUsageLog row => some row.subscriptionId
  | createInvoice row => some row.subscriptionId
  | createTransaction row => some row.invoiceId
  | _ => none

end Request

end RecurringBilling
