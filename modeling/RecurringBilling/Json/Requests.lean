import RecurringBilling.Json.Records
import RecurringBilling.Json.Shown

/-!
Requests to the storage in JSON: by what arguments a request is recorded, how one is read from its
name and arguments, and the form of its reply.
-/

namespace RecurringBilling

namespace Request

/-- The arguments of a request by name. -/
def arguments : Request → List (String × Json)
  | createFeature row | upsertFeature row => [("row", shown row.cells)]
  | findFeature id | findPackage id | findSubscription id | resetUsage id | findInvoice id
  | hasPendingInvoice id | findTransaction id => [("id", shown id)]
  | findFeatureBySlug slug | findPackageBySlug slug => [("slug", shown slug)]
  | createPackage row | upsertPackage row => [("row", shown row.cells)]
  | syncFeatures packageId rows =>
    [("package_id", shown packageId), ("rows", shown (rows.map NewGrant.cells))]
  | listFeatures packageId => [("package_id", shown packageId)]
  | createSubscription row items => [("row", shown row.cells), ("items", shown items)]
  | switchPlan id changes row items =>
    [("id", shown id), ("changes", shown changes), ("row", shown row.cells),
      ("items", shown items)]
  | updateSubscription id changes => [("id", shown id), ("changes", shown changes)]
  | findValidSubscription s | listSubscriptions s => [("subscriber", shown s)]
  | hasValidSubscription s slug => [("subscriber", shown s), ("package_slug", shown slug)]
  | findResumable s now => [("subscriber", shown s), ("now", shown now)]
  | listExpiring date autoRenew => [("date", shown date), ("auto_renew", shown autoRenew)]
  | listActivePackages | countSubscriptions | countActive | countByStatus
  | listPricedSubscriptions | countPendingInvoices | totalRevenue | listPackageInvoices => []
  | countChurned since | listCreated since | listCancelled since | listPaid since =>
    [("since", shown since)]
  | countInPeriod since now | listLifetimes since now =>
    [("since", shown since), ("now", shown now)]
  | findItem id slug => [("subscription_id", shown id), ("slug", shown slug)]
  | listItems id | resetAllUsage id => [("subscription_id", shown id)]
  | incrementUsage id amount limit =>
    [("id", shown id), ("amount", shown amount), ("limit", shown limit)]
  | createUsageLog row => [("row", shown row.cells)]
  | listUsageLogs subscriptionId featureId since =>
    [("subscription_id", shown subscriptionId), ("feature_id", shown featureId),
      ("since", shown since)]
  | createInvoice row => [("row", shown row.cells)]
  | listInvoices ids => [("ids", shown ids)]
  | setInvoiceStatus id status => [("id", shown id), ("status", shown status)]
  | markInvoicePaid id paidAt => [("id", shown id), ("paid_at", shown paidAt)]
  | countOverdueInvoices now => [("now", shown now)]
  | createTransaction row => [("row", shown row.cells)]
  | listTransactions id => [("invoice_id", shown id)]
  | setTransactionStatus id status response =>
    [("id", shown id), ("status", shown status), ("gateway_response", shown response)]
  | recordRefund id amount reason refundedAt =>
    [("id", shown id), ("amount", shown amount), ("reason", shown reason),
      ("refunded_at", shown refundedAt)]

/-- The form of a reply to a request. -/
def shownReply : (r : Request) → r.Reply → Json
  | createFeature _, a | upsertFeature _, a => shown (α := Feature) a
  | findFeature _, a | findFeatureBySlug _, a => shown (α := Option Feature) a
  | createPackage _, a | upsertPackage _, a => shown (α := Package) a
  | findPackage _, a | findPackageBySlug _, a => shown (α := Option Package) a
  | listActivePackages, a => shown a
  | syncFeatures .., a => shown a
  | listFeatures _, a => shown a
  | createSubscription .., a | updateSubscription .., a => shown (α := Subscription) a
  | switchPlan .., a => shown a
  | findSubscription _, a | findValidSubscription _, a | findResumable .., a =>
    shown (α := Option Subscription) a
  | hasValidSubscription .., a | hasPendingInvoice _, a => shown (α := Bool) a
  | listSubscriptions _, a | listExpiring .., a => shown (α := List Subscription) a
  | countSubscriptions, a | countActive, a | countChurned _, a | countInPeriod .., a
  | countPendingInvoices, a | countOverdueInvoices _, a => shown (α := Int) a
  | countByStatus, a => shown a
  | listCreated _, a | listCancelled _, a => shown (α := List Instant) a
  | listLifetimes .., a => shown a
  | listPricedSubscriptions, a => shown a
  | findItem .., a => shown a
  | listItems _, a => shown a
  | incrementUsage .., a => shown a
  | resetUsage _, a => shown a
  | resetAllUsage _, a => shown a
  | createUsageLog _, a => shown a
  | listUsageLogs .., a => shown a
  | createInvoice _, a | setInvoiceStatus .., a | markInvoicePaid .., a => shown (α := Invoice) a
  | findInvoice _, a => shown a
  | listInvoices _, a => shown a
  | totalRevenue, a => shown a
  | listPaid _, a => shown a
  | listPackageInvoices, a => shown a
  | createTransaction _, a | setTransactionStatus .., a | recordRefund .., a =>
    shown (α := Transaction) a
  | findTransaction _, a => shown a
  | listTransactions _, a => shown a

end Request

namespace Json

def seeds? (j : Json) : Option (List ItemSeed) := j.orElse "items" (list? seed?) []

/-- Reads a request to packages or features. -/
def catalogRequest? (name : String) (j : Json) : Option Request := do
  match name with
  | "features.create" => return .createFeature (← j.need "row" newFeature?)
  | "features.find_by_id" => return .findFeature (← j.need "id" id?)
  | "features.find_by_slug" => return .findFeatureBySlug (← j.need "slug" string?)
  | "features.upsert_by_slug" => return .upsertFeature (← j.need "row" newFeature?)
  | "packages.create" => return .createPackage (← j.need "row" newPackage?)
  | "packages.find_by_id" => return .findPackage (← j.need "id" id?)
  | "packages.find_by_slug" => return .findPackageBySlug (← j.need "slug" string?)
  | "packages.upsert_by_slug" => return .upsertPackage (← j.need "row" newPackage?)
  | "packages.list_active" => return .listActivePackages
  | "packages.sync_features" =>
    return .syncFeatures (← j.need "package_id" id?) (← j.need "rows" (list? newGrant?))
  | "packages.list_features" => return .listFeatures (← j.need "package_id" id?)
  | _ => none

/-- Reads a request to the subscriptions. -/
def subscriptionRequest? (now : Instant) (name : String) (j : Json) : Option Request := do
  match name with
  | "subscriptions.create_with_items" =>
    return .createSubscription (← j.need "row" newSubscription?) (← seeds? j)
  | "subscriptions.switch_plan" =>
    return .switchPlan (← j.need "id" id?) (← j.need "changes" (changes? now))
      (← j.need "row" newSubscription?) (← seeds? j)
  | "subscriptions.update" =>
    return .updateSubscription (← j.need "id" id?) (← j.need "changes" (changes? now))
  | "subscriptions.find_by_id" => return .findSubscription (← j.need "id" id?)
  | "subscriptions.find_valid_for_subscriber" =>
    return .findValidSubscription (← j.need "subscriber" subscriber?)
  | "subscriptions.subscriber_has_valid_subscription" =>
    return .hasValidSubscription (← j.need "subscriber" subscriber?)
      (← j.optional "slug" string?)
  | "subscriptions.find_cancelled_resumable" =>
    return .findResumable (← j.need "subscriber" subscriber?) (← j.need "at" instant?)
  | "subscriptions.list_for_subscriber" =>
    return .listSubscriptions (← j.need "subscriber" subscriber?)
  | "subscriptions.get_expiring_subscriptions" =>
    return .listExpiring (← j.need "date" date?) (← j.optional "auto_renew" bool?)
  | "subscriptions.total_count" => return .countSubscriptions
  | "subscriptions.active_count" => return .countActive
  | "subscriptions.count_by_status" => return .countByStatus
  | "subscriptions.churned_count" => return .countChurned (← j.need "since" instant?)
  | "subscriptions.total_count_in_period" =>
    return .countInPeriod (← j.need "since" instant?) (← j.need "at" instant?)
  | "subscriptions.created_since" => return .listCreated (← j.need "since" instant?)
  | "subscriptions.cancelled_since" => return .listCancelled (← j.need "since" instant?)
  | "subscriptions.lifetimes_since" =>
    return .listLifetimes (← j.need "since" instant?) (← j.need "at" instant?)
  | "subscriptions.package_rows" => return .listPricedSubscriptions
  | _ => none

/-- Reads a request to the items of subscriptions or the log of their use. -/
def usageRequest? (name : String) (j : Json) : Option Request := do
  match name with
  | "subscription_items.find_by_feature_slug" =>
    return .findItem (← j.need "id" id?) (← j.need "slug" string?)
  | "subscription_items.list_for_subscription" => return .listItems (← j.need "id" id?)
  | "subscription_items.increment_usage" =>
    return .incrementUsage (← j.need "id" id?) (← j.need "amount" decimal?)
      (← j.optional "limit" decimal?)
  | "subscription_items.reset_usage" => return .resetUsage (← j.need "id" id?)
  | "subscription_items.reset_all_usage" => return .resetAllUsage (← j.need "id" id?)
  | "usage_logs.create" => return .createUsageLog (← j.need "row" newUsageLog?)
  | "usage_logs.list_since" =>
    return .listUsageLogs (← j.need "subscription_id" id?) (← j.need "feature_id" id?)
      (← j.need "since" instant?)
  | _ => none

/-- Reads a request to invoices or transactions. -/
def invoiceRequest? (name : String) (j : Json) : Option Request := do
  match name with
  | "invoices.create" => return .createInvoice (← j.need "row" newInvoice?)
  | "invoices.find_by_id" => return .findInvoice (← j.need "id" id?)
  | "invoices.find_by_subscription_ids" => return .listInvoices (← j.need "ids" (list? id?))
  | "invoices.has_pending_for_subscription" => return .hasPendingInvoice (← j.need "id" id?)
  | "invoices.update_status" =>
    return .setInvoiceStatus (← j.need "id" id?) (← j.need "status" invoiceStatus?)
  | "invoices.mark_paid" =>
    return .markInvoicePaid (← j.need "id" id?) (← j.need "at" instant?)
  | "invoices.pending_count" => return .countPendingInvoices
  | "invoices.overdue_count" => return .countOverdueInvoices (← j.need "at" instant?)
  | "invoices.total_revenue" => return .totalRevenue
  | "invoices.paid_since" => return .listPaid (← j.need "since" instant?)
  | "invoices.package_rows" => return .listPackageInvoices
  | "transactions.create" => return .createTransaction (← j.need "row" newTransaction?)
  | "transactions.find_by_id" => return .findTransaction (← j.need "id" id?)
  | "transactions.list_for_invoice" => return .listTransactions (← j.need "id" id?)
  | "transactions.update_status" =>
    return .setTransactionStatus (← j.need "id" id?) (← j.need "status" transactionStatus?)
      (← j.optional "gateway_response" some)
  | "transactions.record_refund" =>
    return .recordRefund (← j.need "id" id?) (← j.need "amount" decimal?)
      (← j.optional "reason" string?) (← j.need "at" instant?)
  | _ => none

/-- A request of the given name; what it stamps itself is stamped with the given instant. -/
def request? (now : Instant) (name : String) (j : Json) : Option Request :=
  catalogRequest? name j <|> subscriptionRequest? now name j <|> usageRequest? name j <|>
    invoiceRequest? name j

end Json

end RecurringBilling
