import RecurringBilling.Storage
import RecurringBilling.Table

/-!
Rows and their columns. A column that is not optional and holds null cannot be read.
-/

namespace RecurringBilling

namespace Cells

abbrev Reading (α : Type) := Except StorageError α

def text (c : Cells) (name : String) : Reading String :=
  match c.value name with
  | .text s => .ok s
  | _ => .error .unexpectedNull

def bool (c : Cells) (name : String) : Reading Bool :=
  match c.value name with
  | .bool b => .ok b
  | _ => .error .unexpectedNull

def int (c : Cells) (name : String) : Reading Int :=
  match c.value name with
  | .int n => .ok n
  | _ => .error .unexpectedNull

def id (c : Cells) (name : String) : Reading Id :=
  match c.value name with
  | .id i => .ok i
  | _ => .error .unexpectedNull

def instant (c : Cells) (name : String) : Reading Instant :=
  match c.value name with
  | .instant t => .ok t
  | _ => .error .unexpectedNull

def decimal (c : Cells) (name : String) : Reading Decimal :=
  match c.value name with
  | .decimal d => .ok d
  | _ => .error .unexpectedNull

def text? (c : Cells) (name : String) : Option String := (c.text name).toOption

def instant? (c : Cells) (name : String) : Option Instant := (c.instant name).toOption

def decimal? (c : Cells) (name : String) : Option Decimal := (c.decimal name).toOption

def json? (c : Cells) (name : String) : Option Json :=
  match c.value name with
  | .json j => some j
  | _ => none

end Cells

def NewFeature.cells (r : NewFeature) : Cells :=
  [("slug", .text r.slug), ("name", .text r.name), ("description", .ofOption .text r.description),
    ("type", .text r.typeWord), ("is_active", .bool r.isActive), ("sort_order", .int r.sortOrder),
    ("metadata", .ofOption .json r.metadata)]

def NewFeature.ofCells (c : Cells) : Cells.Reading NewFeature := do
  return {
    slug := ← c.text "slug"
    name := ← c.text "name"
    description := c.text? "description"
    typeWord := ← c.text "type"
    isActive := ← c.bool "is_active"
    sortOrder := ← c.int "sort_order"
    metadata := c.json? "metadata" }

def Feature.cells (r : Feature) : Cells :=
  ("id", .id r.id) :: r.toNewFeature.cells ++
    [("created_at", .instant r.createdAt), ("updated_at", .instant r.updatedAt),
     ("deleted_at", .ofOption .instant r.deletedAt)]

def Feature.ofCells (c : Cells) : Cells.Reading Feature := do
  return { (← NewFeature.ofCells c) with
    id := ← c.id "id"
    createdAt := ← c.instant "created_at"
    updatedAt := ← c.instant "updated_at"
    deletedAt := c.instant? "deleted_at" }

def NewPackage.cells (r : NewPackage) : Cells :=
  [("slug", .text r.slug), ("name", .text r.name), ("description", .ofOption .text r.description),
    ("price", .decimal r.price), ("original_price", .ofOption .decimal r.originalPrice),
    ("currency", .text r.currency), ("billing_period", .text r.periodWord),
    ("billing_interval", .int r.billingInterval), ("trial_days", .int r.trialDays),
    ("is_active", .bool r.isActive), ("is_featured", .bool r.isFeatured),
    ("sort_order", .int r.sortOrder), ("metadata", .ofOption .json r.metadata)]

def NewPackage.ofCells (c : Cells) : Cells.Reading NewPackage := do
  return {
    slug := ← c.text "slug"
    name := ← c.text "name"
    description := c.text? "description"
    price := ← c.decimal "price"
    originalPrice := c.decimal? "original_price"
    currency := ← c.text "currency"
    periodWord := ← c.text "billing_period"
    billingInterval := ← c.int "billing_interval"
    trialDays := ← c.int "trial_days"
    isActive := ← c.bool "is_active"
    isFeatured := ← c.bool "is_featured"
    sortOrder := ← c.int "sort_order"
    metadata := c.json? "metadata" }

def Package.cells (r : Package) : Cells :=
  ("id", .id r.id) :: r.toNewPackage.cells ++
    [("created_at", .instant r.createdAt), ("updated_at", .instant r.updatedAt),
     ("deleted_at", .ofOption .instant r.deletedAt)]

def Package.ofCells (c : Cells) : Cells.Reading Package := do
  return { (← NewPackage.ofCells c) with
    id := ← c.id "id"
    createdAt := ← c.instant "created_at"
    updatedAt := ← c.instant "updated_at"
    deletedAt := c.instant? "deleted_at" }

def NewGrant.cells (r : NewGrant) : Cells :=
  [("package_id", .id r.packageId), ("feature_id", .id r.featureId),
    ("value", .ofOption .text r.value), ("is_available", .bool r.isAvailable),
    ("sort_order", .int r.sortOrder)]

def NewGrant.ofCells (c : Cells) : Cells.Reading NewGrant := do
  return {
    packageId := ← c.id "package_id"
    featureId := ← c.id "feature_id"
    value := c.text? "value"
    isAvailable := ← c.bool "is_available"
    sortOrder := ← c.int "sort_order" }

def Grant.cells (r : Grant) : Cells :=
  r.toNewGrant.cells ++
    [("created_at", .instant r.createdAt), ("updated_at", .instant r.updatedAt)]

def Grant.ofCells (c : Cells) : Cells.Reading Grant := do
  return { (← NewGrant.ofCells c) with
    createdAt := ← c.instant "created_at"
    updatedAt := ← c.instant "updated_at" }

def NewSubscription.cells (r : NewSubscription) : Cells :=
  [("subscriber_type", .text r.subscriberType), ("subscriber_id", .id r.subscriberId),
    ("package_id", .id r.packageId), ("status", .text r.status),
    ("starts_at", .instant r.startsAt), ("ends_at", .ofOption .instant r.endsAt),
    ("trial_ends_at", .ofOption .instant r.trialEndsAt),
    ("cancelled_at", .ofOption .instant r.cancelledAt),
    ("cancellation_reason", .ofOption .text r.cancellationReason),
    ("auto_renew", .bool r.autoRenew), ("metadata", .ofOption .json r.metadata)]

def NewSubscription.ofCells (c : Cells) : Cells.Reading NewSubscription := do
  return {
    subscriberType := ← c.text "subscriber_type"
    subscriberId := ← c.id "subscriber_id"
    packageId := ← c.id "package_id"
    status := ← c.text "status"
    startsAt := ← c.instant "starts_at"
    endsAt := c.instant? "ends_at"
    trialEndsAt := c.instant? "trial_ends_at"
    cancelledAt := c.instant? "cancelled_at"
    cancellationReason := c.text? "cancellation_reason"
    autoRenew := ← c.bool "auto_renew"
    metadata := c.json? "metadata" }

def Subscription.cells (r : Subscription) : Cells :=
  ("id", .id r.id) :: r.toNewSubscription.cells ++
    [("created_at", .instant r.createdAt), ("updated_at", .instant r.updatedAt),
     ("deleted_at", .ofOption .instant r.deletedAt)]

def Subscription.ofCells (c : Cells) : Cells.Reading Subscription := do
  return { (← NewSubscription.ofCells c) with
    id := ← c.id "id"
    createdAt := ← c.instant "created_at"
    updatedAt := ← c.instant "updated_at"
    deletedAt := c.instant? "deleted_at" }

def NewSubscriptionItem.cells (r : NewSubscriptionItem) : Cells :=
  [("subscription_id", .id r.subscriptionId), ("feature_id", .id r.featureId),
    ("value", .ofOption .text r.value), ("usage", .decimal r.usage)]

def NewSubscriptionItem.ofCells (c : Cells) : Cells.Reading NewSubscriptionItem := do
  return {
    subscriptionId := ← c.id "subscription_id"
    featureId := ← c.id "feature_id"
    value := c.text? "value"
    usage := ← c.decimal "usage" }

def SubscriptionItem.cells (r : SubscriptionItem) : Cells :=
  ("id", .id r.id) :: r.toNewSubscriptionItem.cells ++
    [("created_at", .instant r.createdAt), ("updated_at", .instant r.updatedAt)]

def SubscriptionItem.ofCells (c : Cells) : Cells.Reading SubscriptionItem := do
  return { (← NewSubscriptionItem.ofCells c) with
    id := ← c.id "id"
    createdAt := ← c.instant "created_at"
    updatedAt := ← c.instant "updated_at" }

def NewUsageLog.cells (r : NewUsageLog) : Cells :=
  [("subscription_id", .id r.subscriptionId), ("feature_id", .id r.featureId),
    ("amount", .decimal r.amount), ("description", .ofOption .text r.description),
    ("metadata", .ofOption .json r.metadata)]

def NewUsageLog.ofCells (c : Cells) : Cells.Reading NewUsageLog := do
  return {
    subscriptionId := ← c.id "subscription_id"
    featureId := ← c.id "feature_id"
    amount := ← c.decimal "amount"
    description := c.text? "description"
    metadata := c.json? "metadata" }

def UsageLog.cells (r : UsageLog) : Cells :=
  ("id", .id r.id) :: r.toNewUsageLog.cells ++
    [("created_at", .instant r.createdAt)]

def UsageLog.ofCells (c : Cells) : Cells.Reading UsageLog := do
  return { (← NewUsageLog.ofCells c) with
    id := ← c.id "id"
    createdAt := ← c.instant "created_at" }

def NewInvoice.cells (r : NewInvoice) : Cells :=
  [("subscription_id", .id r.subscriptionId), ("invoice_number", .text r.invoiceNumber),
    ("amount", .decimal r.amount), ("currency", .text r.currency), ("status", .text r.status),
    ("issued_at", .instant r.issuedAt), ("due_date", .ofOption .instant r.dueDate),
    ("paid_at", .ofOption .instant r.paidAt), ("notes", .ofOption .text r.notes)]

def NewInvoice.ofCells (c : Cells) : Cells.Reading NewInvoice := do
  return {
    subscriptionId := ← c.id "subscription_id"
    invoiceNumber := ← c.text "invoice_number"
    amount := ← c.decimal "amount"
    currency := ← c.text "currency"
    status := ← c.text "status"
    issuedAt := ← c.instant "issued_at"
    dueDate := c.instant? "due_date"
    paidAt := c.instant? "paid_at"
    notes := c.text? "notes" }

def Invoice.cells (r : Invoice) : Cells :=
  ("id", .id r.id) :: r.toNewInvoice.cells ++
    [("created_at", .instant r.createdAt), ("updated_at", .instant r.updatedAt),
     ("deleted_at", .ofOption .instant r.deletedAt)]

def Invoice.ofCells (c : Cells) : Cells.Reading Invoice := do
  return { (← NewInvoice.ofCells c) with
    id := ← c.id "id"
    createdAt := ← c.instant "created_at"
    updatedAt := ← c.instant "updated_at"
    deletedAt := c.instant? "deleted_at" }

def NewTransaction.cells (r : NewTransaction) : Cells :=
  [("invoice_id", .id r.invoiceId), ("gateway", .text r.gateway),
    ("transaction_id", .ofOption .text r.transactionId), ("amount", .decimal r.amount),
    ("currency", .text r.currency), ("status", .text r.status),
    ("gateway_response", .ofOption .json r.gatewayResponse),
    ("metadata", .ofOption .json r.metadata)]

def NewTransaction.ofCells (c : Cells) : Cells.Reading NewTransaction := do
  return {
    invoiceId := ← c.id "invoice_id"
    gateway := ← c.text "gateway"
    transactionId := c.text? "transaction_id"
    amount := ← c.decimal "amount"
    currency := ← c.text "currency"
    status := ← c.text "status"
    gatewayResponse := c.json? "gateway_response"
    metadata := c.json? "metadata" }

def Transaction.cells (r : Transaction) : Cells :=
  ("id", .id r.id) :: r.toNewTransaction.cells ++
    [("refunded_amount", .ofOption .decimal r.refundedAmount),
     ("refunded_at", .ofOption .instant r.refundedAt),
     ("refund_reason", .ofOption .text r.refundReason), ("created_at", .instant r.createdAt),
     ("updated_at", .instant r.updatedAt)]

def Transaction.ofCells (c : Cells) : Cells.Reading Transaction := do
  return { (← NewTransaction.ofCells c) with
    id := ← c.id "id"
    refundedAmount := c.decimal? "refunded_amount"
    refundedAt := c.instant? "refunded_at"
    refundReason := c.text? "refund_reason"
    createdAt := ← c.instant "created_at"
    updatedAt := ← c.instant "updated_at" }

end RecurringBilling
