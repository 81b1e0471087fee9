import RecurringBilling.Settings
import RecurringBilling.Table.Rows

/-!
Records of the billing read from JSON: rows and new rows with the fallbacks of their tables, seeds
of items, changes, events and settings.
-/

namespace RecurringBilling.Json

def row? {α : Type} (t : Table) (read : Cells → Cells.Reading α) (j : Json) : Option α :=
  (t.read? j).bind fun cells => (read cells).toOption

def newRow? {α : Type} (t : Table) (read : Cells → Cells.Reading α) (j : Json) : Option α :=
  (t.readNew? j).bind fun cells => (read cells).toOption

def feature? : Json → Option Feature := row? .features Feature.ofCells
def package? : Json → Option Package := row? .packages Package.ofCells
def grant? : Json → Option Grant := row? .packageFeatures Grant.ofCells
def subscription? : Json → Option Subscription := row? .subscriptions Subscription.ofCells
def item? : Json → Option SubscriptionItem := row? .subscriptionItems SubscriptionItem.ofCells
def usageLog? : Json → Option UsageLog := row? .usageLogs UsageLog.ofCells
def invoice? : Json → Option Invoice := row? .invoices Invoice.ofCells
def transaction? : Json → Option Transaction := row? .transactions Transaction.ofCells

def newFeature? : Json → Option NewFeature := newRow? .features NewFeature.ofCells
def newPackage? : Json → Option NewPackage := newRow? .packages NewPackage.ofCells
def newGrant? : Json → Option NewGrant := newRow? .packageFeatures NewGrant.ofCells
def newSubscription? : Json → Option NewSubscription :=
  newRow? .subscriptions NewSubscription.ofCells
def newUsageLog? : Json → Option NewUsageLog := newRow? .usageLogs NewUsageLog.ofCells
def newInvoice? : Json → Option NewInvoice := newRow? .invoices NewInvoice.ofCells
def newTransaction? : Json → Option NewTransaction := newRow? .transactions NewTransaction.ofCells

def seed? (j : Json) : Option ItemSeed := do
  return ⟨← j.need "feature_id" id?, ← j.optional "value" string?⟩

/-- A subscriber given by kind and identifier. -/
def subscriber? : Json → Option Subscriber
  | array [string kind, id] => do return ⟨← SubscriberKind.ofWord? kind, ← id.id?⟩
  | _ => none

def period? (j : Json) : Option BillingPeriod := j.string?.bind BillingPeriod.ofWord?

def featureType? (j : Json) : Option FeatureType := j.string?.bind FeatureType.ofWord?

def invoiceStatus? (j : Json) : Option InvoiceStatus := j.string?.bind InvoiceStatus.ofWord?

def transactionStatus? (j : Json) : Option TransactionStatus :=
  j.string?.bind TransactionStatus.ofWord?

variable {α : Type}

/-- A column that is changed if it is there, null included. -/
def nullable (j : Json) (name : String) (read : Json → Option α) :
    Option (Change (Option α)) :=
  match j.get? name with
  | none => some .keep
  | some null => some (.set none)
  | some v => (read v).map fun a => .set (some a)

def changed : Option α → Change α
  | some a => .set a
  | none => .keep

/-- Changes made at the given instant unless they name one. -/
def changes? (now : Instant) (j : Json) : Option SubscriptionChanges := do
  return {
    status := changed ((← j.optional "status" string?).map fun s =>
      (SubscriptionStatus.ofText s).word)
    endsAt := ← j.nullable "ends_at" instant?
    cancelledAt := ← j.nullable "cancelled_at" instant?
    cancellationReason := ← j.nullable "cancellation_reason" string?
    autoRenew := changed (← j.optional "auto_renew" bool?)
    updatedAt := ← j.orElse "now" instant? now }

def event? (j : Json) : Option BillingEvent := do
  match ← j.need "event" string? with
  | "subscription_created" => return .subscriptionCreated (← j.need "subscription" subscription?)
  | "usage_limit_warning" =>
    return .usageLimitWarning (← j.need "subscription" subscription?)
      (← j.need "feature" feature?) (← j.need "current_usage" decimal?)
      (← j.need "limit" decimal?)
  | _ => none

def settings? (j : Json) : Option BillingSettings := do
  let d : BillingSettings := {}
  return {
    currency := ← j.orElse "currency" string? d.currency
    invoicePrefix := ← j.orElse "invoice_prefix" string? d.invoicePrefix
    invoiceFormat := ← j.orElse "invoice_format" string? d.invoiceFormat
    invoiceDueDays := ← j.orElse "invoice_due_days" nat32? d.invoiceDueDays }

end RecurringBilling.Json
