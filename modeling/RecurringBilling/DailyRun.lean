import RecurringBilling.Invoicing
import RecurringBilling.Subscribing

/-!
The run of a day: subscriptions that end on the day are renewed or expired, each on its own, and a
failure with one of them is counted and left for the next run.
-/

namespace RecurringBilling

/-- What a run did. At most twenty subscriptions are named for each outcome. -/
structure RunReport where
  renewalsScanned : Nat := 0
  invoicesGenerated : Nat := 0
  cancelledPendingInvoice : Nat := 0
  renewalFailures : Nat := 0
  expirationsScanned : Nat := 0
  expired : Nat := 0
  expirationFailures : Nat := 0
  invoicedIds : List Id := []
  cancelledIds : List Id := []
  expiredIds : List Id := []
  failedIds : List Id := []
  /-- Set if the subscriptions to expire could not be listed after the renewals. -/
  expirationsIncomplete : Bool := false

namespace RunReport

def failures (r : RunReport) : Nat :=
  r.renewalFailures + r.expirationFailures + (if r.expirationsIncomplete then 1 else 0)

def remember (ids : List Id) (id : Id) : List Id :=
  if ids.length < 20 then ids ++ [id] else ids

end RunReport

namespace DailyRun

open Procedure RunReport

def target : String := "application::usecases::process_subscriptions"

def pendingInvoiceReason : String := "Auto-renewal failed: Pending invoice exists"

inductive RenewalOutcome where
  | invoiced
  | cancelled
  deriving DecidableEq

/-- Invoices the next cycle of a subscription, or cancels it if an invoice is still pending. -/
def renew (dueDays : Nat) (subscription : Subscription) : Procedure RenewalOutcome := do
  if ← Invoicing.hasPending subscription then
    let _ ← Subscribing.cancel subscription false (some pendingInvoiceReason)
    log .info target "process_subscriptions: cancelled; pending invoice exists"
      [("subscription_id", .ofId subscription.id)]
    return .cancelled
  let invoice ← Invoicing.generate dueDays subscription none
  log .info target "process_subscriptions: renewal invoice generated"
    [("subscription_id", .ofId subscription.id), ("invoice_id", .ofId invoice.id),
      ("invoice_number", .shown invoice.invoiceNumber)]
  return .invoiced

def renewOne (dueDays : Nat) (r : RunReport) (subscription : Subscription) :
    Procedure RunReport := do
  match ← (renew dueDays subscription).attempt with
  | .ok .invoiced =>
    return { r with
      invoicesGenerated := r.invoicesGenerated + 1
      invoicedIds := remember r.invoicedIds subscription.id }
  | .ok .cancelled =>
    return { r with
      cancelledPendingInvoice := r.cancelledPendingInvoice + 1
      cancelledIds := remember r.cancelledIds subscription.id }
  | .error e =>
    log .error target "process_subscriptions: failed to process renewal"
      [("subscription_id", .ofId subscription.id), ("error", .shown e.report)]
    return { r with
      renewalFailures := r.renewalFailures + 1
      failedIds := remember r.failedIds subscription.id }

def renewals (dueDays : Nat) (date : Date) (r : RunReport) : Procedure RunReport := do
  let listed ← request (.listExpiring date (some true))
  listed.foldlM (renewOne dueDays) { r with renewalsScanned := listed.length }

/-- Marks a subscription as expired, unless it is. -/
def expireOne (r : RunReport) (subscription : Subscription) : Procedure RunReport := do
  if subscription.statusOf = .expired then return r
  let changes : SubscriptionChanges :=
    { status := .set SubscriptionStatus.expired.word, updatedAt := ← now }
  match ← (request (.updateSubscription subscription.id changes)).attempt with
  | .ok _ =>
    log .info target "process_subscriptions: marked expired"
      [("subscription_id", .ofId subscription.id)]
    return { r with
      expired := r.expired + 1
      expiredIds := remember r.expiredIds subscription.id }
  | .error e =>
    log .error target "process_subscriptions: failed to process expiration"
      [("subscription_id", .ofId subscription.id), ("error", .shown e.report)]
    return { r with
      expirationFailures := r.expirationFailures + 1
      failedIds := remember r.failedIds subscription.id }

/-- The listing of the subscriptions to expire; it may fail before anything is done. -/
def expirations (date : Date) (r : RunReport) : Procedure RunReport := do
  let listed ← request (.listExpiring date (some false))
  listed.foldlM expireOne { r with expirationsScanned := listed.length }

def expirationsOrIncomplete (date : Date) (r : RunReport) : Procedure RunReport := do
  match ← (expirations date r).attempt with
  | .ok r => return r
  | .error e =>
    log .error target "process_subscriptions: failed to load expiring subscriptions"
      [("date", .ofDate date), ("error", .shown e.report)]
    return { r with expirationsIncomplete := true }

/-- Renews and expires. It fails only while nothing has been changed; once the renewals are done,
a listing that fails is put down in the report. -/
def run (dueDays : Nat) (date : Date) : Procedure RunReport := do
  log .info target "process_subscriptions: starting" [("date", .ofDate date)]
  let r ← renewals dueDays date {}
  let r ← expirationsOrIncomplete date r
  log .info target "process_subscriptions: completed"
    [("date", .ofDate date), ("renewals_scanned", .ofNat r.renewalsScanned),
      ("invoices_generated", .ofNat r.invoicesGenerated),
      ("cancelled_pending_invoice", .ofNat r.cancelledPendingInvoice),
      ("expirations_scanned", .ofNat r.expirationsScanned), ("expired", .ofNat r.expired),
      ("failures", .ofNat r.failures)]
  return r

/-- Expires alone. -/
def runExpirations (date : Date) : Procedure RunReport := do
  let r ← expirations date {}
  log .info target "process_subscriptions: expirations completed"
    [("date", .ofDate date), ("expirations_scanned", .ofNat r.expirationsScanned),
      ("expired", .ofNat r.expired), ("failures", .ofNat r.failures)]
  return r

end DailyRun

end RecurringBilling
