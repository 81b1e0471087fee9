import RecurringBilling.Procedure
import RecurringBilling.Invoice.Number

/-!
Invoices of subscriptions, and the payments and refunds of invoices.
-/

namespace RecurringBilling

/-- An invoice to issue. One without a number, or with a blank one, takes the next number. -/
structure InvoiceDraft where
  subscriptionId : Id
  invoiceNumber : Option String
  amount : Decimal
  currency : String
  status : InvoiceStatus
  issuedAt : Instant
  dueDate : Option Instant
  notes : Option String

/-- An attempt at a payment to record. -/
structure TransactionDraft where
  gateway : String
  transactionId : Option String
  amount : Decimal
  status : TransactionStatus
  gatewayResponse : Option Json
  metadata : Option Json

namespace Invoicing

open Procedure

def target : String := "application::usecases::billing"

def create (draft : InvoiceDraft) : Procedure Invoice := do
  let number ← match draft.invoiceNumber.filter fun n => (Text.nonBlank? n).isSome with
    | some number => pure number
    | none => invoiceNumber
  let row : NewInvoice :=
    { subscriptionId := draft.subscriptionId
      invoiceNumber := number
      amount := draft.amount
      currency := draft.currency
      status := draft.status.word
      issuedAt := draft.issuedAt
      dueDate := draft.dueDate
      paidAt := none
      notes := draft.notes }
  let invoice ← requestOr (.createInvoice row) fun e =>
    log .error target "billing: failed to create invoice"
      [("subscription_id", .ofId draft.subscriptionId), ("db_error", .shown e.report)]
  log .info target "billing: invoice issued"
    [("invoice_id", .ofId invoice.id), ("invoice_number", .shown invoice.invoiceNumber),
      ("subscription_id", .ofId invoice.subscriptionId), ("amount", .shown invoice.amount.text),
      ("currency", .shown invoice.currency)]
  return invoice

/-- Issues a pending invoice over the package's price, or another amount, in its currency. -/
def generate (dueDays : Nat) (subscription : Subscription) (amount : Option Decimal) :
    Procedure Invoice := do
  let some package ← request (.findPackage subscription.packageId)
    | .fail (.packageOfSubscriptionNotFound subscription.id subscription.packageId)
  let issuedAt ← now
  create
    { subscriptionId := subscription.id
      invoiceNumber := none
      amount := amount.getD package.price
      currency := package.currency
      status := .pending
      issuedAt := issuedAt
      dueDate := issuedAt.addDays? dueDays
      notes := none }

def find (id : Id) : Procedure Invoice := do
  match ← request (.findInvoice id) with
  | some invoice => return invoice
  | none => .fail (.invoiceNotFound id)

/-- Marks an invoice as paid now; one that is paid is left as it is. -/
def markPaid (invoice : Invoice) : Procedure Invoice := do
  if invoice.isPaid then return invoice
  let paid ← requestOr (.markInvoicePaid invoice.id (← now)) fun e =>
    log .error target "billing: failed to mark invoice paid"
      [("invoice_id", .ofId invoice.id), ("db_error", .shown e.report)]
  log .info target "billing: invoice paid"
    [("invoice_id", .ofId paid.id), ("paid_at", .ofInstant? paid.paidAt)]
  return paid

def markVoid (invoice : Invoice) : Procedure Invoice := do
  let voided ← requestOr (.setInvoiceStatus invoice.id .void) fun e =>
    log .error target "billing: failed to void invoice"
      [("invoice_id", .ofId invoice.id), ("db_error", .shown e.report)]
  log .info target "billing: invoice voided" [("invoice_id", .ofId voided.id)]
  return voided

/-- The invoices of every subscription that the subscriber ever held, the newest first. -/
def listFor (subscriber : Subscriber) : Procedure (List Invoice) := do
  let subscriptions ← request (.listSubscriptions subscriber)
  if subscriptions.isEmpty then return []
  request (.listInvoices (subscriptions.map (·.id)))

def hasPending (subscription : Subscription) : Procedure Bool :=
  request (.hasPendingInvoice subscription.id)

/-- Records an attempt to pay an invoice, in its currency. -/
def recordTransaction (invoice : Invoice) (draft : TransactionDraft) : Procedure Transaction := do
  let row : NewTransaction :=
    { invoiceId := invoice.id
      gateway := draft.gateway
      transactionId := draft.transactionId
      amount := draft.amount
      currency := invoice.currency
      status := draft.status.word
      gatewayResponse := draft.gatewayResponse
      metadata := draft.metadata }
  let transaction ← requestOr (.createTransaction row) fun e =>
    log .error target "billing: failed to record transaction"
      [("invoice_id", .ofId invoice.id), ("db_error", .shown e.report)]
  log .info target "billing: transaction recorded"
    [("invoice_id", .ofId invoice.id), ("transaction_id", .ofId transaction.id),
      ("gateway", .shown transaction.gateway), ("status", .shown transaction.status)]
  return transaction

def setTransactionStatus (transaction : Transaction) (status : TransactionStatus)
    (gatewayResponse : Option Json) : Procedure Transaction := do
  let updated ← request (.setTransactionStatus transaction.id status gatewayResponse)
  log .info target "billing: transaction status updated"
    [("transaction_id", .ofId updated.id), ("status", .shown updated.status)]
  return updated

def findTransaction (id : Id) : Procedure Transaction := do
  match ← request (.findTransaction id) with
  | some transaction => return transaction
  | none => .fail (.transactionNotFound id)

def listTransactions (invoice : Invoice) : Procedure (List Transaction) :=
  request (.listTransactions invoice.id)

/-- Refunds a positive amount that the transaction's own covers. -/
def refund (transaction : Transaction) (amount : Decimal) (reason : Option String) :
    Procedure Transaction := do
  if amount ≤ 0 then .fail .nonPositiveRefund
  else if transaction.amount < amount then
    log .warn target "billing: refund rejected"
      [("transaction_id", .ofId transaction.id), ("requested", .shown amount.text),
        ("available", .shown transaction.amount.text)]
    .fail (.refundExceedsAmount amount transaction.amount)
  else
    let refunded ← requestOr (.recordRefund transaction.id amount reason (← now)) fun e =>
      log .error target "billing: failed to record refund"
        [("transaction_id", .ofId transaction.id), ("db_error", .shown e.report)]
    log .info target "billing: transaction refunded"
      [("transaction_id", .ofId refunded.id),
        ("refunded_amount", .ofOption Decimal.text refunded.refundedAmount)]
    return refunded

end Invoicing

end RecurringBilling
