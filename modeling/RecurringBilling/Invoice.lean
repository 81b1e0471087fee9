import RecurringBilling.Calendar
import RecurringBilling.Decimal
import RecurringBilling.Id
import RecurringBilling.Json

/-!
Invoices, and the transactions that pay or refund them.
-/

namespace RecurringBilling

inductive InvoiceStatus where
  | draft
  | pending
  | paid
  | void
  | refunded
  deriving DecidableEq

namespace InvoiceStatus

instance : Inhabited InvoiceStatus := ⟨pending⟩

def word : InvoiceStatus → String
  | draft => "draft"
  | pending => "pending"
  | paid => "paid"
  | void => "void"
  | refunded => "refunded"

def ofWord? : String → Option InvoiceStatus
  | "draft" => some draft
  | "pending" => some pending
  | "paid" => some paid
  | "void" => some void
  | "refunded" => some refunded
  | _ => none

end InvoiceStatus

/-- An invoice that is about to be stored. -/
structure NewInvoice where
  subscriptionId : Id
  invoiceNumber : String
  amount : Decimal
  currency : String
  status : String
  issuedAt : Instant
  dueDate : Option Instant
  paidAt : Option Instant
  notes : Option String

structure Invoice extends NewInvoice where
  id : Id
  createdAt : Instant
  updatedAt : Instant
  deletedAt : Option Instant

namespace Invoice

/-- The status, unless the stored word is unknown. -/
def status? (i : Invoice) : Option InvoiceStatus := InvoiceStatus.ofWord? i.status

def isPaid (i : Invoice) : Bool := i.status? == some .paid

def isPending (i : Invoice) : Bool := i.status? == some .pending

/-- Pending with the due date in the past. -/
def isOverdueAt (i : Invoice) (now : Instant) : Bool := i.isPending && i.dueDate.any (· < now)

def isLive (i : Invoice) : Bool := i.deletedAt.isNone

end Invoice

inductive TransactionStatus where
  | pending
  | success
  | failed
  | refunded
  deriving DecidableEq

namespace TransactionStatus

instance : Inhabited TransactionStatus := ⟨pending⟩

def word : TransactionStatus → String
  | pending => "pending"
  | success => "success"
  | failed => "failed"
  | refunded => "refunded"

def ofWord? : String → Option TransactionStatus
  | "pending" => some pending
  | "success" => some success
  | "failed" => some failed
  | "refunded" => some refunded
  | _ => none

end TransactionStatus

/-- A transaction that is about to be stored. -/
structure NewTransaction where
  invoiceId : Id
  gateway : String
  transactionId : Option String
  amount : Decimal
  currency : String
  status : String
  gatewayResponse : Option Json
  metadata : Option Json

structure Transaction extends NewTransaction where
  id : Id
  refundedAmount : Option Decimal
  refundedAt : Option Instant
  refundReason : Option String
  createdAt : Instant
  updatedAt : Instant

namespace Transaction

/-- The status, unless the stored word is unknown. -/
def status? (t : Transaction) : Option TransactionStatus := TransactionStatus.ofWord? t.status

def isSuccessful (t : Transaction) : Bool := t.status? == some .success

def isRefunded (t : Transaction) : Bool := t.status? == some .refunded

end Transaction

end RecurringBilling
