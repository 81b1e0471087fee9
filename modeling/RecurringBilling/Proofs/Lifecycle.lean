import RecurringBilling.Invoicing
import RecurringBilling.Proofs.World
import RecurringBilling.Subscribing

/-! What the steps in the life of a subscription ask of the storage. A step that makes one request
ends as that does. -/

namespace RecurringBilling

variable (env : Chances)

namespace Subscribing

theorem run_cancel (r : Subscription) (immediate : Bool) (reason : Option String) (w : World) :
    env.run (cancel r immediate reason) w = Outcome.ofReply (w.answer (env w)
      (.updateSubscription r.id (cancellation (env w).now immediate reason))) := by
  simp [cancel]

end Subscribing

namespace Invoicing

/-- The row of a draft that is issued; a number is drawn where the draft has none. -/
def issuedRow (draft : InvoiceDraft) (drawn : String) : NewInvoice :=
  { subscriptionId := draft.subscriptionId
    invoiceNumber := (draft.invoiceNumber.filter fun n => (Text.nonBlank? n).isSome).getD drawn
    amount := draft.amount
    currency := draft.currency
    status := draft.status.word
    issuedAt := draft.issuedAt
    dueDate := draft.dueDate
    paidAt := none
    notes := draft.notes }

theorem run_create (draft : InvoiceDraft) (w : World) :
    env.run (create draft) w =
      Outcome.ofReply (w.answer (env w) (.createInvoice (issuedRow draft (env w).number))) := by
  rw [issuedRow]
  cases hn : draft.invoiceNumber.filter fun n => (Text.nonBlank? n).isSome with
  | none => simp [create, hn]
  | some number => simp [create, hn]

def draftOf (dueDays : Nat) (r : Subscription) (amount : Option Decimal) (package : Package)
    (issuedAt : Instant) : InvoiceDraft :=
  { subscriptionId := r.id
    invoiceNumber := none
    amount := amount.getD package.price
    currency := package.currency
    status := .pending
    issuedAt := issuedAt
    dueDate := issuedAt.addDays? dueDays
    notes := none }

theorem run_generate (dueDays : Nat) (r : Subscription) (amount : Option Decimal) (w : World) :
    env.run (generate dueDays r amount) w =
      Outcome.andThen (Outcome.ofReply (w.answer (env w) (.findPackage r.packageId)))
        fun found w =>
          match found with
          | none => (.failed (.packageOfSubscriptionNotFound r.id r.packageId), w)
          | some package =>
            Outcome.ofReply (w.answer (env w) (.createInvoice
              (issuedRow (draftOf dueDays r amount package (env w).now) (env w).number))) := by
  simp only [generate, Chances.run_bind, Chances.run_request]
  congr 1
  funext found w
  cases found with
  | none => rfl
  | some package => simp [run_create, draftOf]

end Invoicing

end RecurringBilling
