/-!
Settings of the billing: what new packages and invoices take where nothing else is said.
-/

namespace RecurringBilling

structure BillingSettings where
  currency : String := "USD"
  invoicePrefix : String := "INV"
  invoiceFormat : String := "#-YYMMDD-NNNNNN"
  invoiceDueDays : Nat := 7
  deriving DecidableEq

instance : Inhabited BillingSettings := ⟨{}⟩

end RecurringBilling
