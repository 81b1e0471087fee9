import RecurringBilling.Calendar
import RecurringBilling.Decimal
import RecurringBilling.Id

/-!
Figures of the reports: what they are made from, and what they show.
-/

namespace RecurringBilling

/-- A subscription with the price of its package. -/
structure PricedSubscription where
  subscriptionId : Id
  packageId : Id
  packageName : String
  status : String
  trialEndsAt : Option Instant
  createdAt : Instant
  price : Decimal
  periodWord : String
  billingInterval : Int

/-- An invoice with the package that it bills. -/
structure PackageInvoice where
  invoiceId : Id
  packageId : Id
  packageName : String
  amount : Decimal
  status : String
  dueDate : Option Instant

/-- From when to when a subscription lasts. -/
structure Lifetime where
  createdAt : Instant
  endsAt : Option Instant

structure PaidInvoice where
  paidAt : Instant
  amount : Decimal

structure DailyUsage where
  date : Date
  total : Decimal

structure MonthlyCount where
  month : String
  count : Int

structure MonthlyRevenue where
  month : String
  revenue : Decimal

structure PackageSubscriberCount where
  packageId : Id
  packageName : String
  count : Int

structure PackageRevenue where
  packageId : Id
  packageName : String
  revenue : Decimal

structure ChurnPoint where
  month : String
  churnRate : Decimal

structure StatusBreakdown where
  active : Int := 0
  onTrial : Int := 0
  cancelled : Int := 0
  expired : Int := 0

structure DashboardSummary where
  totalSubscriptions : Int := 0
  activeSubscriptions : Int := 0
  subscriptionsByStatus : StatusBreakdown := {}
  mrr : Decimal := 0
  arpu : Decimal := 0
  totalRevenue : Decimal := 0
  churnRate : Decimal := 0
  trialConversionRate : Decimal := 0
  pendingInvoices : Int := 0
  overdueInvoices : Int := 0

structure PackageAnalytics where
  packageId : Id
  packageName : String
  totalSubscribers : Int
  activeSubscribers : Int
  cancelledCount : Int
  mrr : Decimal
  averageMrr : Decimal
  trialConversionRate : Decimal
  totalRevenue : Decimal
  pendingInvoices : Int
  overdueInvoices : Int

end RecurringBilling
