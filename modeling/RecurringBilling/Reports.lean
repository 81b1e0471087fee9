import RecurringBilling.Grouping
import RecurringBilling.Procedure

/-!
Reports: usage by day, growth and revenue by month, churn, and the figures of packages. The storage
hands over rows; each figure is made from them in one place.
-/

namespace RecurringBilling.Reports

open Procedure

def target : String := "application::usecases::analytics"

/-- To two places, a half going away from zero. -/
def round2 (value : Decimal) : Decimal := value.roundTo 2

/-- A value for each of so many, to two places; for none it is zero. -/
def ratio (value : Decimal) (count : Int) : Except ArithmeticFault Decimal := do
  if count = 0 then return 0
  return round2 (← value.div (← Decimal.orFault .division (Decimal.ofInt? count)))

/-- How many percent of the whole a part is, to two places; of nothing it is zero. -/
def percentage (part whole : Int) : Except ArithmeticFault Decimal := do
  if whole = 0 then return 0
  let part ← Decimal.orFault .multiplication (Decimal.ofInt? part)
  let whole ← Decimal.orFault .division (Decimal.ofInt? whole)
  return round2 (← (← part.mul .hundred).div whole)

/-- Whether a status text stands for a status that gives access. -/
def isLive (status : String) : Bool :=
  SubscriptionStatus.valid.contains (.ofText status)

def sumBy {α : Type} (amount : α → Except ArithmeticFault Decimal) (rows : List α) :
    Except ArithmeticFault Decimal :=
  rows.foldlM (fun total row => do total.add (← amount row)) 0

/-- Monthly recurring revenue: the monthly prices of the subscriptions that give access. -/
def mrr (rows : List PricedSubscription) : Except ArithmeticFault Decimal := do
  return round2 (← sumBy
    (fun row => BillingPeriod.monthlyAmountOfWord row.periodWord row.price row.billingInterval)
    (rows.filter fun row => isLive row.status))

/-- How many percent of the subscriptions that had a trial are active now. -/
def trialConversion (rows : List PricedSubscription) : Except ArithmeticFault Decimal :=
  let trials := rows.filter (·.trialEndsAt.isSome)
  let converted := trials.filter fun row => SubscriptionStatus.ofText row.status == .active
  percentage converted.length trials.length

/-- Packages are listed by name and then by identifier. -/
def packageBefore (a b : String × Id) : Bool := a.1 < b.1 || (a.1 == b.1 && a.2 < b.2)

def subscriberCounts (rows : List PricedSubscription) : List PackageSubscriberCount :=
  (groupBy packageBefore (fun row => (row.packageName, row.packageId))
    (rows.filter fun row => isLive row.status)).map fun ((name, id), group) =>
      ⟨id, name, group.length⟩

def isPaid (row : PackageInvoice) : Bool := InvoiceStatus.ofWord? row.status == some .paid

def isPending (row : PackageInvoice) : Bool := InvoiceStatus.ofWord? row.status == some .pending

def packageRevenues (rows : List PackageInvoice) : Except ArithmeticFault (List PackageRevenue) :=
  (groupBy packageBefore (fun row => (row.packageName, row.packageId))
    (rows.filter isPaid)).mapM fun ((name, id), group) => do
      return ⟨id, name, round2 (← Decimal.sum (group.map (·.amount)))⟩

/-- The total of each day on which something was used, the earliest first. -/
def dailyTotals (logs : List UsageLog) : Except ArithmeticFault (List DailyUsage) :=
  (groupBy (fun a b => decide (a < b)) (fun log => log.createdAt.date) logs).mapM
    fun (date, group) => do return ⟨date, ← Decimal.sum (group.map (·.amount))⟩

/-- How many instants fall in each month that has any. -/
def monthlyCounts (instants : List Instant) : List MonthlyCount :=
  (groupBy (fun a b => decide (a < b)) (fun t => t.date.monthText) instants).map
    fun (month, group) => ⟨month, group.length⟩

/-- What was paid in each month in which anything was. -/
def monthlyRevenues (paid : List PaidInvoice) : Except ArithmeticFault (List MonthlyRevenue) :=
  (groupBy (fun a b => decide (a < b)) (fun p => p.paidAt.date.monthText) paid).mapM
    fun (month, group) => do return ⟨month, round2 (← Decimal.sum (group.map (·.amount)))⟩

/-- The churn of the month that lies so many months back, over a window of days that ends with it.
A subscription counts if it was made by the end of the window and had not ended before the start. -/
def churnPoint (now : Instant) (windowDays : Int) (cancelled : List Instant)
    (lifetimes : List Lifetime) (monthsBack : Nat) : Except ArithmeticFault ChurnPoint := do
  let windowEnd := (now.monthsBackStart monthsBack).endOfMonth
  let windowStart := windowEnd.daysBefore windowDays
  let alive := lifetimes.filter fun l =>
    l.createdAt ≤ min windowEnd now && l.endsAt.all (windowStart ≤ ·)
  let churned := cancelled.filter fun t => windowStart ≤ t && t ≤ windowEnd
  return ⟨windowEnd.date.monthText, ← percentage churned.length alive.length⟩

/-- The churn of each of the last months, the earliest first. -/
def churnPoints (now : Instant) (months : Nat) (windowDays : Int) (cancelled : List Instant)
    (lifetimes : List Lifetime) : Except ArithmeticFault (List ChurnPoint) :=
  (List.range months).reverse.mapM (churnPoint now windowDays cancelled lifetimes)

def dashboard (total : Int) (counts : StatusCounts) (rows : List PricedSubscription)
    (revenue : Decimal) (pendingInvoices overdueInvoices : Int) :
    Except ArithmeticFault DashboardSummary := do
  let breakdown : StatusBreakdown :=
    ⟨counts.count .active, counts.count .onTrial, counts.count .cancelled, counts.count .expired⟩
  let active := breakdown.active + breakdown.onTrial
  let mrr ← mrr rows
  return {
    totalSubscriptions := total
    activeSubscriptions := active
    subscriptionsByStatus := breakdown
    mrr := mrr
    arpu := ← ratio mrr active
    totalRevenue := round2 revenue
    churnRate := ← percentage breakdown.cancelled (total - breakdown.expired)
    trialConversionRate := ← trialConversion rows
    pendingInvoices := pendingInvoices
    overdueInvoices := overdueInvoices }

/-- The figures of one package, from its subscriptions and its invoices. -/
def packageFigures (now : Instant) (name : String) (id : Id) (rows : List PricedSubscription)
    (invoices : List PackageInvoice) : Except ArithmeticFault PackageAnalytics := do
  let active := (rows.filter fun row => isLive row.status).length
  let mrr ← mrr rows
  let revenue ← Decimal.sum ((invoices.filter isPaid).map (·.amount))
  let pending := invoices.filter isPending
  return {
    packageId := id
    packageName := name
    totalSubscribers := rows.length
    activeSubscribers := active
    cancelledCount := (rows.filter fun r => SubscriptionStatus.ofText r.status == .cancelled).length
    mrr := mrr
    averageMrr := ← ratio mrr active
    trialConversionRate := ← trialConversion rows
    totalRevenue := round2 revenue
    pendingInvoices := pending.length
    overdueInvoices := (pending.filter fun row => row.dueDate.any (· < now)).length }

/-- The figures of each package that has a subscription. -/
def packageAnalytics (rows : List PricedSubscription) (invoices : List PackageInvoice)
    (now : Instant) : Except ArithmeticFault (List PackageAnalytics) :=
  (groupBy packageBefore (fun row => (row.packageName, row.packageId)) rows).mapM
    fun ((name, id), group) =>
      packageFigures now name id group (invoices.filter (·.packageId == id))

/-! The reports themselves: what is asked of the storage, and in which order. -/

def dailyUsage (subscriptionId featureId : Id) (days : Int) : Procedure (List DailyUsage) := do
  let since := (← now).daysBefore days
  compute (dailyTotals (← request (.listUsageLogs subscriptionId featureId since)))

def totalSubscriptions : Procedure Int := request .countSubscriptions

def activeSubscriptions : Procedure Int := request .countActive

def subscriptionsByStatus : Procedure StatusCounts := request .countByStatus

def subscribersByPackage : Procedure (List PackageSubscriberCount) := do
  return subscriberCounts (← request .listPricedSubscriptions)

def trialConversionRate : Procedure Decimal := do
  compute (trialConversion (← request .listPricedSubscriptions))

/-- New subscriptions by month, from the month that lies so many months back. -/
def subscriptionGrowth (months : Nat) : Procedure (List MonthlyCount) := do
  let since := (← now).monthsBackStart months
  return monthlyCounts (← request (.listCreated since))

def monthlyRecurringRevenue : Procedure Decimal := do
  compute (mrr (← request .listPricedSubscriptions))

def averageRevenuePerUser : Procedure Decimal := do
  let active ← request .countActive
  if active = 0 then return 0
  compute (ratio (← monthlyRecurringRevenue) active)

def totalRevenue : Procedure Decimal := do
  return round2 (← request .totalRevenue)

def revenueByPeriod (months : Nat) : Procedure (List MonthlyRevenue) := do
  let since := (← now).monthsBackStart months
  compute (monthlyRevenues (← request (.listPaid since)))

def revenueByPackage : Procedure (List PackageRevenue) := do
  compute (packageRevenues (← request .listPackageInvoices))

def pendingInvoices : Procedure Int := request .countPendingInvoices

def overdueInvoices : Procedure Int := do
  request (.countOverdueInvoices (← now))

/-- How many percent of the subscriptions alive in the last days were cancelled in them. -/
def churnRate (days : Int) : Procedure Decimal := do
  let instant ← now
  let since := instant.daysBefore days
  let total ← request (.countInPeriod since instant)
  if total = 0 then return 0
  compute (percentage (← request (.countChurned since)) total)

def churnTrend (months : Nat) (windowDays : Int) : Procedure (List ChurnPoint) := do
  let instant ← now
  let earliest := (instant.monthsBackStart (months - 1)).daysBefore windowDays
  let cancelled ← request (.listCancelled earliest)
  let lifetimes ← request (.listLifetimes earliest instant)
  log .debug target "analytics: folding churn trend"
    [("months", .ofNat months), ("window_days", .ofInt windowDays),
      ("cancelled", .ofNat cancelled.length), ("lifetimes", .ofNat lifetimes.length)]
  compute (churnPoints instant months windowDays cancelled lifetimes)

def dashboardSummary : Procedure DashboardSummary := do
  let total ← request .countSubscriptions
  let counts ← request .countByStatus
  let rows ← request .listPricedSubscriptions
  let revenue ← request .totalRevenue
  let pending ← request .countPendingInvoices
  let overdue ← request (.countOverdueInvoices (← now))
  compute (dashboard total counts rows revenue pending overdue)

def analyticsByPackage : Procedure (List PackageAnalytics) := do
  let rows ← request .listPricedSubscriptions
  let invoices ← request .listPackageInvoices
  compute (packageAnalytics rows invoices (← now))

end RecurringBilling.Reports
