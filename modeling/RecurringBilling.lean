import RecurringBilling.Catalog
import RecurringBilling.Dispatch
import RecurringBilling.Json.Exchange
import RecurringBilling.Json.Requests
import RecurringBilling.Main
import RecurringBilling.Simulation
import RecurringBilling.Proofs.DailyRun.DayEffect
import RecurringBilling.Proofs.Invoicing.Refunds
import RecurringBilling.Proofs.Schedule.DueDays
import RecurringBilling.Proofs.Usage.Limit
import RecurringBilling.Proofs.Schedule.OncePerDay
import RecurringBilling.Proofs.Calendar.Months
import RecurringBilling.Proofs.Lifecycle.Operations
import RecurringBilling.Proofs.Lifecycle.Soundness
import RecurringBilling.Proofs.DailyRun.Issues
import RecurringBilling.Proofs.Schedule.Effects
import RecurringBilling.Proofs.Schedule.History
import RecurringBilling.Proofs.Schedule.RenewedOnce
import RecurringBilling.Proofs.Schedule.Rerun
import RecurringBilling.Proofs.Schedule.Restarts
import RecurringBilling.Proofs.Usage.Accounting
import RecurringBilling.Proofs.Usage.Warnings
import RecurringBilling.Proofs.Decimal.Rounding
import RecurringBilling.Proofs.Lifecycle.Lookups
import RecurringBilling.Proofs.Lifecycle.Validity
import RecurringBilling.Proofs.TwoWrites
import RecurringBilling.Proofs.Usage.Allowance
import RecurringBilling.Proofs.Contract
import RecurringBilling.Proofs.Session.Calls
import RecurringBilling.Proofs.Session.Requests
import RecurringBilling.Proofs.Session.Memory
import RecurringBilling.Proofs.Session.Isolation
import RecurringBilling.Proofs.Store.Grants
import RecurringBilling.Proofs.Lifecycle.Entitlements
import RecurringBilling.Proofs.Session.Steps
import RecurringBilling.Proofs.Session.Races
import RecurringBilling.Proofs.Session.StaleRows
import RecurringBilling.Proofs.Sql.Transactions
import RecurringBilling.Proofs.Catalog
import RecurringBilling.Proofs.Reports.Dashboard
import RecurringBilling.Proofs.Reports.Revenue
import RecurringBilling.Proofs.Asks
import RecurringBilling.Proofs.Calendar.Windows
import RecurringBilling.Proofs.Lifecycle.Times
import RecurringBilling.Proofs.Reports.Churn
import RecurringBilling.Proofs.Reports.ChurnTrend
import RecurringBilling.Proofs.Reports.Periods
import RecurringBilling.Proofs.Schedule.CatchUp
import RecurringBilling.Proofs.Calendar.Cycles
import RecurringBilling.Proofs.Lifecycle.NewSubscription
import RecurringBilling.Proofs.DailyRun.Totals
import RecurringBilling.Proofs.DailyRun.EndDays
import RecurringBilling.Proofs.Lifecycle.Resumption
import RecurringBilling.Proofs.Sql.Updates
import RecurringBilling.Proofs.Reports.ChurnMonths
import RecurringBilling.Proofs.Reports.Percentages
import RecurringBilling.Proofs.Invoicing.Numbers
import RecurringBilling.Proofs.Reports.Series
import RecurringBilling.Proofs.Worker.Environment
import RecurringBilling.Proofs.Usage.Rescaling
import RecurringBilling.Proofs.Usage.CompleteCalls
import RecurringBilling.Proofs.Usage.Counters
import RecurringBilling.Proofs.Reports.JsonForms
