import RecurringBilling.DailyRun

/-!
The schedule of the worker: each UTC day is run at most once, and an expiration pass that could not
be listed is repeated at the next tick.
-/

namespace RecurringBilling

/-- The last day that was run, and a day whose expirations are still due. -/
structure Schedule where
  lastProcessed : Option Date := none
  expirationsDue : Option Date := none
  deriving DecidableEq

namespace Schedule

open Procedure

def target : String := "worker::services::worker_loop"

def summarize (date : Date) (r : RunReport) : Procedure Unit := do
  if 0 < r.failures then
    log .warn target "worker_loop: some subscriptions were left for the next run"
      [("date", .ofDate date), ("failures", .ofNat r.failures), ("failed_ids", .ofIds r.failedIds)]
  log .info target "worker_loop: day processed"
    [("date", .ofDate date), ("invoices_generated", .ofNat r.invoicesGenerated),
      ("cancelled", .ofNat r.cancelledPendingInvoice), ("expired", .ofNat r.expired)]

/-- Runs a date and sums up what was done. -/
def processDate (dueDays : Nat) (date : Date) : Procedure RunReport := do
  let r ← DailyRun.run dueDays date
  summarize date r
  return r

def isDue (lastProcessed : Option Date) (today : Date) : Bool := lastProcessed.all (· < today)

/-- Repeats the expirations that are due, if there are any. -/
def retry (s : Schedule) : Procedure Schedule := do
  match s.expirationsDue with
  | none => return s
  | some day =>
    match ← (DailyRun.runExpirations day).attempt with
    | .ok r =>
      summarize day r
      return { s with expirationsDue := none }
    | .error e =>
      log .error target "worker_loop: expirations failed again, retrying next tick"
        [("date", .ofDate day), ("error", .shown e.report)]
      return s

/-- Runs the day, unless it or a later one was run before. -/
def advance (dueDays : Nat) (s : Schedule) (today : Date) : Procedure Schedule := do
  if !isDue s.lastProcessed today then return s
  match ← (processDate dueDays today).attempt with
  | .ok r =>
    return ⟨some today, if r.expirationsIncomplete then some today else s.expirationsDue⟩
  | .error e =>
    log .error target "worker_loop: processing failed, retrying next tick"
      [("today", .ofDate today), ("error", .shown e.report)]
    return s

def tick (dueDays : Nat) (s : Schedule) (today : Date) : Procedure Schedule := do
  advance dueDays (← s.retry) today

/-- A tick at the present date. -/
def tickNow (dueDays : Nat) (s : Schedule) : Procedure Schedule := do
  s.tick dueDays (← now).date

end Schedule

end RecurringBilling
