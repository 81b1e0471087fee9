import RecurringBilling.Logging.Line
import RecurringBilling.Schedule
import RecurringBilling.Sql.Service
import RecurringBilling.Worker.Config

/-!
The worker: it reads its configuration, opens the database and processes one date, or one day after
the other as the ticks come.
-/

namespace RecurringBilling

inductive WorkerError where
  | config (error : ConfigError)
  | billing (error : BillingError)

namespace WorkerError

def message : WorkerError → String
  | config e => e.message
  | billing e => e.message

def cause? : WorkerError → Option String
  | config e => e.cause?
  | billing e => e.cause?

def report (e : WorkerError) : String := failureReport e.message e.cause?

end WorkerError

/-- How a run of the worker ended. -/
inductive WorkerEnd where
  | finished
  | failed (error : WorkerError)
  | halted (fault : ArithmeticFault)

def WorkerEnd.ofOutcome {α : Type} : Outcome α → WorkerEnd
  | .done _ => finished
  | .failed e => failed (.billing e)
  | .halted f => halted f

namespace Worker

open Procedure

def target : String := "worker"

/-- How many connections to the database are kept. -/
def poolSize : Nat := 10

def opening (c : WorkerConfig) : Procedure Unit := do
  log .info target "worker: ENV has been loaded" [("stage", .shown c.stage.word)]
  log .info "infra::postgres::postgres_connection" "postgres: pool established"
    [("connections", .ofNat poolSize), ("idle", .ofNat poolSize)]
  log .info target "worker: Postgres connection has been established" []

def processSingle (c : WorkerConfig) (date : Date) : Procedure Unit := do
  opening c
  log .info target "worker: processing a single date" [("date", .ofDate date)]
  let _ ← Schedule.processDate c.billing.invoiceDueDays date

/-- The start of a worker that goes on from day to day, and its first tick. -/
def start (c : WorkerConfig) : Procedure Schedule := do
  opening c
  log .info target "worker: started" [("interval_secs", .ofNat c.intervalSeconds)]
  Schedule.tickNow c.billing.invoiceDueDays {}

def stop : Procedure Unit := log .info target "worker: shutdown signal received" []

/-- The ticks after the first, and the end of the worker after the last of them. -/
def goOn (dueDays : Nat) (schedule : Schedule) (s : Sql.Service) :
    List Instant → WorkerEnd × Sql.Service
  | [] =>
    let (outcome, s) := s.run stop
    (.ofOutcome outcome, s)
  | now :: rest =>
    match (s.tickAt now).run (schedule.tickNow dueDays) with
    | (.done schedule, s) => goOn dueDays schedule s rest
    | (.failed e, s) => (.failed (.billing e), s)
    | (.halted f, s) => (.halted f, s)

/-- Runs the worker from the present on, with a tick at each of the instants after the first one. -/
def run (env : Environment) (supply : Nat → Draws) (exchange : Sql.Exchange)
    (ticks : List Instant) : WorkerEnd × Sql.Service :=
  match WorkerConfig.read env with
  | .error e => (.failed (.config e), ⟨exchange, .pattern default supply, []⟩)
  | .ok c =>
    let s : Sql.Service := ⟨exchange, .pattern (.ofSettings c.billing) supply, []⟩
    match c.date with
    | some date =>
      let (outcome, s) := s.run (processSingle c date)
      (.ofOutcome outcome, s)
    | none =>
      match s.run (start c) with
      | (.done schedule, s) => goOn c.billing.invoiceDueDays schedule s ticks
      | (.failed e, s) => (.failed (.billing e), s)
      | (.halted f, s) => (.halted f, s)

/-- What is left of the worker once its process has ended. -/
structure Ended where
  status : Nat
  lines : List String
  service : Sql.Service

/-- The record with which a failure ends the log. -/
def closing : WorkerEnd → List LogRecord
  | .failed e => [⟨.error, target, "worker: exited with error", [("error", .shown e.report)]⟩]
  | .finished | .halted _ => []

def exitStatus : WorkerEnd → Nat
  | .finished => 0
  | .failed _ => 1
  | .halted _ => 101

/-- The worker as a process: sets up the log, runs, and writes the log at the present instant. -/
def process (env : Environment) (supply : Nat → Draws) (exchange : Sql.Exchange) : Ended :=
  let setup := LogSetup.read "billing-worker" env
  let (ending, s) := run env supply exchange []
  let records := setup.opening ++ s.logs.reverse ++ closing ending
  { status := exitStatus ending
    lines := (records.filter (setup.filter env).lets).flatMap (LogRecord.lines exchange.clock)
    service := s }

end Worker

end RecurringBilling
