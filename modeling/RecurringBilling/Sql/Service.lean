import RecurringBilling.Invoice.Number
import RecurringBilling.Procedure
import RecurringBilling.Sql.Queries

/-!
Procedures run against a database: requests become conversations with it, and events go to the log.
-/

namespace RecurringBilling.Sql

structure Service where
  exchange : Exchange
  numbers : NumberSource
  /-- The latest first. -/
  logs : List LogRecord := []

namespace Service

def clock (s : Service) : Instant := s.exchange.clock

def answer (r : Request) (s : Service) :
    Except ArithmeticFault (Except StorageError r.Reply) × Service :=
  match (conversation s.clock r).run.run s.exchange with
  | (.ok reply, x) => (.ok (.ok reply), { s with exchange := x })
  | (.error (.error e), x) => (.ok (.error e), { s with exchange := x })
  | (.error (.fault f), x) => (.error f, { s with exchange := x })

def note (record : LogRecord) (s : Service) : Service := { s with logs := record :: s.logs }

def drawNumber (s : Service) : String × Service :=
  let (number, numbers) := s.numbers.take s.clock.date
  (number, { s with numbers := numbers })

def backend : Backend Service where
  answer := answer
  note := note
  announce event := note event.logRecord
  clock := clock
  drawNumber := drawNumber

def run {α : Type} (s : Service) (p : Procedure α) : Outcome α × Service := p.run backend s

/-- The clock set to an instant, which is put down among what was sent. -/
def tickAt (s : Service) (now : Instant) : Service :=
  { s with exchange := { s.exchange with clock := now, sent := .tick now :: s.exchange.sent } }

end Service

end RecurringBilling.Sql
