import RecurringBilling.Invoice.Number
import RecurringBilling.Schedule
import RecurringBilling.Session
import RecurringBilling.Store.Fault

/-!
Simulations: procedures run over the store under a clock that is set from outside, with a record of
the requests, events and log records that they make.
-/

namespace RecurringBilling

/-- What a simulation records of the storage: a request, or a tick of the worker. -/
inductive Trace where
  | request (r : Request)
  | tick (now : Instant)

structure Simulation where
  clock : Instant
  store : Store
  faults : List Fault
  numbers : NumberSource
  /-- The latest first, like the events and the log. -/
  traces : List Trace := []
  events : List BillingEvent := []
  logs : List LogRecord := []

namespace Simulation

/-- Records a request, then looks for a fault, then answers it. A refused one changes no row. -/
def answer (r : Request) (s : Simulation) :
    Except ArithmeticFault (Except StorageError r.Reply) × Simulation :=
  let (effect, faults) := Fault.strike r s.faults
  let s := { s with traces := .request r :: s.traces, faults := faults }
  let result := match effect with
    | some effect => s.store.answerUnder s.clock effect r
    | none => s.store.answer s.clock r
  match result with
  | .ok (reply, store) => (.ok (.ok reply), { s with store := store })
  | .error (.error e) => (.ok (.error e), s)
  | .error (.fault f) => (.error f, s)

def drawNumber (s : Simulation) : String × Simulation :=
  let (number, numbers) := s.numbers.take s.clock.date
  (number, { s with numbers := numbers })

def backend : Backend Simulation where
  answer := answer
  note record s := { s with logs := record :: s.logs }
  announce event s := { s with events := event :: s.events }
  clock := clock
  drawNumber := drawNumber

def run {α : Type} (s : Simulation) (p : Procedure α) : Outcome α × Simulation := p.run backend s

/-- Forgets what has been recorded. -/
def cleared (s : Simulation) : Simulation := { s with traces := [], events := [], logs := [] }

def runSession {α : Type} (s : Simulation) (session : Session) (op : Session.Operation α) :
    Outcome α × Session × Simulation := Session.Operation.run backend op session s

/-- Runs a tick of the worker at each of the instants, and one at the present if there is none. -/
def runWorker (dueDays : Nat) (s : Simulation) (ticks : List Instant) : Outcome Unit × Simulation :=
  match ticks with
  | [] =>
    match s.run (Schedule.tickNow dueDays {}) with
    | (.done _, s) => (.done (), s)
    | (.failed e, s) => (.failed e, s)
    | (.halted f, s) => (.halted f, s)
  | _ => go {} s ticks
where
  go (schedule : Schedule) (s : Simulation) : List Instant → Outcome Unit × Simulation
    | [] => (.done (), s)
    | t :: rest =>
      match { s with clock := t, traces := .tick t :: s.traces }.run
        (schedule.tickNow dueDays) with
      | (.done schedule, s) => go schedule s rest
      | (.failed e, s) => (.failed e, s)
      | (.halted f, s) => (.halted f, s)

end Simulation

end RecurringBilling
