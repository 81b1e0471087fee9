import RecurringBilling.Calendar.Text
import RecurringBilling.Logging.Setup
import RecurringBilling.Settings
import RecurringBilling.Worker.Stage

/-!
The configuration of the worker, read from the environment. Values are trimmed, and a blank one
counts as absent. Only the stage may be unreadable: it is then the default one.
-/

namespace RecurringBilling

/-- Why a text is not a count. -/
inductive CountFault where
  | invalidDigit
  | tooLarge
  deriving DecidableEq

def CountFault.message : CountFault → String
  | invalidDigit => "invalid digit found in string"
  | tooLarge => "number too large to fit in target type"

/-- Reads a natural number below the bound, with an optional plus sign; the first character that
is wrong decides on the fault. -/
def readCount (bound : Nat) (s : String) : Except CountFault Nat :=
  let digits := match s.toList with
    | '+' :: rest => rest
    | cs => cs
  if digits.isEmpty then .error .invalidDigit
  else digits.foldlM (fun n c =>
    if !c.isDigit then .error .invalidDigit
    else
      let next := n * 10 + (c.toNat - '0'.toNat)
      if next < bound then .ok next else .error .tooLarge) 0

inductive ConfigError where
  | database
  | dueDays (fault : CountFault)
  | interval (fault : CountFault)
  | date (fault : Date.Fault)
  deriving DecidableEq

namespace ConfigError

def message : ConfigError → String
  | database => "DATABASE_URL is invalid"
  | dueDays _ => "INVOICE_DUE_DAYS is invalid"
  | interval _ => "PROCESS_INTERVAL_SECS is invalid"
  | date _ => "PROCESS_DATE is invalid, expected YYYY-MM-DD"

def cause? : ConfigError → Option String
  | database => none
  | dueDays fault | interval fault => some fault.message
  | date fault => some fault.message

end ConfigError

structure WorkerConfig where
  stage : Stage
  databaseUrl : String
  billing : BillingSettings
  intervalSeconds : Nat
  /-- The one date to process, if the worker is not to go on from day to day. -/
  date : Option Date

namespace WorkerConfig

def daySeconds : Nat := 86400

def value? (env : Environment) (name : String) : Option String := (env name).bind Text.nonBlank?

/-- The reading of a variable, or nothing if it is absent. -/
def readVariable {α ε : Type} (env : Environment) (name : String) (read : String → Except ε α) :
    Except ε (Option α) :=
  match value? env name with
  | none => .ok none
  | some value => (read value).map some

def readBilling (env : Environment) : Except ConfigError BillingSettings := do
  let d : BillingSettings := {}
  let dueDays ← (readVariable env "INVOICE_DUE_DAYS" (readCount 4294967296)).mapError .dueDays
  return {
    currency := ((value? env "BILLING_CURRENCY").map Text.upperAscii).getD d.currency
    invoicePrefix := (value? env "INVOICE_PREFIX").getD d.invoicePrefix
    invoiceFormat := (value? env "INVOICE_FORMAT").getD d.invoiceFormat
    invoiceDueDays := dueDays.getD d.invoiceDueDays }

/-- An interval of zero counts as absent, and the default one is a day. -/
def readInterval (env : Environment) : Except ConfigError Nat := do
  let seconds ←
    (readVariable env "PROCESS_INTERVAL_SECS" (readCount 18446744073709551616)).mapError .interval
  return (seconds.filter (0 < ·)).getD daySeconds

def read (env : Environment) : Except ConfigError WorkerConfig := do
  let some url := value? env "DATABASE_URL" | throw .database
  let billing ← readBilling env
  let interval ← readInterval env
  let date ← (readVariable env "PROCESS_DATE" fun s => Date.read false s.toList).mapError .date
  return {
    stage := ((value? env "STAGE").bind fun s => (Stage.read s).toOption).getD default
    databaseUrl := url
    billing := billing
    intervalSeconds := interval
    date := date }

end WorkerConfig

end RecurringBilling
