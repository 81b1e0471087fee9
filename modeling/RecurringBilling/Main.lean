import RecurringBilling.Worker.Run
import Std.Time.DateTime.Timestamp

/-!
The worker as a program. Its settings come from the environment. No database is attached, so every
statement finds nothing; the worker makes its first tick and stops.
-/

namespace RecurringBilling.Worker

/-- The variables that the worker reads. -/
def variableNames : List String :=
  ["DATABASE_URL", "BILLING_CURRENCY", "INVOICE_PREFIX", "INVOICE_FORMAT", "INVOICE_DUE_DAYS",
    "PROCESS_INTERVAL_SECS", "PROCESS_DATE", "STAGE", "SERVICE_NAME", "LOG_LEVEL", "LOG_ANSI",
    "RUST_LOG"]

def readEnvironment : IO Environment := do
  let values ← variableNames.mapM fun name => return (name, ← IO.getEnv name)
  return fun name => (values.lookup name).join

def present : IO Instant := do
  let nanos := (← Std.Time.Timestamp.now).toNanosecondsSinceUnixEpoch.toInt
  match Instant.ofNanos? nanos with
  | some now => return now
  | none => throw (IO.userError "the clock is out of range")

/-- Outcomes of random draws that follow from a seed. -/
def drawsFrom (seed n : Nat) : Draws := fun i =>
  (randNat (mkStdGen (seed + 8191 * n + 131 * i)) 0 1073741824).1

/-- Writes the log of the process, and gives the status with which it ends. -/
def runProcess : IO UInt32 := do
  let env ← readEnvironment
  let seed ← IO.rand 0 1073741824
  let ended := process env (drawsFrom seed) ⟨← present, [], []⟩
  for line in ended.lines do IO.println line
  return ended.status.toUInt32

end RecurringBilling.Worker

def main : IO UInt32 := RecurringBilling.Worker.runProcess
