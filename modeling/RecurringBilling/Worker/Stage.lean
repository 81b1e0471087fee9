import RecurringBilling.Text

/-!
The stage on which the worker runs.
-/

namespace RecurringBilling

inductive Stage where
  | localMachine
  | development
  | production
  deriving DecidableEq

namespace Stage

instance : Inhabited Stage := ⟨localMachine⟩

def word : Stage → String
  | localMachine => "local"
  | development => "development"
  | production => "production"

/-- Reads a stage by its word or a short form of it, or says what is wrong. -/
def read (s : String) : Except String Stage :=
  match Text.lowerAscii (Text.trim s) with
  | "local" => .ok localMachine
  | "development" | "dev" => .ok development
  | "production" | "prod" => .ok production
  | other => .error ("unknown stage `" ++ other ++ "`")

end Stage

end RecurringBilling
