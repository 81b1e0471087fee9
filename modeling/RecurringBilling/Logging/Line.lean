import RecurringBilling.Logging
import RecurringBilling.Text

/-!
Log lines: time, level, target, message and fields of a record. A field whose text has several
lines makes the record as many lines longer.
-/

namespace RecurringBilling

def LogValue.written : LogValue → String
  | .shown t => t
  | .quoted t => quote t

/-- The level, aligned to the right in five columns. -/
def LogLevel.column (l : LogLevel) : String :=
  String.ofList (List.replicate (5 - l.name.length) ' ') ++ l.name

namespace LogRecord

def text (now : Instant) (r : LogRecord) : String :=
  now.offsetText ++ " " ++ r.level.column ++ " " ++ r.target ++ ": " ++ r.message ++
    String.join (r.fields.map fun (name, v) => " " ++ name ++ "=" ++ v.written)

def lines (now : Instant) (r : LogRecord) : List String := (r.text now).splitOn "\n"

end LogRecord

end RecurringBilling
