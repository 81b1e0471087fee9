import RecurringBilling.Calendar.Text
import RecurringBilling.Id

/-!
Log records: a level, the part of the program that speaks, a message and named values.
-/

namespace RecurringBilling

inductive LogLevel where
  | error
  | warn
  | info
  | debug
  | trace
  deriving DecidableEq

namespace LogLevel

def name : LogLevel → String
  | error => "ERROR"
  | warn => "WARN"
  | info => "INFO"
  | debug => "DEBUG"
  | trace => "TRACE"

/-- How much a level lets through: 1 for errors alone, up to 5 for everything. -/
def rank : LogLevel → Nat
  | error => 1
  | warn => 2
  | info => 3
  | debug => 4
  | trace => 5

end LogLevel

/-- A value of a log record: shown as it is, or as a text between quotes. -/
inductive LogValue where
  | shown (text : String)
  | quoted (text : String)

structure LogRecord where
  level : LogLevel
  target : String
  message : String
  fields : List (String × LogValue)

namespace LogValue

/-- The value alone, without quotes. -/
def text : LogValue → String
  | shown t | quoted t => t

def ofId (id : Id) : LogValue := shown id.text

def ofDate (d : Date) : LogValue := shown d.text

def ofNat (n : Nat) : LogValue := shown (toString n)

def ofInt (n : Int) : LogValue := shown (toString n)

def ofBool (b : Bool) : LogValue := shown (if b then "true" else "false")

/-- An optional value: `None`, or the value's text within `Some(...)`. -/
def ofOption {α : Type} (text : α → String) : Option α → LogValue
  | none => shown "None"
  | some a => shown ("Some(" ++ text a ++ ")")

def ofInstant? (t : Option Instant) : LogValue := ofOption Instant.briefText t

def ofIds (ids : List Id) : LogValue :=
  shown ("[" ++ ", ".intercalate (ids.map Id.text) ++ "]")

end LogValue

/-- What a log says of a failure: its message, with the cause on lines of its own. -/
def failureReport (message : String) (cause? : Option String) : String :=
  match cause? with
  | some cause => message ++ "\n\nCaused by:\n    " ++ cause
  | none => message

/-- How a quoted text writes a character. -/
def escapeChar (c : Char) : String :=
  match c with
  | '"' => "\\\""
  | '\\' => "\\\\"
  | '\n' => "\\n"
  | '\r' => "\\r"
  | '\t' => "\\t"
  | c => if c.toNat = 0 then "\\0" else String.singleton c

def quote (s : String) : String := "\"" ++ String.join (s.toList.map escapeChar) ++ "\""

end RecurringBilling
