import RecurringBilling.Decimal.Groups
import RecurringBilling.Json.Shown
import RecurringBilling.Json.Text
import RecurringBilling.Sql.Exchange

/-!
The exchange with a database in JSON: replies as they are given, and statements as they were sent.
Decimals come from the database in groups of digits, and JSON comes and goes as text.
-/

namespace RecurringBilling

open Sql

/-- A parameter as the database gets it. -/
def Value.sentJson : Value → Json
  | .json j => j.stored
  | v => v.toJson

instance : Shown Sent where
  shown
    | .begin => .object [("sql", shown "BEGIN")]
    | .commit => .object [("sql", shown "COMMIT")]
    | .rollback => .object [("sql", shown "ROLLBACK")]
    | .statement s =>
      .object [("sql", shown s.text), ("params", .array (s.parameters.map Value.sentJson))]
    | .tick now => .object [("tick", shown now)]

def Table.all : List Table :=
  [packages, features, packageFeatures, subscriptions, subscriptionItems, usageLogs, invoices,
    transactions]

namespace Json

def sentDecimal? (j : Json) : Option Value := (j.string?.bind Decimal.sentFor?).map .decimal

/-- A column as the database sends it. -/
def sentColumn? : ColumnType → Json → Option Value
  | .decimal, j => j.sentDecimal?
  | .json, j => some (.json j.stored)
  | type, j => type.read? j

/-- A column of a result that is not of a table; one that is absent holds null. -/
def cell? (j : Json) (name : String) (read : Json → Option Value) : Option Value :=
  match j.present? name with
  | none => some .null
  | some v => read v

/-- A row of a result: rows of tables by name, in which a field that is null holds null, and next
to them a count and a sum. -/
def resultRow? (j : Json) : Option ResultRow := do
  let tables ← Table.all.filterMapM fun t =>
    match j.get? t.name with
    | none => some none
    | some row => do return some (t, ← t.readColumns? .missingOnly sentColumn? t.columns row)
  return {
    tables := tables
    count := ← j.cell? "count" fun v => v.int?.map .int
    sum := ← j.cell? "sum" sentDecimal? }

def messageOf? (j : Json) : Option String := j.need "message" string?

/-- What a database has in store for a statement. -/
def reply? (j : Json) : Option Sql.Reply := do
  match j.get? "error", j.get? "BEGIN", j.get? "COMMIT" with
  | some fault, _, _ => return .error (← fault.messageOf?)
  | none, some fault, _ => return .beginFails (← fault.messageOf?)
  | none, none, some fault => return .commitFails (← fault.messageOf?)
  | none, none, none =>
    match j.get? "rows" with
    | some rows =>
      let rows ← rows.list? resultRow?
      return .rows rows (← j.orElse "affected" nat64? rows.length)
    | none => return .rows [] (← j.need "affected" nat64?)

end Json

end RecurringBilling
