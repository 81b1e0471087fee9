import RecurringBilling.Sql.Statement
import RecurringBilling.Store
import RecurringBilling.Table.Rows

/-!
The exchange with a database: statements go out and replies come in. A transaction is closed by a
commit if all of it went well, and otherwise by a rollback.
-/

namespace RecurringBilling.Sql

/-- A row of a result: the columns of each table that takes part, a count and a sum. -/
structure ResultRow where
  tables : List (Table × Cells) := []
  count : Value := .null
  sum : Value := .null

namespace ResultRow

def cells (r : ResultRow) (t : Table) : Cells :=
  ((r.tables.find? (·.1 == t)).map (·.2)).getD []

/-- The row as it comes back from the database. -/
def received (r : ResultRow) : ResultRow :=
  { r with tables := r.tables.map fun (t, cells) =>
      (t, cells.map fun (name, v) => (name, stored v)) }

end ResultRow

/-- What the database has in store for a statement. -/
inductive Reply where
  | rows (rows : List ResultRow) (affected : Nat)
  | error (message : String)
  | beginFails (message : String)
  | commitFails (message : String)

namespace Reply

/-- Why no transaction begins, if the reply is that none does. -/
def beginRefusal? : Reply → Option String
  | beginFails message => some message
  | _ => none

/-- Why there is no commit, if the reply is that there is none. -/
def commitRefusal? : Reply → Option String
  | commitFails message => some message
  | _ => none

end Reply

inductive Sent where
  | begin
  | commit
  | rollback
  | statement (s : Statement)
  | tick (now : Instant)

structure Exchange where
  clock : Instant
  replies : List Reply
  /-- The latest first. -/
  sent : List Sent := []

/-- A conversation with the database. -/
abbrev Talk (α : Type) := ExceptT Refusal (StateM Exchange) α

namespace Talk

variable {α : Type}

def refuse (e : StorageError) : Talk α := throw (.error e)

def send (s : Sent) : Talk Unit := modify fun x => { x with sent := s :: x.sent }

/-- Sends a statement; its rows and how many it affected. A database that has nothing in store
answers with no rows. -/
def execute (s : Statement) : Talk (List ResultRow × Nat) := do
  send (.statement s)
  match (← get).replies with
  | [] => return ([], 0)
  | reply :: rest =>
    modify fun x => { x with replies := rest }
    match reply with
    | .rows rows affected => return (rows.map ResultRow.received, affected)
    | .error message => refuse (.refused message)
    | .beginFails _ | .commitFails _ => return ([], 0)

def reading (r : Cells.Reading α) : Talk α :=
  match r with
  | .ok a => return a
  | .error e => refuse e

def rows (s : Statement) (read : ResultRow → Cells.Reading α) : Talk (List α) := do
  (← execute s).1.mapM fun r => reading (read r)

/-- The first row, if there is one. -/
def row? (s : Statement) (read : ResultRow → Cells.Reading α) : Talk (Option α) := do
  match (← execute s).1 with
  | [] => return none
  | r :: _ => return some (← reading (read r))

def row (s : Statement) (read : ResultRow → Cells.Reading α) : Talk α := do
  match ← row? s read with
  | some a => return a
  | none => refuse .recordNotFound

def affected (s : Statement) : Talk Nat := do
  return (← execute s).2

/-- Sends what begins or commits a transaction. A reply that refuses it is used up; any other is left
to the statements. -/
def control (s : Sent) (refusal? : Reply → Option String) : Talk Unit := do
  send s
  let replies := (← get).replies
  match replies.head?.bind refusal? with
  | none => return
  | some message =>
    modify fun x => { x with replies := replies.tail }
    refuse (.refused message)

def begin : Talk Unit := control .begin Reply.beginRefusal?

def commit : Talk Unit := control .commit Reply.commitRefusal?

/-- A failure of the work or of the commit is followed by a rollback, and by nothing else. -/
def orRollback (work : Talk α) : Talk α :=
  tryCatch work fun e => do
    send .rollback
    throw e

def transaction (work : Talk α) : Talk α := do
  begin
  orRollback do
    let result ← work
    commit
    return result

end Talk

end RecurringBilling.Sql
