import RecurringBilling.Table

/-!
SQL statements as data, and their text with numbered parameters. A parameter stands where its value
is used, so the numbers follow the text from left to right.
-/

namespace RecurringBilling.Sql

/-- A column of a table. -/
structure Ref where
  table : Table
  column : String
  deriving DecidableEq

inductive Condition where
  | equals (c : Ref) (v : Value)
  | oneOf (c : Ref) (vs : Value)
  | less (c : Ref) (v : Value)
  | lessEq (c : Ref) (v : Value)
  | greater (c : Ref) (v : Value)
  | greaterEq (c : Ref) (v : Value)
  | sumLessEq (c : Ref) (added bound : Value)
  | isNull (c : Ref)
  | and (a b : Condition)
  | or (a b : Condition)

inductive Selected where
  | column (c : Ref)
  | countAll
  | sum (c : Ref)

/-- What a statement selects from: a table, or a join on equal columns. -/
inductive Source where
  | table (t : Table)
  | join (left right : Source) (a b : Ref)

inductive Direction where
  | ascending
  | descending

structure Select where
  selected : List Selected
  source : Source
  condition : Condition
  groupBy : Option Ref := none
  order : List (Ref × Direction) := []
  firstOnly : Bool := false
  forUpdate : Bool := false

/-- What an update puts into a column: a value, or the sum of the column and a value. -/
inductive Assignment where
  | set (column : String) (v : Value)
  | increase (column : String) (v : Value)

structure Update where
  table : Table
  assignments : List Assignment
  condition : Condition
  returning : List Ref := []

/-- An insertion of rows; a null becomes the column's default. On a conflict of the key columns the
row that is there is updated instead. -/
structure Insert where
  table : Table
  rows : List Cells
  conflict : Option (List String × List Assignment) := none
  returning : List Ref := []

inductive Statement where
  | select (s : Select)
  | update (u : Update)
  | insert (i : Insert)

/-! Text -/

/-- A piece of a statement: text as it is, or a parameter. -/
inductive Piece where
  | text (s : String)
  | parameter (v : Value)

abbrev Pieces := List Piece

def between (opening : String) (middle : Pieces) (closing : String) : Pieces :=
  .text opening :: middle ++ [.text closing]

def separated (separator : String) : List Pieces → Pieces
  | [] => []
  | [p] => p
  | p :: rest => p ++ .text separator :: separated separator rest

def quoted (name : String) : String := "\"" ++ name ++ "\""

def Ref.text (c : Ref) : String := quoted c.table.name ++ "." ++ quoted c.column

def comparison (c : Ref) (operator : String) (v : Value) : Pieces :=
  [.text ("(" ++ c.text ++ " " ++ operator ++ " "), .parameter v, .text ")"]

def Condition.pieces : Condition → Pieces
  | equals c v => comparison c "=" v
  | oneOf c vs => [.text ("(" ++ c.text ++ " = ANY("), .parameter vs, .text "))"]
  | less c v => comparison c "<" v
  | lessEq c v => comparison c "<=" v
  | greater c v => comparison c ">" v
  | greaterEq c v => comparison c ">=" v
  | sumLessEq c added bound =>
    [.text ("((" ++ c.text ++ " + "), .parameter added, .text ") <= ", .parameter bound, .text ")"]
  | isNull c => [.text ("(" ++ c.text ++ " IS NULL)")]
  | and a b => between "(" (a.pieces ++ .text " AND " :: b.pieces) ")"
  | or a b => between "(" (a.pieces ++ .text " OR " :: b.pieces) ")"

def Selected.text : Selected → String
  | column c => c.text
  | countAll => "COUNT(*)"
  | sum c => "sum(" ++ c.text ++ ")"

def Source.text : Source → String
  | table t => quoted t.name
  | join left right a b =>
    "(" ++ left.text ++ " INNER JOIN " ++ right.text ++ " ON (" ++ a.text ++ " = " ++ b.text ++ "))"

def orderText : List (Ref × Direction) → String
  | [] => ""
  | order => " ORDER BY " ++ ", ".intercalate (order.map fun (c, d) =>
    c.text ++ match d with
      | .ascending => " ASC"
      | .descending => " DESC")

def Select.pieces (s : Select) : Pieces :=
  .text ("SELECT " ++ ", ".intercalate (s.selected.map Selected.text) ++ " FROM " ++
      s.source.text ++ " WHERE ") :: s.condition.pieces ++
    .text ((s.groupBy.map fun c => " GROUP BY " ++ c.text).getD "" ++ orderText s.order) ::
    (if s.firstOnly then [.text " LIMIT ", .parameter (.int 1)] else []) ++
    [.text (if s.forUpdate then " FOR UPDATE" else "")]

def Assignment.pieces (t : Table) : Assignment → Pieces
  | set column v => [.text (quoted column ++ " = "), .parameter v]
  | increase column v =>
    [.text (quoted column ++ " = (" ++ (⟨t, column⟩ : Ref).text ++ " + "), .parameter v, .text ")"]

def assignmentsPieces (t : Table) (as : List Assignment) : Pieces :=
  separated ", " (as.map (Assignment.pieces t))

def returningText : List Ref → String
  | [] => ""
  | refs => " RETURNING " ++ ", ".intercalate (refs.map Ref.text)

def Update.pieces (u : Update) : Pieces :=
  .text ("UPDATE " ++ quoted u.table.name ++ " SET ") :: assignmentsPieces u.table u.assignments ++
    .text " WHERE " :: u.condition.pieces ++ [.text (returningText u.returning)]

def insertedPiece : Value → Piece
  | .null => .text "DEFAULT"
  | v => .parameter v

def rowPieces (row : Cells) : Pieces :=
  between "(" (separated ", " (row.map fun (_, v) => [insertedPiece v])) ")"

def conflictPieces (t : Table) : Option (List String × List Assignment) → Pieces
  | none => []
  | some (keys, as) =>
    .text (" ON CONFLICT (" ++ ", ".intercalate (keys.map quoted) ++ ") DO UPDATE SET ") ::
      assignmentsPieces t as

def Insert.pieces (i : Insert) : Pieces :=
  .text ("INSERT INTO " ++ quoted i.table.name ++ " (" ++
      ", ".intercalate (((i.rows.head?.getD []).map (·.1)).map quoted) ++ ") VALUES ") ::
    separated ", " (i.rows.map rowPieces) ++ conflictPieces i.table i.conflict ++
    [.text (returningText i.returning)]

def Statement.pieces : Statement → Pieces
  | select s => s.pieces
  | update u => u.pieces
  | insert i => i.pieces

/-- The text of pieces, their parameters being counted on from the given number. -/
def textFrom : (next : Nat) → Pieces → String
  | _, [] => ""
  | next, .text s :: rest => s ++ textFrom next rest
  | next, .parameter _ :: rest => "$" ++ toString next ++ textFrom (next + 1) rest

def parametersOf : Pieces → List Value
  | [] => []
  | .text _ :: rest => parametersOf rest
  | .parameter v :: rest => v :: parametersOf rest

def Statement.text (s : Statement) : String := textFrom 1 s.pieces

/-- The instant of a whole microsecond next to the given one on the side of the start of 2000. -/
def wholeMicros (t : Instant) : Instant :=
  let start := 10957 * Calendar.nanosPerDay
  (Instant.ofNanos? (start + (t.nanos - start).tdiv 1000 * 1000)).getD t

/-- A value as the database holds it: it counts whole microseconds. -/
def stored : Value → Value
  | .instant t => .instant (wholeMicros t)
  | v => v

def Statement.parameters (s : Statement) : List Value := (parametersOf s.pieces).map stored

end RecurringBilling.Sql
