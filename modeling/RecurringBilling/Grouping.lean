/-!
Grouping: rows put together by a key, the groups in the order of their keys and the rows of a group
in the order in which they came.
-/

namespace RecurringBilling

variable {α κ : Type}

/-- Adds a row to the group of its key, in a list of groups sorted by key. -/
def insertRow (before : κ → κ → Bool) (key : κ) (row : α) :
    List (κ × List α) → List (κ × List α)
  | [] => [(key, [row])]
  | (k, rows) :: rest =>
    if before key k then (key, [row]) :: (k, rows) :: rest
    else if before k key then (k, rows) :: insertRow before key row rest
    else (k, rows ++ [row]) :: rest

def groupBy (before : κ → κ → Bool) (key : α → κ) (rows : List α) : List (κ × List α) :=
  rows.foldl (fun groups row => insertRow before (key row) row groups) []

end RecurringBilling
