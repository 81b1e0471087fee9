import RecurringBilling.Binary

/-!
JSON values. A number written as an integer of at most 64 bits is exact, and any other is a real
with a sign, which zero has too.
-/

namespace RecurringBilling

inductive Json where
  | null
  | bool (value : Bool)
  | int (value : Int)
  | real (isNegative : Bool) (magnitude : Binary)
  | string (value : String)
  | array (elements : List Json)
  | object (members : List (String × Json))
  deriving Inhabited

namespace Json

/-- The value of the last member of that name. -/
def member? (name : String) (members : List (String × Json)) : Option Json :=
  (members.reverse.find? (·.1 == name)).map (·.2)

/-- The fields of a record by name, whatever else the object has, or the elements of an array of
just as many. -/
def record? (names : List String) : Json → Option (List Json)
  | object members => names.mapM (member? · members)
  | array elements => if elements.length = names.length then some elements else none
  | _ => none

/-- A word standing alone or as the name of a single member that is null. -/
def word? : Json → Option String
  | string word => some word
  | object [(word, null)] => some word
  | _ => none

def string? : Json → Option String
  | string s => some s
  | _ => none

/-- An integer of 64 bits with a sign. -/
def int? : Json → Option Int
  | int n => if -9223372036854775808 ≤ n ∧ n < 9223372036854775808 then some n else none
  | _ => none

end Json

end RecurringBilling
