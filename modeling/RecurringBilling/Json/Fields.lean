import RecurringBilling.Calendar.Text
import RecurringBilling.Decimal.Text
import RecurringBilling.Id
import RecurringBilling.Json

/-!
Fields of JSON objects, read by type. A field that is null counts as absent, and a field of the
wrong type makes the whole reading fail.
-/

namespace RecurringBilling.Json

def get? (j : Json) (name : String) : Option Json :=
  match j with
  | object members => member? name members
  | _ => none

/-- The field, unless it is absent or null. -/
def present? (j : Json) (name : String) : Option Json :=
  match j.get? name with
  | some null => none
  | other => other

variable {α : Type}

def need (j : Json) (name : String) (read : Json → Option α) : Option α :=
  (j.present? name).bind read

def optional (j : Json) (name : String) (read : Json → Option α) : Option (Option α) :=
  match j.present? name with
  | none => some none
  | some v => (read v).map some

def orElse (j : Json) (name : String) (read : Json → Option α) (value : α) : Option α :=
  (j.optional name read).map (·.getD value)

def bool? : Json → Option Bool
  | bool b => some b
  | _ => none

/-- An integer within bounds. -/
def intIn? (low high : Int) : Json → Option Int
  | int n => if low ≤ n ∧ n ≤ high then some n else none
  | _ => none

def int32? : Json → Option Int := intIn? (-2147483648) 2147483647

def nat32? (j : Json) : Option Nat := (intIn? 0 4294967295 j).map Int.toNat

def nat64? (j : Json) : Option Nat := (intIn? 0 18446744073709551615 j).map Int.toNat

def list? (read : Json → Option α) : Json → Option (List α)
  | array elements => elements.mapM read
  | _ => none

/-- An identifier, as a number or as a text. -/
def id? : Json → Option Id
  | int (.ofNat n) => some (.ofNat n)
  | string s => Id.ofText? s
  | _ => none

def instant? (j : Json) : Option Instant := j.string?.bind Instant.ofText?

def date? (j : Json) : Option Date := j.string?.bind Date.ofText?

def decimal? (j : Json) : Option Decimal := j.string?.bind Decimal.ofText?

end RecurringBilling.Json
