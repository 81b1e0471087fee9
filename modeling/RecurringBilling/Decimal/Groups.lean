import RecurringBilling.Decimal.Text

/-!
Decimals as a database sends them: in groups of four digits around the point. The integer part is
exact. The groups of the fraction are added to it one after the other, each sum rounded as every
sum is, and the number ends with as many of the places it was sent with as fit.
-/

namespace RecurringBilling.Decimal

/-- Fraction digits in groups of four, the last one filled with zeros. -/
def fractionGroups : List Char → List Nat
  | [] => []
  | a :: b :: c :: d :: rest => Text.natOfDigits [a, b, c, d] :: fractionGroups rest
  | cs => [Text.natOfDigits cs * pow10 (4 - cs.length)]

/-- Adds the fraction group with the given number of groups before it. The first group beyond the
last place counts as one unit of that place if it is at least half of it, and a later one for
nothing. -/
def addGroup (sum : Decimal) (group before : Nat) : Option Decimal :=
  if before < 7 then
    (ofUnits? group (4 * (before + 1))).bind fun d => (sum.add d).toOption
  else if before = 7 && 5000 ≤ group then
    (ofUnits? 1 28).bind fun d => (sum.add d).toOption
  else some sum

def ofGroups? (negative : Bool) (whole fraction : List Char) : Option Decimal := do
  let start ← ofInt? (Text.natOfDigits whole)
  let groups := (fractionGroups fraction).zipIdx
  let sum ← groups.foldlM (fun sum (group, before) => sum.addGroup group before) start
  let d ← nearest? sum.units (pow10 sum.scale) (min fraction.length 28)
  return (← ofUnits? (signed negative d.units.natAbs) d.scale).withZeroSign negative

/-- The digits before and after the point of a text that has only them and a sign. -/
def plainParts? (s : String) : Option (Bool × List Char × List Char) :=
  let (negative, cs) := match s.toList with
    | '-' :: rest => (true, rest)
    | '+' :: rest => (false, rest)
    | cs => (false, cs)
  let whole := cs.takeWhile Char.isDigit
  let fraction := (cs.dropWhile Char.isDigit).drop 1
  let pointed := (cs.dropWhile Char.isDigit).head?.all (· == '.')
  if pointed && fraction.all Char.isDigit && !(whole.isEmpty && fraction.isEmpty) then
    some (negative, whole, fraction)
  else none

/-- The number that a database sends for a text. -/
def sentFor? (s : String) : Option Decimal :=
  match plainParts? s with
  | some (negative, whole, fraction) => ofGroups? negative whole fraction
  | none => ofText? s

end RecurringBilling.Decimal
