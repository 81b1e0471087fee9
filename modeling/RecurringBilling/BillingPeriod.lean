import RecurringBilling.Calendar
import RecurringBilling.Decimal

/-!
Billing periods: how far one reaches from its start, and what a price per period comes to in a
month.
-/

namespace RecurringBilling

inductive BillingPeriod where
  | day
  | week
  | month
  | year
  | lifetime
  deriving DecidableEq

/-- Moves on by months from the first of the month and then adds the days again, so that days that
the month reached does not have run over into the next. -/
def Instant.addMonthsOver? (start : Instant) (months : Nat) : Option Instant := do
  let first ← start.withDay? 1
  (← first.addMonths? months).addDays? (start.date.dayOfMonth - 1 : Nat)

namespace BillingPeriod

instance : Inhabited BillingPeriod := ⟨month⟩

def word : BillingPeriod → String
  | day => "day"
  | week => "week"
  | month => "month"
  | year => "year"
  | lifetime => "lifetime"

def ofWord? : String → Option BillingPeriod
  | "day" => some day
  | "week" => some week
  | "month" => some month
  | "year" => some year
  | "lifetime" => some lifetime
  | _ => none

/-- The instant so many periods after the start; a lifetime has no end. -/
def advance? (period : BillingPeriod) (start : Instant) (interval : Nat) : Option Instant :=
  match period with
  | day => start.addDays? interval
  | week => start.addDays? (7 * interval : Nat)
  | month => start.addMonthsOver? interval
  | year => start.addMonthsOver? (12 * interval)
  | lifetime => none

/-- The end of the first cycle. A period that is not known is a month, whatever the interval, and
an interval below one counts as one. -/
def cycleEnd? (start : Instant) (period : Option BillingPeriod) (interval : Int) :
    Option Instant :=
  match period with
  | some period => period.advance? start (max interval 1).toNat
  | none => month.advance? start 1

def daysPerMonth : Decimal := .whole 30 (by decide)
def weeksPerMonth : Decimal :=
  { units := 433, scale := 2, units_lt := by decide, scale_le := by decide }

/-- The quotient by a whole number of months. -/
def perMonths (amount : Decimal) (months : Int) : Except ArithmeticFault Decimal := do
  amount.div (← Decimal.orFault .multiplication (Decimal.ofInt? months))

/-- The price of a period in terms of one month, a month having 30 days or 4.33 weeks. -/
def monthlyAmount (period : BillingPeriod) (price : Decimal) (interval : Int) :
    Except ArithmeticFault Decimal :=
  let interval := max interval 1
  match period with
  | day => do perMonths (← price.mul daysPerMonth) interval
  | week => do perMonths (← price.mul weeksPerMonth) interval
  | month => perMonths price interval
  | year => perMonths price (12 * interval)
  | lifetime => .ok 0

/-- The monthly amount of a period given by its word; an unknown one counts for nothing. -/
def monthlyAmountOfWord (word : String) (price : Decimal) (interval : Int) :
    Except ArithmeticFault Decimal :=
  match ofWord? word with
  | some period => period.monthlyAmount price interval
  | none => .ok 0

end BillingPeriod

end RecurringBilling
