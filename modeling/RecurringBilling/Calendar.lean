/-!
The proleptic Gregorian calendar in UTC. A date is a day number and an instant a number of
nanoseconds, both counted from the start of 1970 and bounded to the years -262143 to 262142.
Arithmetic that leaves the bounds gives nothing.
-/

namespace RecurringBilling

namespace Calendar

def isLeap (year : Int) : Bool := year % 4 == 0 && (year % 100 != 0 || year % 400 == 0)

/-- The day number of 1 January. -/
def yearStart (year : Int) : Int :=
  365 * year + (year - 1) / 4 - (year - 1) / 100 + (year - 1) / 400 - 719527

/-- The days of the year that pass before the month's first day. -/
def monthStart (leap : Bool) (month : Nat) : Nat :=
  let extra := if leap then 1 else 0
  match month with
  | 0 | 1 => 0
  | 2 => 31
  | 3 => 59 + extra
  | 4 => 90 + extra
  | 5 => 120 + extra
  | 6 => 151 + extra
  | 7 => 181 + extra
  | 8 => 212 + extra
  | 9 => 243 + extra
  | 10 => 273 + extra
  | 11 => 304 + extra
  | 12 => 334 + extra
  | _ => 365 + extra

def monthLength (year : Int) (month : Nat) : Nat :=
  monthStart (isLeap year) (month + 1) - monthStart (isLeap year) month

/-- The year that holds a day: an estimate by the mean length of a year is off by one at most. -/
def yearOf (day : Int) : Int :=
  let guess := (day + 719528) * 400 / 146097
  if day < yearStart guess then guess - 1
  else if yearStart (guess + 1) ≤ day then guess + 1
  else guess

/-- The month of a year that holds its day of the given number, the first being 0. -/
def monthOf (leap : Bool) (dayOfYear : Nat) : Nat :=
  ((List.range 12).filter fun m => decide (monthStart leap (m + 1) ≤ dayOfYear)).length

def firstDay : Int := yearStart (-262143)
def lastDay : Int := yearStart 262143 - 1

def nanosPerSecond : Int := 1000000000
def nanosPerDay : Int := 86400 * nanosPerSecond

end Calendar

open Calendar

/-- A calendar date, as the number of days since 1970-01-01. -/
structure Date where
  day : Int
  first_le : firstDay ≤ day
  le_last : day ≤ lastDay
  deriving DecidableEq

/-- An instant, as the number of nanoseconds since 1970-01-01T00:00:00Z. -/
structure Instant where
  nanos : Int
  first_le : firstDay * nanosPerDay ≤ nanos
  lt_end : nanos < (lastDay + 1) * nanosPerDay
  deriving DecidableEq

namespace Date

def ofDay? (day : Int) : Option Date :=
  if h : firstDay ≤ day ∧ day ≤ lastDay then some ⟨day, h.1, h.2⟩ else none

/-- The date of a year, month and day of the month, if the calendar has it. -/
def ofCivil? (year : Int) (month day : Nat) : Option Date :=
  if 1 ≤ month ∧ month ≤ 12 ∧ 1 ≤ day ∧ day ≤ monthLength year month then
    ofDay? (yearStart year + monthStart (isLeap year) month + (day - 1 : Nat))
  else none

def year (d : Date) : Int := yearOf d.day

def dayOfYear (d : Date) : Nat := (d.day - yearStart d.year).toNat

def month (d : Date) : Nat := monthOf (isLeap d.year) d.dayOfYear

/-- The day of the month, from 1. -/
def dayOfMonth (d : Date) : Nat := d.dayOfYear - monthStart (isLeap d.year) d.month + 1

instance : LE Date := ⟨fun a b => a.day ≤ b.day⟩
instance : LT Date := ⟨fun a b => a.day < b.day⟩
instance (a b : Date) : Decidable (a ≤ b) := inferInstanceAs (Decidable (a.day ≤ b.day))
instance (a b : Date) : Decidable (a < b) := inferInstanceAs (Decidable (a.day < b.day))

/-- The date some months later, or earlier if their number is negative. A day that the month
reached does not have becomes its last one. -/
def addMonths? (d : Date) (months : Int) : Option Date :=
  let count := d.year * 12 + (d.month - 1 : Nat) + months
  let year := count / 12
  let month := (count % 12).toNat + 1
  ofCivil? year month (min d.dayOfMonth (monthLength year month))

end Date

namespace Instant

def ofNanos? (nanos : Int) : Option Instant :=
  if h : firstDay * nanosPerDay ≤ nanos ∧ nanos < (lastDay + 1) * nanosPerDay then
    some ⟨nanos, h.1, h.2⟩
  else none

def first : Instant := ⟨firstDay * nanosPerDay, by decide, by decide⟩
def last : Instant := ⟨(lastDay + 1) * nanosPerDay - 1, by decide, by decide⟩

instance : LE Instant := ⟨fun a b => a.nanos ≤ b.nanos⟩
instance : LT Instant := ⟨fun a b => a.nanos < b.nanos⟩
instance (a b : Instant) : Decidable (a ≤ b) := inferInstanceAs (Decidable (a.nanos ≤ b.nanos))
instance (a b : Instant) : Decidable (a < b) := inferInstanceAs (Decidable (a.nanos < b.nanos))
instance : Min Instant := ⟨fun a b => if a ≤ b then a else b⟩

theorem firstDay_le_div {nanos : Int} (h : firstDay * nanosPerDay ≤ nanos) :
    firstDay ≤ nanos / nanosPerDay :=
  (Int.le_ediv_iff_mul_le (by decide)).2 h

theorem div_le_lastDay {nanos : Int} (h : nanos < (lastDay + 1) * nanosPerDay) :
    nanos / nanosPerDay ≤ lastDay :=
  Int.le_of_lt_add_one ((Int.ediv_lt_iff_lt_mul (by decide)).2 h)

/-- The UTC date on which the instant falls. -/
def date (t : Instant) : Date :=
  ⟨t.nanos / nanosPerDay, firstDay_le_div t.first_le, div_le_lastDay t.lt_end⟩

/-- Nanoseconds since midnight. -/
def timeOfDay (t : Instant) : Int := t.nanos % nanosPerDay

/-- The instant of a time of day, in nanoseconds since midnight. -/
def at? (d : Date) (timeOfDay : Int) : Option Instant :=
  ofNanos? (d.day * nanosPerDay + timeOfDay)

theorem midnight_lt_end {d : Date} : d.day * nanosPerDay < (lastDay + 1) * nanosPerDay :=
  Int.mul_lt_mul_of_pos_right (Int.lt_add_one_of_le d.le_last) (by decide)

def midnight (d : Date) : Instant :=
  ⟨d.day * nanosPerDay, Int.mul_le_mul_of_nonneg_right d.first_le (by decide), midnight_lt_end⟩

def addDays? (t : Instant) (days : Int) : Option Instant :=
  ofNanos? (t.nanos + days * nanosPerDay)

/-- The same time of day some months later or earlier, on the last day of the month if it is
shorter. -/
def addMonths? (t : Instant) (months : Int) : Option Instant := do
  at? (← t.date.addMonths? months) t.timeOfDay

def withDay? (t : Instant) (day : Nat) : Option Instant := do
  at? (← Date.ofCivil? t.date.year t.date.month day) t.timeOfDay

/-- Spans of time count milliseconds in 64 bits; a number of days beyond that is no span. -/
def daySpan? (days : Int) : Option Int :=
  if (days * 86400000).natAbs < 9223372036854775808 then some (days * nanosPerDay) else none

/-- So many days earlier, kept within the first and the last instant. -/
def daysBefore (t : Instant) (days : Int) : Instant :=
  match (do ofNanos? (t.nanos - (← daySpan? days))) with
  | some earlier => earlier
  | none => if days < 0 then last else first

/-- Midnight of the first day of the month. -/
def startOfMonth (t : Instant) : Instant :=
  match Date.ofCivil? t.date.year t.date.month 1 with
  | some d => midnight d
  | none => t

/-- The start of the month that lies so many months back, or of the present one if that is out of
bounds. -/
def monthsBackStart (t : Instant) (months : Nat) : Instant :=
  startOfMonth ((t.addMonths? (-(months : Int))).getD t)

/-- The last microsecond of the month. -/
def endOfMonth (t : Instant) : Instant :=
  match (do ofNanos? ((← t.startOfMonth.addMonths? 1).nanos - 1000)) with
  | some fin => fin
  | none => t

end Instant

/-- Midnight of the date and midnight of the next; the last date has no next. -/
def Date.bounds? (d : Date) : Option (Instant × Instant) := do
  return (Instant.midnight d, ← (Instant.midnight d).addDays? 1)

end RecurringBilling
