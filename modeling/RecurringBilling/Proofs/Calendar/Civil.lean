import Mathlib.Logic.Function.Iterate
import RecurringBilling.Proofs.Calendar.Windows

/-! Dates read as a month and a day of it. A day that is counted out from the first of a month is
read as that day of the month. -/

namespace RecurringBilling

namespace Calendar

/-- The year and the month of a year, for months counted through from year 0. -/
def monthAt (count : Int) : Int × Nat := (count / 12, (count % 12).toNat + 1)

def nextMonth : Int × Nat → Int × Nat
  | (year, month) => if month = 12 then (year + 1, 1) else (year, month + 1)

theorem nextMonth_monthAt (count : Int) : nextMonth (monthAt count) = monthAt (count + 1) := by
  by_cases h : (count % 12).toNat + 1 = 12
  · have hyear : (count + 1) / 12 = count / 12 + 1 := by omega
    have hmonth : (count + 1) % 12 = 0 := by omega
    simp [nextMonth, monthAt, h, hyear, hmonth]
  · have hyear : (count + 1) / 12 = count / 12 := by omega
    have hmonth : ((count + 1) % 12).toNat = (count % 12).toNat + 1 := by omega
    simp [nextMonth, monthAt, h, hyear, hmonth]

theorem iterate_nextMonth_monthAt (count : Int) (months : Nat) :
    nextMonth^[months] (monthAt count) = monthAt (count + months) := by
  induction months with
  | zero => simp
  | succ months ih =>
    rw [Function.iterate_succ_apply', ih, nextMonth_monthAt, Int.add_assoc, Int.natCast_succ]

/-- Whether the calendar reaches to a month. -/
def HasMonth (month : Int × Nat) : Prop := ∃ d : Date, (d.year, d.month) = month

end Calendar

open Calendar

namespace Date

variable {d : Date} {count : Int} {day : Nat}

def IsOn (d : Date) (month : Int × Nat) (day : Nat) : Prop :=
  (d.year, d.month) = month ∧ d.dayOfMonth = day

instance (d : Date) (month : Int × Nat) (day : Nat) : Decidable (d.IsOn month day) :=
  inferInstanceAs (Decidable ((d.year, d.month) = month ∧ d.dayOfMonth = day))

theorem monthAt_monthCount (d : Date) : monthAt d.monthCount = (d.year, d.month) := by
  obtain ⟨hyear, hmonth⟩ := d.monthCount_eq
  rw [monthAt, hyear, hmonth]

theorem monthCount_of_month (h : (d.year, d.month) = monthAt count) : d.monthCount = count := by
  rw [← monthAt_monthCount] at h
  obtain ⟨hyear, hmonth⟩ := Prod.mk.inj h
  omega

theorem hasMonth_monthAt_iff :
    HasMonth (monthAt count) ↔ firstMonth ≤ count ∧ count ≤ lastMonth := by
  constructor
  · rintro ⟨d, hd⟩
    rw [← monthCount_of_month hd]
    exact ⟨d.firstMonth_le, d.le_lastMonth⟩
  · intro hcount
    obtain ⟨d, hd⟩ := Option.isSome_iff_exists.mp
      (isSome_ofCivil? hcount (Nat.le_refl 1) (monthLength_pos count))
    exact ⟨d, by rw [← monthAt_monthCount, monthCount_of_ofCivil? hd]⟩

theorem dayOfMonth_bounds (d : Date) : 1 ≤ d.dayOfMonth ∧ d.dayOfMonth ≤ 31 := by
  obtain ⟨hday, hnext⟩ := d.day_eq
  have hlength := monthDay_add_monthLength d.monthCount
  have hbound := (monthLength_bounds d.monthCount).2
  have hpos : 1 ≤ d.dayOfMonth := Nat.le_add_left _ _
  omega

theorem isOn_of_day (hday : 1 ≤ day ∧ day ≤ monthLength (monthAt count).1 (monthAt count).2)
    (h : d.day = monthDay count + (day - 1 : Nat)) : d.IsOn (monthAt count) day := by
  have hnext : monthDay count + monthLength (monthAt count).1 (monthAt count).2 =
      monthDay (count + 1) := monthDay_add_monthLength count
  obtain rfl : d.monthCount = count := monthCount_of_le (by omega) (by omega)
  refine ⟨d.monthAt_monthCount.symm, ?_⟩
  have hread := d.day_eq.1
  have hpos := d.dayOfMonth_bounds.1
  omega

/-- Days beyond the end of a month are days of the next: no month is so short that they would reach
beyond that. -/
theorem isOn_nextMonth_of_day
    (hday : monthLength (monthAt count).1 (monthAt count).2 < day ∧ day ≤ 31)
    (h : d.day = monthDay count + (day - 1 : Nat)) :
    d.IsOn (nextMonth (monthAt count)) (day - monthLength (monthAt count).1 (monthAt count).2) := by
  have hlength : monthDay count + monthLength (monthAt count).1 (monthAt count).2 =
      monthDay (count + 1) := monthDay_add_monthLength count
  have hbound : 28 ≤ monthLength (monthAt count).1 (monthAt count).2 :=
    (monthLength_bounds count).1
  have hnext : 28 ≤ monthLength (monthAt (count + 1)).1 (monthAt (count + 1)).2 :=
    (monthLength_bounds (count + 1)).1
  rw [nextMonth_monthAt]
  exact isOn_of_day (by omega) (by omega)

/-- A day counted out from the first of a month is in the calendar if the month is, since the last
month is a December. -/
theorem le_lastDay_iff (hday : 1 ≤ day ∧ day ≤ 31) :
    monthDay count + (day - 1 : Nat) ≤ lastDay ↔ count ≤ lastMonth := by
  constructor
  · intro h
    have hlt : monthDay count < monthDay (lastMonth + 1) := by
      rw [monthDay_lastMonth]
      omega
    exact Int.le_of_lt_add_one (monthDay_lt_iff.mp hlt)
  · intro h
    have hle := monthDay_le_iff.mpr h
    have hlast : monthDay lastMonth + 31 = monthDay (lastMonth + 1) := by decide
    rw [monthDay_lastMonth] at hlast
    omega

end Date

namespace Instant

variable {t t' : Instant}

theorem date_midnight (d : Date) : (midnight d).date = d := by
  have hday : d.day * nanosPerDay / nanosPerDay = d.day := Int.mul_ediv_cancel _ (by decide)
  cases d
  simpa [date, midnight] using hday

theorem ofNanos?_eq_none_of_lt {day : Int} (h : lastDay < day) :
    ofNanos? (day * nanosPerDay + t.timeOfDay) = none := by
  rw [← Option.not_isSome_iff_eq_none, isSome_ofNanos?_day]
  omega

/-- At one time of day, instants are in the order of their days. -/
theorem lt_iff_day_lt (h : t.timeOfDay = t'.timeOfDay) : t < t' ↔ t.date.day < t'.date.day := by
  change t.nanos < t'.nanos ↔ _
  rw [t.nanos_eq, t'.nanos_eq, h]
  simp only [nanosPerDay, nanosPerSecond]
  omega

theorem addDays?_eq (t : Instant) (days : Int) : t.addDays? days =
    ofNanos? ((t.date.day + days) * nanosPerDay + t.timeOfDay) := by
  rw [addDays?, t.nanos_eq]
  congr 1
  simp only [nanosPerDay, nanosPerSecond]
  omega

end Instant

end RecurringBilling
