import Mathlib.Order.Monotone.Basic
import RecurringBilling.Proofs.Calendar.Months

/-! Months counted back from an instant and days counted back from one. Both are kept within the
bounds of time, and go back in order all the same. -/

namespace RecurringBilling

namespace Calendar

theorem monthLength_bounds (count : Int) :
    28 ≤ monthLength (count / 12) ((count % 12).toNat + 1) ∧
      monthLength (count / 12) ((count % 12).toNat + 1) ≤ 31 := by
  have hlength : ∀ leap, ∀ month ≤ 11,
      28 ≤ monthStart leap (month + 2) - monthStart leap (month + 1) ∧
        monthStart leap (month + 2) - monthStart leap (month + 1) ≤ 31 := by
    decide
  exact hlength (isLeap (count / 12)) (count % 12).toNat (by omega)

theorem monthLength_pos (count : Int) :
    1 ≤ monthLength (count / 12) ((count % 12).toNat + 1) :=
  Nat.le_trans (by decide) (monthLength_bounds count).1

theorem monthDay_add_monthLength (count : Int) :
    monthDay count + monthLength (count / 12) ((count % 12).toNat + 1) = monthDay (count + 1) := by
  have hlength : (monthLength (count / 12) ((count % 12).toNat + 1) : Int) =
      monthStart (isLeap (count / 12)) ((count % 12).toNat + 2) -
        monthStart (isLeap (count / 12)) ((count % 12).toNat + 1) :=
    Int.ofNat_sub (monthStart_le_succ _ _)
  rw [monthDay_succ, monthDay, hlength]
  omega

theorem monthDay_lt_iff {m n : Int} : monthDay m < monthDay n ↔ m < n := by
  have hmono : StrictMono monthDay := strictMono_int_of_lt_succ fun count => by
    have hpos := monthLength_pos count
    have hnext := monthDay_add_monthLength count
    omega
  exact hmono.lt_iff_lt

theorem monthDay_le_iff {m n : Int} : monthDay m ≤ monthDay n ↔ m ≤ n := by
  rw [← Int.not_lt, monthDay_lt_iff, Int.not_lt]

/-- The months that time has, counted through from year 0. -/
def firstMonth : Int := -262143 * 12
def lastMonth : Int := 262143 * 12 - 1

theorem monthDay_firstMonth : monthDay firstMonth = firstDay := by decide
theorem monthDay_lastMonth : monthDay (lastMonth + 1) = lastDay + 1 := by decide

end Calendar

open Calendar

namespace Date

variable {d d' : Date} {count months : Int} {day : Nat}

/-- A date is in the month whose first day it has reached and whose last it has not passed. -/
theorem monthCount_of_le (hfirst : monthDay count ≤ d.day)
    (hnext : d.day < monthDay (count + 1)) : d.monthCount = count := by
  obtain ⟨hday, hday'⟩ := d.day_eq
  have hle : d.monthCount < count + 1 := monthDay_lt_iff.mp (by omega)
  have hge : count < d.monthCount + 1 := monthDay_lt_iff.mp (by omega)
  omega

theorem monthDay_le (d : Date) : monthDay d.monthCount ≤ d.day := by
  have h := d.day_eq.1
  omega

theorem firstMonth_le (d : Date) : firstMonth ≤ d.monthCount := by
  have hfirst : monthDay firstMonth < monthDay (d.monthCount + 1) := by
    rw [monthDay_firstMonth]
    exact Int.lt_of_le_of_lt d.first_le d.day_eq.2
  exact Int.le_of_lt_add_one (monthDay_lt_iff.mp hfirst)

theorem le_lastMonth (d : Date) : d.monthCount ≤ lastMonth := by
  have hlast : monthDay d.monthCount < monthDay (lastMonth + 1) := by
    rw [monthDay_lastMonth]
    exact Int.lt_add_one_of_le (Int.le_trans d.monthDay_le d.le_last)
  exact Int.le_of_lt_add_one (monthDay_lt_iff.mp hlast)

theorem monthCount_of_ofCivil?
    (h : ofCivil? (count / 12) ((count % 12).toNat + 1) day = some d) : d.monthCount = count := by
  have hday := ofCivil?_eq_some h
  rw [← monthDay] at hday
  have hlength : 1 ≤ day ∧ day ≤ monthLength (count / 12) ((count % 12).toNat + 1) := by
    by_contra hnot
    rw [ofCivil?, if_neg fun hall => hnot hall.2.2] at h
    cases h
  have hnext := monthDay_add_monthLength count
  exact monthCount_of_le (by omega) (by omega)

/-- A month that time has has all its days. -/
theorem isSome_ofCivil? (hcount : firstMonth ≤ count ∧ count ≤ lastMonth) (hday : 1 ≤ day)
    (hlength : day ≤ monthLength (count / 12) ((count % 12).toNat + 1)) :
    (ofCivil? (count / 12) ((count % 12).toNat + 1) day).isSome := by
  have hfirst : firstDay ≤ monthDay count := by
    rw [← monthDay_firstMonth]
    exact monthDay_le_iff.mpr hcount.1
  have hlast : monthDay (count + 1) ≤ lastDay + 1 := by
    rw [← monthDay_lastMonth]
    exact monthDay_le_iff.mpr (Int.add_le_add_right hcount.2 1)
  have hnext := monthDay_add_monthLength count
  rw [ofCivil?, if_pos ⟨by omega, by omega, hday, hlength⟩, ofDay?, ← monthDay,
    dif_pos ⟨by omega, by omega⟩, Option.isSome_some]

/-- The month of a date has a first. -/
theorem exists_first (d : Date) : ∃ first, ofCivil? d.year d.month 1 = some first ∧
    first.day = monthDay d.monthCount := by
  obtain ⟨hyear, hmonth⟩ := d.monthCount_eq
  have hsome := isSome_ofCivil? ⟨d.firstMonth_le, d.le_lastMonth⟩ (Nat.le_refl 1)
    (monthLength_pos _)
  rw [hyear, hmonth] at hsome
  obtain ⟨first, hfirst⟩ := Option.isSome_iff_exists.mp hsome
  refine ⟨first, hfirst, ?_⟩
  rw [monthDay, hyear, hmonth]
  simpa using ofCivil?_eq_some hfirst

theorem monthCount_of_addMonths? (h : d.addMonths? months = some d') :
    d'.monthCount = d.monthCount + months := monthCount_of_ofCivil? h

/-- Months added to the first of a month lead to the first of a month. -/
theorem day_of_addMonths?_first (hfirst : d.day = monthDay d.monthCount)
    (h : d.addMonths? months = some d') : d'.day = monthDay (d.monthCount + months) := by
  have hday := ofCivil?_eq_some h
  have hread := d.day_eq.1
  have hpos : 1 ≤ d.dayOfMonth := Nat.le_add_left _ _
  have hone : d.dayOfMonth = 1 := by omega
  have hlength : 1 ≤ monthLength ((d.monthCount + months) / 12)
      (((d.monthCount + months) % 12).toNat + 1) := monthLength_pos _
  rw [hone, ← monthCount, Nat.min_eq_left hlength, ← monthDay] at hday
  simpa using hday

/-- Months can be added exactly if time has the month that they lead to. -/
theorem isSome_addMonths? : (d.addMonths? months).isSome ↔
    firstMonth ≤ d.monthCount + months ∧ d.monthCount + months ≤ lastMonth := by
  constructor
  · intro h
    obtain ⟨d', hd'⟩ := Option.isSome_iff_exists.mp h
    rw [← monthCount_of_addMonths? hd']
    exact ⟨d'.firstMonth_le, d'.le_lastMonth⟩
  · intro h
    have hday : 1 ≤ d.dayOfMonth := Nat.le_add_left _ _
    exact isSome_ofCivil? h (Nat.le_min.mpr ⟨hday, monthLength_pos _⟩) (Nat.min_le_right _ _)

end Date

namespace Instant

variable {t t' t'' : Instant} {months days : Int}

theorem le_trans (h : t ≤ t') (h' : t' ≤ t'') : t ≤ t'' :=
  Int.le_trans (show t.nanos ≤ t'.nanos from h) h'

theorem min_le_right (t t' : Instant) : min t t' ≤ t' := by
  change (if t ≤ t' then t else t') ≤ t'
  split
  · assumption
  · exact Int.le_refl _

theorem le_min (h : t ≤ t') (h' : t ≤ t'') : t ≤ min t' t'' := by
  change t ≤ if t' ≤ t'' then t' else t''
  split <;> assumption

theorem isSome_ofNanos? {nanos : Int} : (ofNanos? nanos).isSome ↔
    firstDay * nanosPerDay ≤ nanos ∧ nanos < (lastDay + 1) * nanosPerDay := by
  unfold ofNanos?
  split
  · rename_i h
    simp [h]
  · rename_i h
    simp [h]

/-- A time of day can be had on every day that the calendar has. -/
theorem isSome_ofNanos?_day (t : Instant) (day : Int) :
    (ofNanos? (day * nanosPerDay + t.timeOfDay)).isSome ↔ firstDay ≤ day ∧ day ≤ lastDay := by
  obtain ⟨hlow, hhigh⟩ := t.timeOfDay_bounds
  rw [isSome_ofNanos?]
  simp only [nanosPerDay, nanosPerSecond] at *
  omega

theorem isSome_at? (d : Date) (t : Instant) : (at? d t.timeOfDay).isSome :=
  (t.isSome_ofNanos?_day d.day).mpr ⟨d.first_le, d.le_last⟩

theorem date_of_at? {d : Date} (h : at? d t.timeOfDay = some t') : t'.date = d := by
  have hday := (day_of_ofNanos? h).1
  cases d
  simpa [date] using hday

theorem monthCount_of_addMonths? (h : t.addMonths? months = some t') :
    t'.date.monthCount = t.date.monthCount + months := by
  obtain ⟨d, hd, hat⟩ := Option.bind_eq_some_iff.mp h
  obtain rfl := date_of_at? hat
  exact Date.monthCount_of_addMonths? hd

theorem isSome_addMonths? : (t.addMonths? months).isSome ↔
    firstMonth ≤ t.date.monthCount + months ∧ t.date.monthCount + months ≤ lastMonth := by
  rw [← Date.isSome_addMonths?, addMonths?]
  cases hd : t.date.addMonths? months with
  | none => rfl
  | some d => simpa using isSome_at? d t

theorem nanos_startOfMonth (t : Instant) :
    t.startOfMonth.nanos = monthDay t.date.monthCount * nanosPerDay := by
  obtain ⟨first, hfirst, hday⟩ := t.date.exists_first
  simp [startOfMonth, hfirst, midnight, hday]

theorem startOfMonth_le (t : Instant) : t.startOfMonth ≤ t := by
  change t.startOfMonth.nanos ≤ t.nanos
  have hday := t.date.monthDay_le
  have htime := t.timeOfDay_bounds.1
  rw [nanos_startOfMonth, t.nanos_eq]
  simp only [nanosPerDay, nanosPerSecond]
  omega

theorem day_startOfMonth (t : Instant) : t.startOfMonth.date.day = monthDay t.date.monthCount := by
  change t.startOfMonth.nanos / nanosPerDay = _
  rw [nanos_startOfMonth, Int.mul_ediv_cancel _ (by decide)]

theorem monthCount_startOfMonth (t : Instant) :
    t.startOfMonth.date.monthCount = t.date.monthCount := by
  have hday := t.day_startOfMonth
  refine Date.monthCount_of_le (Int.le_of_eq hday.symm) ?_
  rw [hday]
  exact monthDay_lt_iff.mpr (Int.lt_succ _)

/-- Months after the start of a month is the start of a month. -/
theorem nanos_of_addMonths?_startOfMonth (h : t.startOfMonth.addMonths? months = some t') :
    t'.nanos = monthDay (t.date.monthCount + months) * nanosPerDay := by
  obtain ⟨d, hd, hat⟩ := Option.bind_eq_some_iff.mp h
  have hmidnight : t.startOfMonth.timeOfDay = 0 := by
    rw [timeOfDay, nanos_startOfMonth, Int.mul_emod_left]
  have hfirst : t.startOfMonth.date.day = monthDay t.startOfMonth.date.monthCount := by
    rw [day_startOfMonth, monthCount_startOfMonth]
  have hday := Date.day_of_addMonths?_first hfirst hd
  rw [monthCount_startOfMonth] at hday
  rw [ofNanos?_eq_some hat, hmidnight, hday, Int.add_zero]

/-- The end of a month is in the month, also where time ends before the next one starts. -/
theorem monthCount_endOfMonth (t : Instant) : t.endOfMonth.date.monthCount = t.date.monthCount := by
  unfold endOfMonth
  split
  · rename_i fin hfin
    obtain ⟨next, hnext, hfin⟩ := Option.bind_eq_some_iff.mp hfin
    have hnanos := ofNanos?_eq_some hfin
    have hday : fin.date.day = fin.nanos / nanosPerDay := rfl
    have hstep := monthDay_lt_iff.mpr (Int.lt_succ t.date.monthCount)
    rw [hnanos, nanos_of_addMonths?_startOfMonth hnext] at hday
    simp only [nanosPerDay, nanosPerSecond] at hday
    exact Date.monthCount_of_le (by omega) (by omega)
  · rfl

theorem startOfMonth_le_endOfMonth (t : Instant) : t.startOfMonth ≤ t.endOfMonth := by
  unfold endOfMonth
  split
  · rename_i fin hfin
    obtain ⟨next, hnext, hfin⟩ := Option.bind_eq_some_iff.mp hfin
    have hcount := monthCount_of_addMonths? hnext
    rw [monthCount_startOfMonth] at hcount
    have hday := next.date.monthDay_le
    rw [hcount] at hday
    have hlater := monthDay_lt_iff.mpr (Int.lt_succ t.date.monthCount)
    have htime := next.timeOfDay_bounds.1
    change t.startOfMonth.nanos ≤ fin.nanos
    rw [ofNanos?_eq_some hfin, nanos_startOfMonth, next.nanos_eq]
    simp only [nanosPerDay, nanosPerSecond]
    omega
  · exact t.startOfMonth_le

theorem monthsBackStart_le_endOfMonth (t : Instant) (n : Nat) :
    t.monthsBackStart n ≤ (t.monthsBackStart n).endOfMonth := by
  have hstart := (t.monthsBackStart n).startOfMonth_le_endOfMonth
  -- the start of a month is the start of its month
  change (t.monthsBackStart n).nanos ≤ _
  rwa [monthsBackStart, nanos_startOfMonth, ← monthCount_startOfMonth, ← nanos_startOfMonth]

/-- The start of the month so many months back, as long as time has that month. -/
theorem nanos_monthsBackStart {n : Nat} (h : (t.addMonths? (-(n : Int))).isSome) :
    (t.monthsBackStart n).nanos = monthDay (t.date.monthCount - n) * nanosPerDay := by
  obtain ⟨back, hback⟩ := Option.isSome_iff_exists.mp h
  rw [monthsBackStart, hback, Option.getD_some, nanos_startOfMonth, monthCount_of_addMonths? hback,
    Int.sub_eq_add_neg]

/-- Whether an instant is the first of a month. -/
def IsFirstOf (t : Instant) (count : Int) : Prop :=
  t.date.monthCount = count ∧ ∀ t' : Instant, t'.date.monthCount = count → t ≤ t'

theorem isFirstOf_monthsBackStart {n : Nat} (h : (t.addMonths? (-(n : Int))).isSome) :
    (t.monthsBackStart n).IsFirstOf (t.date.monthCount - n) := by
  obtain ⟨back, hback⟩ := Option.isSome_iff_exists.mp h
  refine ⟨?_, fun t' ht' => ?_⟩
  · rw [monthsBackStart, hback, Option.getD_some, monthCount_startOfMonth,
      monthCount_of_addMonths? hback, Int.sub_eq_add_neg]
  · have hday := t'.date.monthDay_le
    have htime := t'.timeOfDay_bounds.1
    change (t.monthsBackStart n).nanos ≤ t'.nanos
    rw [nanos_monthsBackStart h, ← ht', t'.nanos_eq]
    simp only [nanosPerDay, nanosPerSecond]
    omega

/-- Fewer months back is later, and possible if more are. -/
theorem monthsBackStart_anti {m n : Nat} (h : (t.addMonths? (-(n : Int))).isSome) (hmn : m ≤ n) :
    t.monthsBackStart n ≤ t.monthsBackStart m := by
  have hbounds := isSome_addMonths?.mp h
  have hm : (t.addMonths? (-(m : Int))).isSome :=
    isSome_addMonths?.mpr ⟨by omega, by have := t.date.le_lastMonth; omega⟩
  change (t.monthsBackStart n).nanos ≤ (t.monthsBackStart m).nanos
  rw [nanos_monthsBackStart h, nanos_monthsBackStart hm]
  have hcount : t.date.monthCount - n ≤ t.date.monthCount - m := by omega
  exact Int.mul_le_mul_of_nonneg_right (monthDay_le_iff.mpr hcount) (by decide)

theorem nanos_bounds (t : Instant) : first.nanos ≤ t.nanos ∧ t.nanos ≤ last.nanos :=
  ⟨t.first_le, Int.le_sub_one_of_lt t.lt_end⟩

theorem exists_nanos_eq {nanos : Int} (h : first.nanos ≤ nanos ∧ nanos ≤ last.nanos) :
    ∃ t : Instant, t.nanos = nanos :=
  ⟨⟨nanos, h.1, Int.lt_of_le_sub_one h.2⟩, rfl⟩

/-- The days from one instant to another are a span: the longest span is longer than all time. -/
theorem daySpan?_of_nanos (h : t'.nanos = t.nanos - days * nanosPerDay) :
    daySpan? days = some (days * nanosPerDay) := by
  have hends : first.nanos = -96465292 * nanosPerDay ∧
      last.nanos = 95026237 * nanosPerDay - 1 := by decide
  have hfrom := t.nanos_bounds
  have hto := t'.nanos_bounds
  have hspan : (days * 86400000).natAbs < 9223372036854775808 := by
    simp only [nanosPerDay, nanosPerSecond] at *
    omega
  exact if_pos hspan

theorem daysBefore_of_nanos (h : t'.nanos = t.nanos - days * nanosPerDay) :
    t.daysBefore days = t' := by
  have hreached : ofNanos? (t.nanos - days * nanosPerDay) = some t' := ofNanos?_eq_some_iff.mpr h
  simp [daysBefore, daySpan?_of_nanos h, hreached]

/-- Where no instant lies so many days back, there is no such span or it leads out of bounds; either
way the sign of the days says which end of time it is. -/
theorem daysBefore_of_forall_ne (h : ∀ t' : Instant, t'.nanos ≠ t.nanos - days * nanosPerDay) :
    t.daysBefore days = if days < 0 then last else first := by
  unfold daysBefore
  split
  · rename_i earlier hearlier
    obtain ⟨span, hspan, hreached⟩ := Option.bind_eq_some_iff.mp hearlier
    obtain rfl : days * nanosPerDay = span :=
      Option.some.inj (Option.ite_none_right_eq_some.mp hspan).2
    exact absurd (ofNanos?_eq_some hreached) (h earlier)
  · rfl

theorem daysBefore_eq_first (h : t.nanos - days * nanosPerDay < first.nanos) :
    t.daysBefore days = first := by
  have hsign : ¬ days < 0 := by
    have hfrom := t.nanos_bounds.1
    simp only [nanosPerDay, nanosPerSecond] at *
    omega
  rw [daysBefore_of_forall_ne fun t' ht' => ?_, if_neg hsign]
  have hto := t'.nanos_bounds.1
  omega

theorem daysBefore_eq_last (h : last.nanos < t.nanos - days * nanosPerDay) :
    t.daysBefore days = last := by
  have hsign : days < 0 := by
    have hfrom := t.nanos_bounds.2
    simp only [nanosPerDay, nanosPerSecond] at *
    omega
  rw [daysBefore_of_forall_ne fun t' ht' => ?_, if_pos hsign]
  have hto := t'.nanos_bounds.2
  omega

/-- Days back are counted in full and then kept within the first and the last instant. -/
theorem nanos_daysBefore (t : Instant) (days : Int) : (t.daysBefore days).nanos =
    max first.nanos (min last.nanos (t.nanos - days * nanosPerDay)) := by
  have hends : first.nanos ≤ last.nanos := by decide
  by_cases hlow : t.nanos - days * nanosPerDay < first.nanos
  · rw [daysBefore_eq_first hlow]
    omega
  · by_cases hhigh : last.nanos < t.nanos - days * nanosPerDay
    · rw [daysBefore_eq_last hhigh]
      omega
    · obtain ⟨t', ht'⟩ := exists_nanos_eq ⟨Int.not_lt.mp hlow, Int.not_lt.mp hhigh⟩
      rw [daysBefore_of_nanos ht', ht']
      omega

/-- Days back from a later instant lead to a later one, also where they lead out of bounds. -/
theorem daysBefore_mono (h : t ≤ t') : t.daysBefore days ≤ t'.daysBefore days := by
  change (t.daysBefore days).nanos ≤ (t'.daysBefore days).nanos
  have hle : t.nanos ≤ t'.nanos := h
  rw [nanos_daysBefore, nanos_daysBefore]
  omega

/-- More days back lead to an earlier instant, also where they are too many for a span. -/
theorem daysBefore_anti {days' : Int} (h : days ≤ days') :
    t.daysBefore days' ≤ t.daysBefore days := by
  change (t.daysBefore days').nanos ≤ (t.daysBefore days).nanos
  have hle : days * nanosPerDay ≤ days' * nanosPerDay :=
    Int.mul_le_mul_of_nonneg_right h (by decide)
  rw [nanos_daysBefore, nanos_daysBefore]
  omega

/-- Whether an instant is where a count of nanoseconds leads or, if that is out of bounds, the end
of time that is nearer to it. -/
structure IsClampOf (t : Instant) (nanos : Int) : Prop where
  within : first.nanos ≤ nanos → nanos ≤ last.nanos → t.nanos = nanos
  below : nanos < first.nanos → t = first
  above : last.nanos < nanos → t = last

/-- Days back are an exact subtraction that stops at the ends of time, and so they keep the order of
the instants and reverse that of the days. -/
theorem daysBefore_clamped :
    (∀ (t : Instant) (days : Int),
      (t.daysBefore days).IsClampOf (t.nanos - days * 86400 * nanosPerSecond)) ∧
    (∀ (days : Int) (t t' : Instant), t ≤ t' → t.daysBefore days ≤ t'.daysBefore days) ∧
    ∀ (t : Instant) (days days' : Int), days ≤ days' →
      t.daysBefore days' ≤ t.daysBefore days := by
  refine ⟨fun t days => ?_, fun _ _ _ => daysBefore_mono, fun _ _ _ => daysBefore_anti⟩
  have hnanos : days * 86400 * nanosPerSecond = days * nanosPerDay := Int.mul_assoc _ _ _
  rw [hnanos]
  refine ⟨fun hlow hhigh => ?_, daysBefore_eq_first, daysBefore_eq_last⟩
  obtain ⟨t', ht'⟩ := exists_nanos_eq ⟨hlow, hhigh⟩
  rw [daysBefore_of_nanos ht', ht']

def juneNoon : Instant := ⟨19889 * nanosPerDay + 43200 * nanosPerSecond, by decide, by decide⟩
def mayNoon : Instant := ⟨19859 * nanosPerDay + 43200 * nanosPerSecond, by decide, by decide⟩

/-- Thirty days back from a noon in June is a noon in May, and one day more than the longest span
leads to an end of time, forwards and back. -/
theorem daysBefore_clamped_juneNoon :
    first.nanos ≤ mayNoon.nanos ∧ mayNoon.nanos ≤ last.nanos ∧
      (juneNoon.daysBefore 30).nanos = mayNoon.nanos ∧
      (daySpan? 106751991167).isSome ∧ daySpan? 106751991168 = none ∧
      juneNoon.daysBefore 106751991168 = first ∧ juneNoon.daysBefore (-106751991168) = last ∧
      mayNoon ≤ juneNoon ∧ mayNoon.daysBefore 30 ≤ juneNoon.daysBefore 30 ∧
      juneNoon.daysBefore 106751991168 ≤ juneNoon.daysBefore 106751991167 := by
  obtain ⟨hclamp, hmono, hanti⟩ := daysBefore_clamped
  exact ⟨by decide, by decide, (hclamp juneNoon 30).within (by decide) (by decide), by decide,
    by decide, (hclamp juneNoon 106751991168).below (by decide),
    (hclamp juneNoon (-106751991168)).above (by decide), by decide,
    hmono 30 mayNoon juneNoon (by decide), hanti juneNoon _ _ (by decide)⟩

end Instant

end RecurringBilling
