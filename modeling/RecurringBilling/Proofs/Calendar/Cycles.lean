import RecurringBilling.BillingPeriod
import RecurringBilling.Proofs.Calendar.Civil

/-! Where billing periods end. A number of periods comes down to the day on which they are over,
which is later the more there are. There is an end as long as the calendar has that day. -/

namespace RecurringBilling

open Calendar

namespace Instant

variable {start t : Instant} {months : Nat}

theorem withDay?_one (start : Instant) : ∃ first, start.withDay? 1 = some first ∧
    first.date.monthCount = start.date.monthCount ∧ first.date.dayOfMonth = 1 ∧
      first.timeOfDay = start.timeOfDay := by
  obtain ⟨d, hd, hday⟩ := start.date.exists_first
  obtain ⟨first, hfirst⟩ := Option.isSome_iff_exists.mp (isSome_at? d start)
  obtain rfl := date_of_at? hfirst
  obtain ⟨hmonth, hone⟩ := Date.isOn_of_day ⟨Nat.le_refl 1, monthLength_pos _⟩
    (hday.trans (Int.add_zero _).symm)
  exact ⟨first, by simp [withDay?, hd, hfirst], Date.monthCount_of_month hmonth, hone,
    (day_of_ofNanos? hfirst).2⟩

/-- From the first of a month no day is cut off: each month has a first. -/
theorem addMonths?_of_first {first : Instant} (hfirst : first.date.dayOfMonth = 1) (months : Nat) :
    first.addMonths? months = ofNanos?
      (monthDay (first.date.monthCount + months) * nanosPerDay + first.timeOfDay) := by
  cases hd : first.date.addMonths? months with
  | none =>
    have hout : ¬ (firstMonth ≤ first.date.monthCount + months ∧
        first.date.monthCount + months ≤ lastMonth) := by
      rw [← Date.isSome_addMonths?, hd]
      simp
    have hlow := first.date.firstMonth_le
    have hiff : monthDay (first.date.monthCount + months) + (1 - 1 : Nat) ≤ lastDay ↔
        first.date.monthCount + months ≤ lastMonth := Date.le_lastDay_iff ⟨by decide, by decide⟩
    rw [addMonths?, hd, ofNanos?_eq_none_of_lt (by omega)]
    rfl
  | some d =>
    have hday := Date.ofCivil?_eq_some hd
    rw [← monthDay, hfirst, Nat.min_eq_left (monthLength_pos _)] at hday
    rw [addMonths?, hd]
    simp [at?, hday, Date.monthCount]

/-- Months lead to the first of a month, and the days of the start are counted on from there. -/
theorem addMonthsOver?_eq (start : Instant) (months : Nat) : start.addMonthsOver? months =
    ofNanos? ((monthDay (start.date.monthCount + months) + (start.date.dayOfMonth - 1 : Nat)) *
      nanosPerDay + start.timeOfDay) := by
  obtain ⟨first, hfirst, hcount, hone, htime⟩ := start.withDay?_one
  have hmonths := addMonths?_of_first hone months
  rw [hcount, htime] at hmonths
  rw [addMonthsOver?, hfirst, Option.bind_eq_bind, Option.bind_some, hmonths]
  by_cases hafter : lastDay < monthDay (start.date.monthCount + months)
  · rw [ofNanos?_eq_none_of_lt hafter, ofNanos?_eq_none_of_lt (by omega)]
    rfl
  · have hbefore := monthDay_le_iff.mpr (Int.le_trans start.date.firstMonth_le
      (Int.le_add_of_nonneg_right (Int.natCast_nonneg months)))
    rw [monthDay_firstMonth] at hbefore
    obtain ⟨later, hlater⟩ := Option.isSome_iff_exists.mp
      ((start.isSome_ofNanos?_day _).mpr ⟨hbefore, Int.not_lt.mp hafter⟩)
    obtain ⟨hday, hlaterTime⟩ := day_of_ofNanos? hlater
    rw [hlater, Option.bind_some, addDays?_eq, hday, hlaterTime]

/-- So many months after a start: its time of day, on its day of the month that is reached or, if
that month does not have the day, on as many days into the next as it is short of. There is nothing
if the calendar does not reach to the month. -/
def RollsOver (start : Instant) (months : Nat) (result : Option Instant) : Prop :=
  let reached := nextMonth^[months] (start.date.year, start.date.month)
  let length := monthLength reached.1 reached.2
  let day := start.date.dayOfMonth
  (HasMonth reached → ∃ t, result = some t ∧ t.timeOfDay = start.timeOfDay ∧
      (day ≤ length → t.date.IsOn reached day) ∧
      (length < day → t.date.IsOn (nextMonth reached) (day - length))) ∧
    (¬ HasMonth reached → result = none)

theorem rollsOver_addMonthsOver? (start : Instant) (months : Nat) :
    start.RollsOver months (start.addMonthsOver? months) := by
  have hbounds := start.date.dayOfMonth_bounds
  have hlow := start.date.firstMonth_le
  rw [RollsOver, ← Date.monthAt_monthCount, iterate_nextMonth_monthAt, addMonthsOver?_eq]
  refine ⟨fun hmonth => ?_, fun hmonth => ?_⟩
  · rw [Date.hasMonth_monthAt_iff] at hmonth
    have hfirst := monthDay_le_iff.mpr hmonth.1
    rw [monthDay_firstMonth] at hfirst
    have hlast := (Date.le_lastDay_iff hbounds).mpr hmonth.2
    obtain ⟨t, ht⟩ := Option.isSome_iff_exists.mp
      ((start.isSome_ofNanos?_day _).mpr ⟨by omega, hlast⟩)
    obtain ⟨hday, htime⟩ := day_of_ofNanos? ht
    exact ⟨t, ht, htime, fun hle => Date.isOn_of_day ⟨hbounds.1, hle⟩ hday,
      fun hlt => Date.isOn_nextMonth_of_day ⟨hlt, hbounds.2⟩ hday⟩
  · rw [Date.hasMonth_monthAt_iff] at hmonth
    have hlast := mt (Date.le_lastDay_iff hbounds).mp
      (show ¬ start.date.monthCount + months ≤ lastMonth by omega)
    exact ofNanos?_eq_none_of_lt (Int.not_le.mp hlast)

end Instant

namespace BillingPeriod

variable {period : BillingPeriod} {start t t' : Instant} {n k : Nat}

/-- The end of a number of months or years keeps the time and the day of its start, and days that
the month does not have run over into the next. -/
theorem months_roll_over (start : Instant) (interval : Nat) :
    start.RollsOver interval (month.advance? start interval) ∧
      start.RollsOver (12 * interval) (year.advance? start interval) :=
  ⟨start.rollsOver_addMonthsOver? interval, start.rollsOver_addMonthsOver? (12 * interval)⟩

def januaryEnd : Instant := ⟨19753 * nanosPerDay + 37800 * nanosPerSecond, by decide, by decide⟩
def marchStart : Instant := ⟨19784 * nanosPerDay + 37800 * nanosPerSecond, by decide, by decide⟩
def marchEnd : Instant := ⟨19813 * nanosPerDay + 37800 * nanosPerSecond, by decide, by decide⟩

/-- 31 January is two days beyond the end of February in a leap year. -/
theorem months_roll_over_january : HasMonth (2024, 2) ∧ januaryEnd.date.IsOn (2024, 1) 31 ∧
    ∃ t, month.advance? januaryEnd 1 = some t ∧ t.timeOfDay = januaryEnd.timeOfDay ∧
      t.date.IsOn (2024, 3) 2 := by
  have hmonth : HasMonth (2024, 2) := ⟨⟨19754, by decide, by decide⟩, by decide +kernel⟩
  have hreached : nextMonth^[1] (januaryEnd.date.year, januaryEnd.date.month) = (2024, 2) := by
    decide +kernel
  have hday : januaryEnd.date.dayOfMonth = 31 := by decide +kernel
  have hlength : monthLength 2024 2 = 29 := by decide
  have hroll := (months_roll_over januaryEnd 1).1
  simp only [Instant.RollsOver, hreached, hday, hlength] at hroll
  obtain ⟨t, ht, htime, -, hover⟩ := hroll.1 hmonth
  exact ⟨hmonth, by decide +kernel, t, ht, htime, hover (by decide)⟩

/-- The day on which so many periods are over, the calendar being taken to go on for ever; a
lifetime has none. -/
def endDay? (period : BillingPeriod) (start : Date) (interval : Nat) : Option Int :=
  match period with
  | day => some (start.day + interval)
  | week => some (start.day + 7 * interval)
  | month => some (monthDay (start.monthCount + interval) + (start.dayOfMonth - 1 : Nat))
  | year => some (monthDay (start.monthCount + 12 * interval) + (start.dayOfMonth - 1 : Nat))
  | lifetime => none

/-- Periods end on their day at the time of day of their start, if the calendar has the day. -/
theorem advance?_eq (period : BillingPeriod) (start : Instant) (interval : Nat) :
    period.advance? start interval = (period.endDay? start.date interval).bind
      fun day => Instant.ofNanos? (day * nanosPerDay + start.timeOfDay) := by
  cases period with
  | day => exact start.addDays?_eq interval
  | week => exact start.addDays?_eq (7 * interval : Nat)
  | month => exact start.addMonthsOver?_eq interval
  | year => exact start.addMonthsOver?_eq (12 * interval)
  | lifetime => rfl

theorem exists_endDay? (h : period ≠ lifetime) (d : Date) (n : Nat) :
    ∃ day, period.endDay? d n = some day := by
  cases period with
  | lifetime => exact absurd rfl h
  | _ => exact ⟨_, rfl⟩

theorem ne_lifetime_of_endDay? {d : Date} {day : Int} (h : period.endDay? d n = some day) :
    period ≠ lifetime := by
  rintro rfl
  cases h

theorem endDay?_zero {d : Date} (h : period ≠ lifetime) : period.endDay? d 0 = some d.day := by
  cases period with
  | day => simp [endDay?]
  | week => simp [endDay?]
  | month => simpa [endDay?] using d.day_eq.1.symm
  | year => simpa [endDay?] using d.day_eq.1.symm
  | lifetime => exact absurd rfl h

/-- More periods are over on a later day. -/
theorem endDay?_lt {d : Date} {a b : Int} (h : n < k) (ha : period.endDay? d n = some a)
    (hb : period.endDay? d k = some b) : a < b := by
  cases period with
  | day =>
    simp only [endDay?, Option.some.injEq] at ha hb
    omega
  | week =>
    simp only [endDay?, Option.some.injEq] at ha hb
    omega
  | month =>
    simp only [endDay?, Option.some.injEq] at ha hb
    have hmonth : monthDay (d.monthCount + n) < monthDay (d.monthCount + k) :=
      monthDay_lt_iff.mpr (by omega)
    omega
  | year =>
    simp only [endDay?, Option.some.injEq] at ha hb
    have hmonth : monthDay (d.monthCount + 12 * n) < monthDay (d.monthCount + 12 * k) :=
      monthDay_lt_iff.mpr (by omega)
    omega
  | lifetime => cases ha

theorem lt_of_endDay? {d : Date} {day : Int} (hpos : 0 < n)
    (h : period.endDay? d n = some day) : d.day < day :=
  endDay?_lt hpos (endDay?_zero (ne_lifetime_of_endDay? h)) h

theorem advance?_eq_some (h : period.advance? start n = some t) :
    period.endDay? start.date n = some t.date.day ∧ t.timeOfDay = start.timeOfDay := by
  rw [advance?_eq, Option.bind_eq_some_iff] at h
  obtain ⟨day, hday, hat⟩ := h
  obtain ⟨hread, htime⟩ := Instant.day_of_ofNanos? hat
  exact ⟨hread ▸ hday, htime⟩

theorem isSome_advance?_iff (hpos : 0 < n) : (period.advance? start n).isSome ↔
    ∃ day, period.endDay? start.date n = some day ∧ day ≤ lastDay := by
  rw [advance?_eq, Option.isSome_iff_exists]
  constructor
  · rintro ⟨t, ht⟩
    obtain ⟨day, hday, hat⟩ := Option.bind_eq_some_iff.mp ht
    exact ⟨day, hday, ((start.isSome_ofNanos?_day day).mp (Option.isSome_of_eq_some hat)).2⟩
  · rintro ⟨day, hday, hle⟩
    have hafter := lt_of_endDay? hpos hday
    have hfirst := start.date.first_le
    rw [hday, Option.bind_some, ← Option.isSome_iff_exists, Instant.isSome_ofNanos?_day]
    omega

/-- Months that do not fit 32 bits lead out of the calendar, so that their product needs no bound. -/
theorem advance?_year_of_overflow (h : 4294967296 ≤ 12 * n) : year.advance? start n = none := by
  rw [← Option.not_isSome_iff_eq_none, isSome_advance?_iff (by omega)]
  rintro ⟨day, hday, hle⟩
  obtain rfl := Option.some.inj hday
  have hmonth := (Date.le_lastDay_iff start.date.dayOfMonth_bounds).mp hle
  have hfirst := start.date.firstMonth_le
  simp only [firstMonth, lastMonth] at hfirst hmonth
  omega

theorem lt_of_advance? (hpos : 0 < n) (h : period.advance? start n = some t) : start < t := by
  obtain ⟨hday, htime⟩ := advance?_eq_some h
  exact (Instant.lt_iff_day_lt htime.symm).mpr (lt_of_endDay? hpos hday)

/-- Each cycle ends after it starts. -/
theorem lt_of_cycleEnd? {known : Option BillingPeriod} {interval : Int}
    (h : cycleEnd? start known interval = some t) : start < t := by
  cases known with
  | none =>
    have hmonth : month.advance? start 1 = some t := h
    exact lt_of_advance? Nat.one_pos hmonth
  | some period => exact lt_of_advance? (by omega) h

/-- Of two numbers of periods from a start, the smaller has an end if the larger has. They end after
the start, the larger after the smaller. -/
structure EndsInOrder (start : Instant) (shorter longer : Option Instant) : Prop where
  isSome : longer.isSome → shorter.isSome
  after_start : ∀ t, shorter = some t → start < t
  after_shorter : ∀ t t', shorter = some t → longer = some t' → t < t'

theorem endsInOrder_advance? (hpos : 0 < n) (h : n < k) :
    EndsInOrder start (period.advance? start n) (period.advance? start k) where
  isSome hk := by
    obtain ⟨later, hlater, hle⟩ := (isSome_advance?_iff (Nat.lt_trans hpos h)).mp hk
    obtain ⟨day, hday⟩ := exists_endDay? (ne_lifetime_of_endDay? hlater) start.date n
    have hlt := endDay?_lt h hday hlater
    exact (isSome_advance?_iff hpos).mpr ⟨day, hday, by omega⟩
  after_start _ := lt_of_advance? hpos
  after_shorter t t' ht ht' := by
    obtain ⟨hday, htime⟩ := advance?_eq_some ht
    obtain ⟨hday', htime'⟩ := advance?_eq_some ht'
    exact (Instant.lt_iff_day_lt (htime.trans htime'.symm)).mpr (endDay?_lt h hday hday')

/-- More periods end later, although days run over from short months into the next: for whole
numbers of periods and for the first cycles of packages alike. -/
theorem longer_ends_later (period : BillingPeriod) (start : Instant) :
    (∀ n k : Nat, 1 ≤ n → n < k →
      EndsInOrder start (period.advance? start n) (period.advance? start k)) ∧
    ∀ n k : Int, 1 ≤ n → n < k →
      EndsInOrder start (cycleEnd? start (some period) n) (cycleEnd? start (some period) k) :=
  ⟨fun _ _ hpos h => endsInOrder_advance? hpos h,
    fun _ _ hpos h => endsInOrder_advance? (by omega) (by omega)⟩

/-- From 31 January, one month is over on 2 March and two on 31 March. -/
theorem longer_ends_later_january :
    1 ≤ 1 ∧ 1 < 2 ∧ month.advance? januaryEnd 1 = some marchStart ∧
      month.advance? januaryEnd 2 = some marchEnd ∧
      EndsInOrder januaryEnd (some marchStart) (some marchEnd) ∧
      EndsInOrder januaryEnd (cycleEnd? januaryEnd (some month) 1)
        (cycleEnd? januaryEnd (some month) 2) := by
  have hone : month.advance? januaryEnd 1 = some marchStart := by decide +kernel
  have htwo : month.advance? januaryEnd 2 = some marchEnd := by decide +kernel
  have hperiods := (longer_ends_later month januaryEnd).1 1 2 (by decide) (by decide)
  rw [hone, htwo] at hperiods
  exact ⟨by decide, by decide, hone, htwo, hperiods,
    (longer_ends_later month januaryEnd).2 1 2 (by decide) (by decide)⟩

/-- A cycle has no end if the day on which it is over lies beyond the calendar. -/
theorem cycleEnd?_eq_none_iff {interval : Int} (hinterval : 1 ≤ interval) :
    cycleEnd? start (some period) interval = none ↔
      ∀ day, period.endDay? start.date interval.toNat = some day → lastDay < day := by
  have hcycle : cycleEnd? start (some period) interval =
      period.advance? start interval.toNat := by
    rw [cycleEnd?, Int.max_eq_left hinterval]
  rw [hcycle, ← Option.not_isSome_iff_eq_none, isSome_advance?_iff (by omega)]
  simp

/-- How many periods are over within the calendar wherever they start up to the end of the year
9999; for lifetimes there is no such number. -/
def longest? : BillingPeriod → Option Nat
  | day => some 92093340
  | week => some 13156191
  | month => some 3025716
  | year => some 252143
  | lifetime => none

theorem longest?_eq_none_iff : period.longest? = none ↔ period = lifetime := by
  cases period <;> simp [longest?]

def last9999 : Date := ⟨2932896, by decide, by decide⟩

theorem le_last9999 {d : Date} (h : d.year ≤ 9999) :
    d.day ≤ last9999.day ∧ d.monthCount ≤ last9999.monthCount := by
  have hcount := d.monthCount_eq.1
  have hmonth : d.monthCount + 1 ≤ 120000 := by omega
  have hday := monthDay_le_iff.mpr hmonth
  have hlast : monthDay 120000 = last9999.day + 1 ∧ last9999.monthCount = 119999 := by decide
  have hnext := d.day_eq.2
  omega

/-- Whether the calendar has room for so many periods after a date: days as far as it has days,
months as far as it has months. -/
def EndsInTime (period : BillingPeriod) (d : Date) (n : Nat) : Prop :=
  match period with
  | day => d.day + n ≤ lastDay
  | week => d.day + 7 * n ≤ lastDay
  | month => d.monthCount + n ≤ lastMonth
  | year => d.monthCount + 12 * n ≤ lastMonth
  | lifetime => True

theorem endsInTime_iff {d : Date} :
    (∀ day, period.endDay? d n = some day → day ≤ lastDay) ↔ period.EndsInTime d n := by
  cases period with
  | day => simp [endDay?, EndsInTime]
  | week => simp [endDay?, EndsInTime]
  | month => simpa [endDay?, EndsInTime] using Date.le_lastDay_iff d.dayOfMonth_bounds
  | year => simpa [endDay?, EndsInTime] using Date.le_lastDay_iff d.dayOfMonth_bounds
  | lifetime => simp [endDay?, EndsInTime]

/-- What ends in time after a date does so after every earlier one. -/
theorem EndsInTime.of_le {d d' : Date} (hday : d.day ≤ d'.day)
    (hmonth : d.monthCount ≤ d'.monthCount) (h : period.EndsInTime d' n) :
    period.EndsInTime d n := by
  cases period with
  | lifetime => trivial
  | _ =>
    simp only [EndsInTime] at h ⊢
    omega

theorem endsInTime_last9999 {most : Nat} (h : period.longest? = some most) :
    period.EndsInTime last9999 n ↔ n ≤ most := by
  have hday : last9999.day = 2932896 ∧ lastDay = 95026236 := by decide
  have hmonth : last9999.monthCount = 119999 ∧ lastMonth = 3145715 := by decide
  cases period with
  | lifetime => cases h
  | _ =>
    obtain rfl := Option.some.inj h
    simp only [EndsInTime]
    omega

theorem ends_within_iff {most : Nat} (h : period.longest? = some most) :
    (∀ d : Date, 1970 ≤ d.year → d.year ≤ 9999 →
      ∀ day, period.endDay? d n = some day → day ≤ lastDay) ↔ n ≤ most := by
  have hyear : 1970 ≤ last9999.year ∧ last9999.year ≤ 9999 := by decide
  simp only [endsInTime_iff, ← endsInTime_last9999 h]
  constructor
  -- the last date of all is where the bound is reached
  · exact fun hall => hall last9999 hyear.1 hyear.2
  · intro hlast d _ hd
    obtain ⟨hday, hmonth⟩ := le_last9999 hd
    exact hlast.of_le hday hmonth

end BillingPeriod

end RecurringBilling
