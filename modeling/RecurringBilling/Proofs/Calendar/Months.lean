import RecurringBilling.Calendar

/-! Months counted through from year 0, the days that they start on, and instants as a day and a time
of day. -/

namespace RecurringBilling

namespace Calendar

theorem yearStart_yearOf (day : Int) :
    yearStart (yearOf day) ≤ day ∧ day < yearStart (yearOf day + 1) := by
  simp only [yearOf]
  generalize hg : (day + 719528) * 400 / 146097 = guess
  split
  · rename_i h
    rw [Int.sub_add_cancel]
    refine ⟨?_, h⟩
    simp only [yearStart]
    omega
  · split
    · rename_i h
      refine ⟨h, ?_⟩
      simp only [yearStart]
      omega
    · rename_i hlow hhigh
      exact ⟨Int.not_lt.mp hlow, Int.not_le.mp hhigh⟩

theorem yearStart_succ (year : Int) :
    yearStart (year + 1) = yearStart year + monthStart (isLeap year) 13 := by
  have hleap : isLeap year = true ↔ year % 4 = 0 ∧ (¬ year % 100 = 0 ∨ year % 400 = 0) := by
    simp [isLeap]
  cases h : isLeap year with
  | true =>
    have hdiv := hleap.mp h
    simp only [yearStart, monthStart, if_true]
    omega
  | false =>
    have hdiv : ¬ (year % 4 = 0 ∧ (¬ year % 100 = 0 ∨ year % 400 = 0)) := by
      rw [← hleap, h]
      simp
    simp only [yearStart, monthStart, Bool.false_eq_true, if_false]
    omega

theorem monthStart_le_succ (leap : Bool) (month : Nat) :
    monthStart leap month ≤ monthStart leap (month + 1) := by
  by_cases h : month ≤ 12
  · revert leap month
    decide
  · obtain ⟨n, rfl⟩ : ∃ n, month = n + 13 := ⟨month - 13, by omega⟩
    simp [monthStart]

/-- Where a condition holds up to some number and no further, that is how many meet it. -/
theorem lt_length_filter_range {p : Nat → Bool} (hp : ∀ n, p (n + 1) = true → p n = true)
    {bound n : Nat} (hn : n < bound) :
    n < ((List.range bound).filter p).length ↔ p n = true := by
  induction bound with
  | zero => omega
  | succ bound ih =>
    rw [List.range_succ, List.filter_append, List.length_append]
    cases hbound : p bound with
    | true =>
      have hdown : ∀ k m, p (m + k) = true → p m = true := by
        intro k
        induction k with
        | zero => exact fun m hm => hm
        | succ k ih => exact fun m hm => ih m (hp _ hm)
      have hall : ∀ m ≤ bound, p m = true := fun m hm =>
        hdown (bound - m) m (by rwa [Nat.add_sub_cancel' hm])
      have hfilter : (List.range bound).filter p = List.range bound :=
        List.filter_eq_self.mpr fun m hm => hall m (Nat.le_of_lt (List.mem_range.mp hm))
      simp [hfilter, hbound, hall n (by omega), hn]
    | false =>
      have hle := List.length_filter_le p (List.range bound)
      rw [List.length_range] at hle
      rcases Nat.lt_succ_iff_lt_or_eq.mp hn with hlt | rfl
      · simpa [hbound] using ih hlt
      · simpa [hbound] using hle

theorem monthOf_bounds (leap : Bool) {dayOfYear : Nat} (h : dayOfYear < monthStart leap 13) :
    1 ≤ monthOf leap dayOfYear ∧ monthOf leap dayOfYear ≤ 12 ∧
      monthStart leap (monthOf leap dayOfYear) ≤ dayOfYear ∧
      dayOfYear < monthStart leap (monthOf leap dayOfYear + 1) := by
  have hstep : ∀ m, decide (monthStart leap (m + 1 + 1) ≤ dayOfYear) = true →
      decide (monthStart leap (m + 1) ≤ dayOfYear) = true := fun m hm =>
    decide_eq_true (Nat.le_trans (monthStart_le_succ leap (m + 1)) (of_decide_eq_true hm))
  have hcount : ∀ m < 12, m < monthOf leap dayOfYear ↔ monthStart leap (m + 1) ≤ dayOfYear := by
    intro m hm
    rw [monthOf, lt_length_filter_range hstep hm, decide_eq_true_iff]
  have hle : monthOf leap dayOfYear ≤ 12 := List.length_filter_le _ (List.range 12)
  have hpos : 0 < monthOf leap dayOfYear := (hcount 0 (by omega)).mpr (Nat.zero_le _)
  refine ⟨hpos, hle, ?_, ?_⟩
  · have hlast := (hcount (monthOf leap dayOfYear - 1) (by omega)).mp (by omega)
    rwa [Nat.sub_add_cancel hpos] at hlast
  · rcases Nat.lt_or_eq_of_le hle with hlt | heq
    · have hnext := mt (hcount _ hlt).mpr (Nat.lt_irrefl _)
      exact Nat.not_le.mp hnext
    · rwa [heq]

/-- The day number of the first of a month, the months being counted through from year 0. -/
def monthDay (count : Int) : Int :=
  yearStart (count / 12) + monthStart (isLeap (count / 12)) ((count % 12).toNat + 1)

theorem monthDay_succ (count : Int) :
    monthDay (count + 1) =
      yearStart (count / 12) + monthStart (isLeap (count / 12)) ((count % 12).toNat + 2) := by
  by_cases h : count % 12 = 11
  · have hyear : (count + 1) / 12 = count / 12 + 1 := by omega
    have hmonth : (count + 1) % 12 = 0 := by omega
    rw [monthDay, hyear, hmonth, h, yearStart_succ]
    simp [monthStart]
  · have hyear : (count + 1) / 12 = count / 12 := by omega
    have hmonth : ((count + 1) % 12).toNat + 1 = (count % 12).toNat + 2 := by omega
    rw [monthDay, hyear, hmonth]

end Calendar

open Calendar

namespace Date

def monthCount (d : Date) : Int := d.year * 12 + (d.month - 1 : Nat)

theorem dayOfYear_lt (d : Date) :
    (d.dayOfYear : Int) = d.day - yearStart d.year ∧
      d.dayOfYear < monthStart (isLeap d.year) 13 := by
  obtain ⟨hlow, hhigh⟩ := yearStart_yearOf d.day
  rw [yearStart_succ] at hhigh
  change yearStart d.year ≤ d.day at hlow
  change d.day < yearStart d.year + monthStart (isLeap d.year) 13 at hhigh
  rw [dayOfYear]
  omega

theorem monthCount_eq (d : Date) :
    d.monthCount / 12 = d.year ∧ (d.monthCount % 12).toNat + 1 = d.month := by
  obtain ⟨hfirst, hlast, _⟩ := monthOf_bounds (isLeap d.year) d.dayOfYear_lt.2
  change 1 ≤ d.month at hfirst
  change d.month ≤ 12 at hlast
  rw [monthCount]
  omega

/-- A date lies so many days after the first of its month, and before the first of the next. -/
theorem day_eq (d : Date) :
    d.day = monthDay d.monthCount + (d.dayOfMonth - 1 : Nat) ∧
      d.day < monthDay (d.monthCount + 1) := by
  obtain ⟨hday, hyear⟩ := d.dayOfYear_lt
  obtain ⟨_, _, hstart, hend⟩ := monthOf_bounds (isLeap d.year) hyear
  change monthStart (isLeap d.year) d.month ≤ d.dayOfYear at hstart
  change d.dayOfYear < monthStart (isLeap d.year) (d.month + 1) at hend
  obtain ⟨hcount, hmonth⟩ := d.monthCount_eq
  have hnext : (d.monthCount % 12).toNat + 2 = d.month + 1 := by omega
  rw [monthDay_succ, monthDay, hcount, hmonth, hnext, dayOfMonth]
  omega

theorem ofCivil?_eq_some {year : Int} {month day : Nat} {d : Date}
    (h : ofCivil? year month day = some d) :
    d.day = yearStart year + monthStart (isLeap year) month + (day - 1 : Nat) := by
  unfold ofCivil? ofDay? at h
  split at h
  · split at h
    · cases h
      rfl
    · cases h
  · cases h

end Date

namespace Instant

theorem nanos_eq (t : Instant) : t.nanos = t.date.day * nanosPerDay + t.timeOfDay := by
  have h := Int.mul_ediv_add_emod t.nanos nanosPerDay
  rw [Int.mul_comm] at h
  exact h.symm

theorem ofNanos?_eq_some {nanos : Int} {t : Instant} (h : ofNanos? nanos = some t) :
    t.nanos = nanos := by
  unfold ofNanos? at h
  split at h
  · cases h
    rfl
  · cases h

theorem ofNanos?_eq_some_iff {nanos : Int} {t : Instant} :
    ofNanos? nanos = some t ↔ t.nanos = nanos := by
  refine ⟨ofNanos?_eq_some, ?_⟩
  rintro rfl
  exact dif_pos ⟨t.first_le, t.lt_end⟩

theorem timeOfDay_bounds (t : Instant) : 0 ≤ t.timeOfDay ∧ t.timeOfDay < nanosPerDay :=
  ⟨Int.emod_nonneg _ (by decide), Int.emod_lt_of_pos _ (by decide)⟩

/-- An instant made of a day and a time of day has them. -/
theorem day_of_ofNanos? {t t' : Instant} {day : Int}
    (h : ofNanos? (day * nanosPerDay + t.timeOfDay) = some t') :
    t'.date.day = day ∧ t'.timeOfDay = t.timeOfDay := by
  have hnanos := ofNanos?_eq_some h
  obtain ⟨hlow, hhigh⟩ := t.timeOfDay_bounds
  simp only [date, timeOfDay, hnanos]
  simp only [timeOfDay, nanosPerDay, nanosPerSecond] at *
  omega

end Instant

end RecurringBilling
