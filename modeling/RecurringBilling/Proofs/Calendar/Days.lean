import RecurringBilling.Calendar

/-! A day as a span of time: from its midnight to the next, wherever there is a next. -/

namespace RecurringBilling

open Calendar

namespace Date

theorem bounds?_of_lt {d : Date} (h : d.day < lastDay) :
    ∃ start fin, d.bounds? = some (start, fin) ∧
      start.nanos = d.day * nanosPerDay ∧ fin.nanos = (d.day + 1) * nanosPerDay := by
  have hfin : d.day * nanosPerDay + nanosPerDay = (d.day + 1) * nanosPerDay := by
    rw [Int.add_mul, Int.one_mul]
  have hfirst : firstDay * nanosPerDay ≤ (d.day + 1) * nanosPerDay :=
    Int.mul_le_mul_of_nonneg_right (by have := d.first_le; omega) (by decide)
  have hend : (d.day + 1) * nanosPerDay < (lastDay + 1) * nanosPerDay :=
    Int.mul_lt_mul_of_pos_right (by omega) (by decide)
  refine ⟨.midnight d, ⟨(d.day + 1) * nanosPerDay, hfirst, hend⟩, ?_, rfl, rfl⟩
  simp [bounds?, Instant.addDays?, Instant.ofNanos?, Instant.midnight, hfin, hfirst, hend]

theorem bounds?_of_not_lt {d : Date} (h : ¬ d.day < lastDay) : d.bounds? = none := by
  have hday : d.day = lastDay := by have := d.le_last; omega
  have hend : ¬ lastDay * nanosPerDay + nanosPerDay < (lastDay + 1) * nanosPerDay := by decide
  simp [bounds?, Instant.addDays?, Instant.ofNanos?, Instant.midnight, hday, hend]

/-- The end of a day is the start of the next. -/
theorem bounds?_eq_midnights {d next : Date} (h : next.day = d.day + 1) :
    d.bounds? = some (.midnight d, .midnight next) := by
  obtain ⟨start, fin, hb, hs, hf⟩ := bounds?_of_lt (d := d) (by have := next.le_last; omega)
  have hstart : start = .midnight d := by
    cases start
    simpa [Instant.midnight] using hs
  have hfin : fin = .midnight next := by
    cases fin
    simpa [Instant.midnight, h] using hf
  rw [hb, hstart, hfin]

theorem exists_next {d : Date} (h : d.day < lastDay) : ∃ next : Date, next.day = d.day + 1 :=
  ⟨⟨d.day + 1, by have := d.first_le; omega, by omega⟩, rfl⟩

theorem mem_bounds?_iff {d : Date} {start fin : Instant} (h : d.bounds? = some (start, fin))
    (t : Instant) : (start ≤ t ∧ t < fin) ↔ t.date = d := by
  by_cases hlt : d.day < lastDay
  · obtain ⟨start', fin', hb, hs, hf⟩ := bounds?_of_lt hlt
    obtain ⟨rfl, rfl⟩ : start' = start ∧ fin' = fin := by simpa [hb] using h
    have hdate : t.date = d ↔ t.nanos / nanosPerDay = d.day :=
      ⟨fun hd => congrArg Date.day hd, fun hd => by cases d; simpa [Instant.date] using hd⟩
    change start'.nanos ≤ t.nanos ∧ t.nanos < fin'.nanos ↔ _
    rw [hdate, hs, hf]
    simp only [nanosPerDay, nanosPerSecond]
    omega
  · simp [bounds?_of_not_lt hlt] at h

end Date

end RecurringBilling
