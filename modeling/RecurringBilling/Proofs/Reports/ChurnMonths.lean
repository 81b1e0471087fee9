import RecurringBilling.Proofs.Calendar.MonthTexts
import RecurringBilling.Proofs.Reports.ChurnTrend

/-! The months of a churn trend. Each point is labelled with the month that its window ends with, so
that the trend names every month from the first to the present one, and names it once. -/

namespace RecurringBilling

open Calendar

namespace Reports

variable {now : Instant} {months monthsBack : Nat} {windowDays : Int} {cancelled : List Instant}
  {lifetimes : List Lifetime}

/-- The months of a trend are within time if the oldest is. -/
theorem isSome_addMonths?_of_le (h : (now.addMonths? (-((months - 1 : Nat) : Int))).isSome)
    (hback : monthsBack < months) : (now.addMonths? (-(monthsBack : Int))).isSome := by
  have hfirst := (Instant.isSome_addMonths?.mp h).1
  have hlast := now.date.le_lastMonth
  exact Instant.isSome_addMonths?.mpr ⟨by omega, by omega⟩

theorem monthText_windowEnd (h : (now.addMonths? (-(monthsBack : Int))).isSome) :
    (windowEnd now monthsBack).date.monthText = monthLabel (now.date.monthCount - monthsBack) := by
  rw [Date.monthText_eq, windowEnd, Instant.monthCount_endOfMonth,
    (Instant.isFirstOf_monthsBackStart h).1]

theorem exists_labelled_churnPoint (h : (now.addMonths? (-(monthsBack : Int))).isSome)
    (windowDays : Int) (hcancelled : cancelled.length < 2 ^ 63)
    (hlifetimes : lifetimes.length < 2 ^ 63) :
    ∃ p, churnPoint now windowDays cancelled lifetimes monthsBack = .ok p ∧
      p.month = monthLabel (now.date.monthCount - monthsBack) := by
  have hchurned : (churnedIn now windowDays monthsBack cancelled).length ≤ cancelled.length :=
    List.length_filter_le _ _
  have halive : (aliveIn now windowDays monthsBack lifetimes).length ≤ lifetimes.length :=
    List.length_filter_le _ _
  have hbound : 100 * 2 ^ 63 < Decimal.unitBound := by decide
  obtain ⟨rate, hrate⟩ : ∃ rate,
      percentage (churnedIn now windowDays monthsBack cancelled).length
        (aliveIn now windowDays monthsBack lifetimes).length = .ok rate :=
    percentage_isOk (by omega) (by omega)
  exact ⟨⟨_, rate⟩, by rw [churnPoint_eq, hrate]; rfl, monthText_windowEnd h⟩

/-- A trend of so many months, over whatever windows and rows, has a point for each of them, the
present month last. Lists are taken to fit in memory. -/
theorem churnPoints_month_by_month (h : (now.addMonths? (-((months - 1 : Nat) : Int))).isSome)
    (windowDays : Int) (hcancelled : cancelled.length < 2 ^ 63)
    (hlifetimes : lifetimes.length < 2 ^ 63) :
    (∃ points, churnPoints now months windowDays cancelled lifetimes = .ok points ∧
      points.length = months ∧
      (∀ k (hk : k < points.length), points[k].month =
        monthLabel (now.date.monthCount - ((months - 1 - k : Nat) : Int))) ∧
      (points.map (·.month)).Nodup) ∧
    ∀ n : Nat, (now.addMonths? (-(n : Int))).isSome →
      (now.monthsBackStart n).IsFirstOf (now.date.monthCount - n) := by
  refine ⟨?_, fun n => Instant.isFirstOf_monthsBackStart⟩
  obtain ⟨points, hpoints, hall⟩ := exists_mapM
    fun monthsBack (hback : monthsBack ∈ (List.range months).reverse) =>
      exists_labelled_churnPoint
        (isSome_addMonths?_of_le h (List.mem_range.mp (List.mem_reverse.mp hback))) windowDays
        hcancelled hlifetimes
  have hlength : points.length = months := by simpa using hall.length_eq.symm
  refine ⟨points, hpoints, hlength, fun k hk => ?_, ?_⟩
  · have hk' : k < (List.range months).reverse.length := by simpa [hlength] using hk
    have hlabel : points[k].month =
        monthLabel (now.date.monthCount - ((List.range months).reverse[k] : Nat)) := hall.get hk' hk
    rwa [List.getElem_reverse, List.getElem_range, List.length_range] at hlabel
  · rw [map_of_forall₂ hall fun _ _ hlabel => hlabel]
    refine List.Nodup.map_on (fun m _ n _ heq => ?_) (List.nodup_reverse.mpr List.nodup_range)
    have hcount := monthLabel_inj.mp heq
    omega

/-- On the last day of a January, a trend of three months. -/
theorem churnPoints_month_by_month_january :
    let now : Instant := ⟨19753 * 86400000000000 + 43200000000000, by decide, by decide⟩
    now.date.text = "2024-01-31" ∧ (now.addMonths? (-2)).isSome ∧
      ([] : List Instant).length < 2 ^ 63 ∧
      ([⟨now, none⟩] : List Lifetime).length < 2 ^ 63 ∧
      (now.addMonths? (-11)).isSome ∧
      (∃ points, churnPoints now 3 30 [] [⟨now, none⟩] = .ok points ∧
        points.map (·.month) = ["2023-11", "2023-12", "2024-01"]) ∧
      (now.monthsBackStart 11).IsFirstOf (2023 * 12 + 1) := by
  intro now
  have hback : (now.addMonths? (-((3 - 1 : Nat) : Int))).isSome := by decide +kernel
  have hback' : (now.addMonths? (-11)).isSome := by decide +kernel
  have hcount : now.date.monthCount = 2024 * 12 := by decide +kernel
  have hcancelled : ([] : List Instant).length < 2 ^ 63 := by decide
  have hlifetimes : ([⟨now, none⟩] : List Lifetime).length < 2 ^ 63 := by decide
  obtain ⟨⟨points, hpoints, hlength, hlabels, -⟩, hfirst⟩ :=
    churnPoints_month_by_month hback 30 hcancelled hlifetimes
  refine ⟨by decide +kernel, hback, hcancelled, hlifetimes, hback', ⟨points, hpoints, ?_⟩, ?_⟩
  · obtain ⟨p, q, r, rfl⟩ := List.length_eq_three.mp hlength
    have hp := hlabels 0 (by simp)
    have hq := hlabels 1 (by simp)
    have hr := hlabels 2 (by simp)
    rw [hcount] at hp hq hr
    have hp' : p.month = "2023-11" := hp.trans (by decide +kernel)
    have hq' : q.month = "2023-12" := hq.trans (by decide +kernel)
    have hr' : r.month = "2024-01" := hr.trans (by decide +kernel)
    simp [hp', hq', hr']
  · have hstart := hfirst 11 hback'
    rwa [hcount] at hstart

end Reports

end RecurringBilling
