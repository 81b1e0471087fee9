import RecurringBilling.Proofs.Lifecycle.Times
import RecurringBilling.Proofs.Reports.ChurnTrend

/-! Churn as a percentage. What was cancelled in a window is counted by the time of the cancellation
and what was alive in it by the end, so that the one is a part of the other only as long as nothing
was cancelled after its end. -/

namespace RecurringBilling

namespace Store

variable {s : Store} {since now : Instant}

/-- Whether no subscription that counts as cancelled was cancelled after its end. -/
def CancelledInTime (s : Store) : Prop :=
  ∀ r ∈ s.liveSubscriptions, isTextOf .cancelled r.status = true →
    (r.cancelledAt.all fun t => r.endsAt.all (t ≤ ·)) = true

instance : Decidable s.CancelledInTime :=
  inferInstanceAs (Decidable (∀ r ∈ s.liveSubscriptions, _ → _))

theorem CancelledInTime.le (h : s.CancelledInTime) {r : Subscription} (hr : r ∈ s.liveSubscriptions)
    (hcancelled : isTextOf .cancelled r.status = true) {t fin : Instant}
    (ht : r.cancelledAt = some t) (hfin : r.endsAt = some fin) : t ≤ fin := by
  have hends := h r hr hcancelled
  simpa [ht, hfin] using hends

theorem mem_churned {r : Subscription} : r ∈ s.churned since ↔
    r ∈ s.liveSubscriptions ∧ isTextOf .cancelled r.status = true ∧
      ∃ t, r.cancelledAt = some t ∧ since ≤ t := by
  simp [churned, Option.any_eq_true]

theorem mem_inPeriod {r : Subscription} : r ∈ s.inPeriod since now ↔
    r ∈ s.liveSubscriptions ∧ r.createdAt ≤ now ∧ ∀ fin, r.endsAt = some fin → since ≤ fin := by
  simp [inPeriod, Option.all_eq_true]

theorem Dated.live (hs : s.Dated (· ≤ now) (· ≤ now)) {r : Subscription}
    (hr : r ∈ s.liveSubscriptions) : r.createdAt ≤ now ∧
      ∀ t, r.cancelledAt = some t → t ≤ now ∧ r.createdAt ≤ t := hs r (List.mem_filter.mp hr).1

/-- What counts as cancelled since some time counts as alive since then, whatever the time, exactly
if nothing was cancelled after its end. -/
theorem churned_subset_iff (hs : s.Dated (· ≤ now) (· ≤ now)) :
    s.CancelledInTime ↔ ∀ since, ∀ r ∈ s.churned since, r ∈ s.inPeriod since now := by
  constructor
  · intro htime since r hr
    obtain ⟨hlive, hcancelled, t, ht, hle⟩ := mem_churned.mp hr
    exact mem_inPeriod.mpr ⟨hlive, (hs.live hlive).1, fun fin hfin =>
      Instant.le_trans hle (htime.le hlive hcancelled ht hfin)⟩
  · intro hsubset r hlive hcancelled
    simp only [Option.all_eq_true, decide_eq_true_eq]
    intro t ht fin hfin
    have hchurned := mem_churned.mpr ⟨hlive, hcancelled, t, ht, t.le_refl⟩
    exact (mem_inPeriod.mp (hsubset t r hchurned)).2.2 fin hfin

end Store

namespace Reports

variable {env : Chances} {w : World} {s : Store} {now since : Instant} {months monthsBack : Nat}
  {days windowDays : Int}

theorem run_churnRate (hcalm : env.Calm) (hsince : since = (env w).now.daysBefore days) :
    (env.run (churnRate days) w).1 = .computed (percentage (w.store.churned since).length
      (w.store.inPeriod since (env w).now).length) := by
  subst hsince
  by_cases hnone : w.store.inPeriod ((env w).now.daysBefore days) (env w).now = []
  · simp [churnRate, World.answer, hcalm _, Store.answer, hnone, percentage]
    rfl
  · simp [churnRate, World.answer, World.called, World.withStore, hcalm _, Store.answer, hnone,
      Chances.run_compute]

theorem length_filter_cancellations (s : Store) (p : Instant → Bool) :
    (s.cancellations.filter p).length = (s.liveSubscriptions.filter fun r =>
      Store.isTextOf .cancelled r.status && r.cancelledAt.any p).length := by
  rw [Store.filter_cancellations]
  refine (forall₂_filterMap fun r hr => ?_).length_eq.symm
  simp only [List.mem_filter, Bool.and_eq_true, Option.any_eq_true] at hr
  obtain ⟨-, -, t, ht, -⟩ := hr
  exact ⟨t, ht⟩

theorem length_churnedIn_le (hs : s.Dated (· ≤ now) (· ≤ now)) (htime : s.CancelledInTime) :
    (churnedIn now windowDays monthsBack (s.cancelledSince since)).length ≤
      (aliveIn now windowDays monthsBack (s.lifetimesSince since now)).length := by
  rw [churnedIn, ((s.cancelledSince_perm since).filter _).length_eq, List.filter_filter,
    length_filter_cancellations, aliveIn, Store.lifetimesSince_eq, List.filter_filter,
    Store.lifetimes, List.filter_map, List.length_map]
  refine length_filter_le_of_imp fun r hr hchurned => ?_
  simp only [Bool.and_eq_true, decide_eq_true_eq, Option.any_eq_true] at hchurned
  obtain ⟨hcancelled, t, ht, ⟨hstart, hend⟩, hsince⟩ := hchurned
  obtain ⟨hnow, hcreated⟩ := hs.live hr
  have hcreated : r.createdAt ≤ windowEnd now monthsBack := Instant.le_trans (hcreated t ht).2 hend
  have hends : ∀ fin, r.endsAt = some fin → t ≤ fin := fun _ => htime.le hr hcancelled ht
  simp only [Function.comp_apply, Bool.and_eq_true, decide_eq_true_eq, Option.all_eq_true]
  exact ⟨⟨Instant.le_min hcreated hnow, fun fin hfin => Instant.le_trans hstart (hends fin hfin)⟩,
    hnow, fun fin hfin => Instant.le_trans hsince (hends fin hfin)⟩

theorem length_aliveIn_le (s : Store) (since : Instant) :
    (aliveIn now windowDays monthsBack (s.lifetimesSince since now)).length ≤
      s.liveSubscriptions.length := by
  rw [aliveIn, Store.lifetimesSince_eq, ← s.liveSubscriptions.length_map]
  exact Nat.le_trans (List.length_filter_le _ _) (List.length_filter_le _ _)

theorem exists_percentage {part whole : Nat} (hle : part ≤ whole)
    (hbound : 100 * whole < Decimal.unitBound) :
    ∃ rate, percentage part whole = .ok rate ∧ 0 ≤ rate ∧ rate ≤ .hundred := by
  obtain ⟨rate, hrate⟩ := percentage_isOk
    (show 100 * (part : Int).natAbs < Decimal.unitBound by omega)
    (show (whole : Int).natAbs < Decimal.unitBound by omega)
  exact ⟨rate, hrate, percentage_mem (by omega) (by omega) hrate⟩

section

variable (hs : s.Dated (· ≤ now) (· ≤ now)) (htime : s.CancelledInTime)
  (hbound : 100 * s.liveSubscriptions.length < Decimal.unitBound)

include hs htime hbound

theorem exists_churnRate (since : Instant) :
    ∃ rate, percentage (s.churned since).length (s.inPeriod since now).length = .ok rate ∧
      0 ≤ rate ∧ rate ≤ .hundred := by
  have hlive : (s.inPeriod since now).length ≤ s.liveSubscriptions.length :=
    List.length_filter_le _ _
  refine exists_percentage (length_filter_le_of_imp fun r hr hchurned => ?_) (by omega)
  have halive := (Store.churned_subset_iff hs).mp htime since r (List.mem_filter.mpr ⟨hr, hchurned⟩)
  exact (List.mem_filter.mp halive).2

theorem exists_churnPoint (since : Instant) (windowDays : Int) (monthsBack : Nat) :
    ∃ p, churnPoint now windowDays (s.cancelledSince since) (s.lifetimesSince since now)
        monthsBack = .ok p ∧ 0 ≤ p.churnRate ∧ p.churnRate ≤ .hundred := by
  have hlive : (aliveIn now windowDays monthsBack (s.lifetimesSince since now)).length ≤
      s.liveSubscriptions.length := length_aliveIn_le s since
  have hle : (churnedIn now windowDays monthsBack (s.cancelledSince since)).length ≤ _ :=
    length_churnedIn_le hs htime
  obtain ⟨rate, hrate, hmem⟩ := exists_percentage hle (by omega)
  exact ⟨⟨_, rate⟩, by rw [churnPoint_eq, hrate]; rfl, hmem⟩

end

/-- Whether all churn that is reported is between none and a hundred percent. -/
structure ChurnIsPercentage (env : Chances) (w : World) : Prop where
  rate : ∀ days, ∃ rate, (env.run (churnRate days) w).1 = .done rate ∧ 0 ≤ rate ∧ rate ≤ .hundred
  trend : ∀ months windowDays, ∃ points,
    (env.run (churnTrend months windowDays) w).1 = .done points ∧
      ∀ p ∈ points, 0 ≤ p.churnRate ∧ p.churnRate ≤ .hundred

theorem churnIsPercentage (hcalm : env.Calm)
    (hdated : w.store.Dated (· ≤ (env w).now) (· ≤ (env w).now)) (htime : w.store.CancelledInTime)
    (hbound : 100 * w.store.liveSubscriptions.length < Decimal.unitBound) :
    ChurnIsPercentage env w where
  rate days := by
    obtain ⟨rate, hrate, hmem⟩ :=
      exists_churnRate hdated htime hbound ((env w).now.daysBefore days)
    exact ⟨rate, by rw [run_churnRate hcalm rfl, hrate]; rfl, hmem⟩
  trend months windowDays := by
    obtain ⟨points, hpoints, hall⟩ := exists_mapM
      fun monthsBack (_ : monthsBack ∈ (List.range months).reverse) =>
        exists_churnPoint hdated htime hbound (earliest (env w).now months windowDays) windowDays
          monthsBack
    refine ⟨points, ?_, forall_of_forall₂ hall fun _ _ h => h⟩
    rw [run_churnTrend hcalm rfl, churnPoints, hpoints]
    rfl

/-- Whatever is refused, if the clock does not go back: what a report counts as cancelled it counts
as alive, exactly if nothing was cancelled after its end; and then all churn is a percentage. -/
theorem churned_alive_iff (dueDays : Nat) (occurrences : List (Chances × Occurrence))
    (start : Store) (hnone : start.subscriptions = [])
    (hclock : occurrences.Pairwise fun o later => Chances.NotAfter o.1 later.1)
    (hlater : ∀ o ∈ occurrences, Chances.NotAfter o.1 env) (hcalm : env.Calm) :
    let w := occurrences.foldl (Occurrence.applyTo dueDays) { store := start }
    (w.store.CancelledInTime ↔
        ∀ since, ∀ r ∈ w.store.churned since, r ∈ w.store.inPeriod since (env w).now) ∧
      (w.store.CancelledInTime → 100 * w.store.liveSubscriptions.length < Decimal.unitBound →
        ChurnIsPercentage env w) := by
  intro w
  have hstart : start.Dated (fun _ => False) fun _ => False := by simp [Store.Dated, hnone]
  have hdated : w.store.Dated (· ≤ (env w).now) (· ≤ (env w).now) := by
    refine Occurrence.dated_foldl dueDays occurrences hstart (fun _ => False.elim) hclock ?_
    rintro o ho _ ⟨w', rfl⟩
    exact hlater o ho w' w
  exact ⟨Store.churned_subset_iff hdated, churnIsPercentage hcalm hdated⟩

theorem churned_alive_trial :
    Subscription.trialStore.subscriptions = [] ∧
      Subscription.trialOccurrences.Pairwise (fun o later => Chances.NotAfter o.1 later.1) ∧
      (∀ o ∈ Subscription.trialOccurrences, Chances.NotAfter o.1 Subscription.nextChances) ∧
      Subscription.nextChances.Calm ∧
      let w := Subscription.trialOccurrences.foldl (Occurrence.applyTo 14)
        { store := Subscription.trialStore }
      (w.store.churned DailyRun.plainNoon).length = 1 ∧ w.store.CancelledInTime ∧
        (∀ since, ∀ r ∈ w.store.churned since,
          r ∈ w.store.inPeriod since DailyRun.nextNoon) ∧
        100 * w.store.liveSubscriptions.length < Decimal.unitBound ∧
        ChurnIsPercentage Subscription.nextChances w := by
  have hplain : Chances.NotAfter DailyRun.plainChances Subscription.nextChances :=
    fun _ _ => show DailyRun.plainNoon ≤ DailyRun.nextNoon by decide
  have hsame : Chances.NotAfter DailyRun.plainChances DailyRun.plainChances :=
    fun _ _ => DailyRun.plainNoon.le_refl
  have hnext : Chances.NotAfter Subscription.nextChances Subscription.nextChances :=
    fun _ _ => DailyRun.nextNoon.le_refl
  have hclock : Subscription.trialOccurrences.Pairwise
      fun o later => Chances.NotAfter o.1 later.1 := by
    simp [Subscription.trialOccurrences, hplain, hsame, hnext]
  have hlater : ∀ o ∈ Subscription.trialOccurrences,
      Chances.NotAfter o.1 Subscription.nextChances := by
    simp [Subscription.trialOccurrences, hplain, hnext]
  have hcalm : Subscription.nextChances.Calm := fun _ => rfl
  obtain ⟨hiff, hpercentage⟩ := churned_alive_iff 14 Subscription.trialOccurrences
    Subscription.trialStore rfl hclock hlater hcalm
  have htime : (Subscription.trialOccurrences.foldl (Occurrence.applyTo 14)
      { store := Subscription.trialStore }).store.CancelledInTime := by
    decide +kernel
  exact ⟨rfl, hclock, hlater, hcalm, by decide +kernel, htime, hiff.mp htime, by decide +kernel,
    hpercentage htime (by decide +kernel)⟩

/-! Two subscribers cancel months after their subscriptions have ended, while a third has one for
life. -/

def lifetimePackage : Package :=
  { DailyRun.plainPackage with slug := "forever", periodWord := "lifetime", id := .ofNat 10 }

def lateNoon : Instant :=
  ⟨20067 * 86400000000000 + 43200000000000, by decide, by decide⟩

def lateChances : Chances := fun _ => { now := lateNoon }

def lateOccurrences : List (Chances × Occurrence) :=
  [(DailyRun.plainChances, .operation (.subscribe ⟨.user, .ofNat 1⟩ DailyRun.plainPackage false)),
    (DailyRun.plainChances, .operation (.subscribe ⟨.user, .ofNat 2⟩ DailyRun.plainPackage false)),
    (DailyRun.plainChances, .operation (.subscribe ⟨.user, .ofNat 3⟩ lifetimePackage false)),
    (lateChances, .operation (.cancel (.ofNat 0xffff000000000001) false none)),
    (lateChances, .operation (.cancel (.ofNat 0xffff000000000002) false none))]

theorem churn_of_late_cancellations :
    let w := lateOccurrences.foldl (Occurrence.applyTo 14) { store := {} }
    lateOccurrences.Pairwise (fun o later => Chances.NotAfter o.1 later.1) ∧
      (∀ o ∈ lateOccurrences, Chances.NotAfter o.1 lateChances) ∧ lateChances.Calm ∧
      ∃ rate, (lateChances.run (churnRate 30) w).1 = .done rate ∧ rate.toRat = 200 ∧
        (lateChances.run (churnTrend 1 30) w).1 = .done [⟨"2024-12", rate⟩] := by
  intro w
  have hplain : Chances.NotAfter DailyRun.plainChances lateChances :=
    fun _ _ => show DailyRun.plainNoon ≤ lateNoon by decide
  have hsame : Chances.NotAfter DailyRun.plainChances DailyRun.plainChances :=
    fun _ _ => DailyRun.plainNoon.le_refl
  have hlate : Chances.NotAfter lateChances lateChances := fun _ _ => lateNoon.le_refl
  have hcalm : lateChances.Calm := fun _ => rfl
  have hnow : (lateChances w).now = lateNoon := rfl
  obtain ⟨rate, hrate, hrat⟩ :
      ∃ rate, percentage ((2 : Nat) : Int) ((1 : Nat) : Int) = .ok rate ∧ rate.toRat = 200 :=
    ⟨⟨20000, 2, by decide, by decide, false, by simp⟩, rfl, by norm_num [Decimal.toRat]⟩
  refine ⟨by simp [lateOccurrences, hplain, hsame, hlate], by simp [lateOccurrences, hplain, hlate],
    hcalm, rate, ?_, hrat, ?_⟩
  · have hchurned : (w.store.churned (lateNoon.daysBefore 30)).length = 2 := by decide +kernel
    have halive : (w.store.inPeriod (lateNoon.daysBefore 30) lateNoon).length = 1 := by
      decide +kernel
    rw [run_churnRate hcalm rfl, hnow, hchurned, halive, hrate]
    rfl
  · have hstart : earliest lateNoon 1 30 ≤ windowStart lateNoon 30 0 := by decide +kernel
    have hchurned : (churnedIn lateNoon 30 0 w.store.cancellations).length = 2 := by decide +kernel
    have halive : (aliveIn lateNoon 30 0 w.store.lifetimes).length = 1 := by decide +kernel
    have hmonth : (windowEnd lateNoon 0).date.monthText = "2024-12" := by decide +kernel
    have hpoint : churnPoint lateNoon 30 (w.store.cancelledSince (earliest lateNoon 1 30))
        (w.store.lifetimesSince (earliest lateNoon 1 30) lateNoon) 0 = .ok ⟨"2024-12", rate⟩ := by
      rw [churnPoint_eq, length_churnedIn_cancelledSince hstart, aliveIn_lifetimesSince hstart,
        hchurned, halive, hrate, Except.map, hmonth]
    have hone : (List.range 1).reverse = [0] := rfl
    rw [run_churnTrend hcalm rfl, hnow, churnPoints, hone, List.mapM_cons, hpoint]
    rfl

end Reports

end RecurringBilling
