import RecurringBilling.Proofs.Calendar.Windows
import RecurringBilling.Proofs.Reports.Reads
import RecurringBilling.Proofs.Results

/-! The churn of the last months is folded from rows that were asked for since one instant. No
window starts before that instant, so that each counts what it would count among all rows. -/

namespace RecurringBilling

namespace Store

/-- When the cancelled subscriptions were cancelled. -/
def cancellations (s : Store) : List Instant :=
  (s.liveSubscriptions.filter fun r => isTextOf .cancelled r.status).filterMap (·.cancelledAt)

/-- From when to when each subscription lasts. -/
def lifetimes (s : Store) : List Lifetime :=
  s.liveSubscriptions.map fun r => ⟨r.createdAt, r.endsAt⟩

def lifetimesSince (s : Store) (since now : Instant) : List Lifetime :=
  (s.inPeriod since now).map fun r => ⟨r.createdAt, r.endsAt⟩

variable {s : Store} {since now : Instant}

/-- Those of the cancellations that are meant are found on the rows they stand on. -/
theorem filter_cancellations (s : Store) (p : Instant → Bool) : s.cancellations.filter p =
    (s.liveSubscriptions.filter fun r =>
      isTextOf .cancelled r.status && r.cancelledAt.any p).filterMap (·.cancelledAt) := by
  rw [cancellations, List.filter_filterMap, List.filterMap_filter, List.filterMap_filter]
  refine List.filterMap_congr fun r _ => ?_
  cases isTextOf .cancelled r.status with
  | false => rfl
  | true =>
    cases hat : r.cancelledAt with
    | none => rfl
    | some t => cases hp : p t <;> simp [hp]

theorem cancelledSince_perm (s : Store) (since : Instant) :
    (s.cancelledSince since).Perm (s.cancellations.filter (since ≤ ·)) := by
  rw [filter_cancellations]
  exact sortedBy_perm _ _

theorem lifetimesSince_eq (s : Store) (since now : Instant) : s.lifetimesSince since now =
    s.lifetimes.filter fun l => l.createdAt ≤ now && l.endsAt.all (since ≤ ·) := by
  rw [lifetimesSince, inPeriod, lifetimes, List.filter_map]
  rfl

end Store

namespace Reports

variable {env : Chances} {w : World} {s : Store} {now since : Instant} {months monthsBack : Nat}
  {windowDays : Int}

/-- The window of a month, which ends with it. -/
def windowEnd (now : Instant) (monthsBack : Nat) : Instant :=
  (now.monthsBackStart monthsBack).endOfMonth

def windowStart (now : Instant) (windowDays : Int) (monthsBack : Nat) : Instant :=
  (windowEnd now monthsBack).daysBefore windowDays

/-- The lifetimes that reach into the window of a month. -/
def aliveIn (now : Instant) (windowDays : Int) (monthsBack : Nat) (lifetimes : List Lifetime) :
    List Lifetime :=
  lifetimes.filter fun l => l.createdAt ≤ min (windowEnd now monthsBack) now &&
    l.endsAt.all (windowStart now windowDays monthsBack ≤ ·)

/-- The cancellations that fall into the window of a month. -/
def churnedIn (now : Instant) (windowDays : Int) (monthsBack : Nat) (cancelled : List Instant) :
    List Instant :=
  cancelled.filter fun t =>
    windowStart now windowDays monthsBack ≤ t && t ≤ windowEnd now monthsBack

theorem churnPoint_eq (cancelled : List Instant) (lifetimes : List Lifetime) :
    churnPoint now windowDays cancelled lifetimes monthsBack =
      (percentage (churnedIn now windowDays monthsBack cancelled).length
        (aliveIn now windowDays monthsBack lifetimes).length).map
          fun rate => ⟨(windowEnd now monthsBack).date.monthText, rate⟩ := rfl

/-- Since when the rows of a trend are asked for. -/
def earliest (now : Instant) (months : Nat) (windowDays : Int) : Instant :=
  (now.monthsBackStart (months - 1)).daysBefore windowDays

theorem run_churnTrend (hcalm : env.Calm)
    (hsince : since = earliest (env w).now months windowDays) :
    (env.run (churnTrend months windowDays) w).1 =
      .computed (churnPoints (env w).now months windowDays (w.store.cancelledSince since)
        (w.store.lifetimesSince since (env w).now)) := by
  rw [earliest] at hsince
  simp [churnTrend, World.answer, World.called, World.withStore, hcalm _, Store.answer, ← hsince,
    Store.lifetimesSince, Chances.run_compute]

/-- The oldest window does not start before the rows that are asked for, and no other one does. -/
theorem earliest_le_windowStart (h : (now.addMonths? (-((months - 1 : Nat) : Int))).isSome)
    (hback : monthsBack < months) :
    earliest now months windowDays ≤ windowStart now windowDays monthsBack := by
  have hstart : now.monthsBackStart (months - 1) ≤ now.monthsBackStart monthsBack :=
    Instant.monthsBackStart_anti h (by omega)
  exact Instant.daysBefore_mono
    (Instant.le_trans hstart (now.monthsBackStart_le_endOfMonth monthsBack))

theorem aliveIn_lifetimesSince (h : since ≤ windowStart now windowDays monthsBack) :
    aliveIn now windowDays monthsBack (s.lifetimesSince since now) =
      aliveIn now windowDays monthsBack s.lifetimes := by
  rw [aliveIn, Store.lifetimesSince_eq, filter_filter_of_imp, ← aliveIn]
  simp only [Bool.and_eq_true, decide_eq_true_eq, Option.all_eq_true]
  rintro l - ⟨hcreated, hends⟩
  exact ⟨Instant.le_trans hcreated (Instant.min_le_right _ _),
    fun t ht => Instant.le_trans h (hends t ht)⟩

theorem length_churnedIn_cancelledSince (h : since ≤ windowStart now windowDays monthsBack) :
    (churnedIn now windowDays monthsBack (s.cancelledSince since)).length =
      (churnedIn now windowDays monthsBack s.cancellations).length := by
  -- the rows come in order of time, which does not matter to their number
  rw [churnedIn, ((s.cancelledSince_perm since).filter _).length_eq, filter_filter_of_imp,
    ← churnedIn]
  simp only [Bool.and_eq_true, decide_eq_true_eq]
  exact fun t _ ht => Instant.le_trans h ht.1

theorem churnTrend_loses_nothing (hcalm : env.Calm)
    (h : ((env w).now.addMonths? (-((months - 1 : Nat) : Int))).isSome) (windowDays : Int) :
    (env.run (churnTrend months windowDays) w).1 =
      .computed (churnPoints (env w).now months windowDays w.store.cancellations
        w.store.lifetimes) := by
  rw [run_churnTrend hcalm rfl, churnPoints, churnPoints]
  refine congrArg Outcome.computed (mapM_congr fun monthsBack hback => ?_)
  have hstart : earliest (env w).now months windowDays ≤
      windowStart (env w).now windowDays monthsBack :=
    earliest_le_windowStart h (List.mem_range.mp (List.mem_reverse.mp hback))
  rw [churnPoint_eq, churnPoint_eq, aliveIn_lifetimesSince hstart,
    length_churnedIn_cancelledSince hstart]

/-! A subscription that was cancelled in March and ended then, one that was cancelled in May and ended
in June, and two that only ended, in March and in June. The trend of two months in June asks for
nothing before April. -/

def marchDay : Date := ⟨19790, by decide, by decide⟩

def mayDay : Date := ⟨19863, by decide, by decide⟩

def juneDay : Date := ⟨19880, by decide, by decide⟩

def endedRow (number : Nat) (status : SubscriptionStatus) (cancelled : Option Date) (ended : Date) :
    Subscription :=
  { Subscribing.heldRow number status (some (.midnight ended)) none with
    cancelledAt := cancelled.map .midnight }

def endedStore : Store :=
  { subscriptions := [endedRow 1 .cancelled (some marchDay) marchDay,
      endedRow 2 .cancelled (some mayDay) juneDay, endedRow 3 .active none marchDay,
      endedRow 4 .active none juneDay] }

theorem churnTrend_loses_nothing_endedStore :
    let since := earliest DailyRun.plainNoon 2 30
    DailyRun.plainChances.Calm ∧ (DailyRun.plainNoon.addMonths? (-1)).isSome ∧
      endedStore.cancellations.length = 2 ∧ (endedStore.cancelledSince since).length = 1 ∧
      endedStore.lifetimes.length = 4 ∧
      (endedStore.lifetimesSince since DailyRun.plainNoon).length = 2 ∧
      (DailyRun.plainChances.run (churnTrend 2 30) { store := endedStore }).1 =
        .computed (churnPoints DailyRun.plainNoon 2 30 endedStore.cancellations
          endedStore.lifetimes) ∧
      ∃ points,
        (DailyRun.plainChances.run (churnTrend 2 30) { store := endedStore }).1 = .done points ∧
          points.map (fun p => (p.month, p.churnRate.toRat)) =
            [("2024-05", 50), ("2024-06", 0)] := by
  intro since
  have hcalm : DailyRun.plainChances.Calm := fun _ => rfl
  have hback : (DailyRun.plainNoon.addMonths? (-((2 - 1 : Nat) : Int))).isSome := by decide
  have hrun : (DailyRun.plainChances.run (churnTrend 2 30) { store := endedStore }).1 =
      .computed (churnPoints DailyRun.plainNoon 2 30 endedStore.cancellations
        endedStore.lifetimes) :=
    churnTrend_loses_nothing hcalm hback 30
  let may : Decimal := ⟨5000, 2, by decide, by decide, false, by simp⟩
  let june : Decimal := ⟨0, 2, by decide, by decide, false, by simp⟩
  have hpoints : churnPoints DailyRun.plainNoon 2 30 endedStore.cancellations
      endedStore.lifetimes = .ok [⟨"2024-05", may⟩, ⟨"2024-06", june⟩] := rfl
  refine ⟨hcalm, hback, by decide +kernel, by decide +kernel, by decide +kernel,
    by decide +kernel, hrun, [⟨"2024-05", may⟩, ⟨"2024-06", june⟩], ?_, ?_⟩
  · exact hrun.trans (congrArg Outcome.computed hpoints)
  · have hmay : may.toRat = 50 := by norm_num [may, Decimal.toRat]
    have hjune : june.toRat = 0 := by norm_num [june, Decimal.toRat]
    simp only [List.map_cons, List.map_nil, hmay, hjune]

end Reports

end RecurringBilling
