import RecurringBilling.Catalog
import RecurringBilling.Proofs.Lifecycle.Validity
import RecurringBilling.Proofs.Store.Ownership

/-! What a subscription is like when it is taken out. It ends with its first cycle or its trial,
whichever is later, and has no end only if there is neither a trial nor an end of the cycle. -/

namespace RecurringBilling

open Calendar

variable {subscriber : Subscriber} {package : Package} {withTrial : Bool} {start : Instant}

/-- The row of a subscription that a subscriber takes out. The status and the end follow from the
trial, and a subscription that is stored with the row gives access from its start. -/
structure NewSubscription.WellFormed (row : NewSubscription) (subscriber : Subscriber)
    (package : Package) (withTrial : Bool) (start : Instant) : Prop where
  startsAt : row.startsAt = start
  status : (row.status = SubscriptionStatus.onTrial.word ↔ row.trialEndsAt.isSome) ∧
    (row.trialEndsAt = none → row.status = SubscriptionStatus.active.word)
  trialEndsAt : ∀ trial, row.trialEndsAt = some trial ↔ withTrial = true ∧
    0 < package.trialDays ∧ trial.nanos = start.nanos + package.trialDays * nanosPerDay
  endsAt : ∀ fin, row.endsAt = some fin →
    row.startsAt < fin ∧ ∀ trial, row.trialEndsAt = some trial → trial ≤ fin
  ends_with_cycle : row.trialEndsAt = none →
    row.endsAt = BillingPeriod.cycleEnd? start package.period? package.billingInterval
  ends_with_later : ∀ trial, row.trialEndsAt = some trial → ∃ fin, row.endsAt = some fin ∧
    fin.nanos = (BillingPeriod.cycleEnd? start package.period? package.billingInterval).elim
      trial.nanos fun cycle => max cycle.nanos trial.nanos
  valid : ∀ r : Subscription, r.toNewSubscription = row → r.isValidAt r.startsAt = true
  uncancelled : ∀ r : Subscription, r.toNewSubscription = row → r.isCancelled = false
  subscriber : ∀ r : Subscription, r.toNewSubscription = row → r.subscriber? = some subscriber

theorem BillingPeriod.ofWord?_word (period : BillingPeriod) : ofWord? period.word = some period := by
  cases period <;> rfl

namespace Subscribing

theorem isValidAt_of_new {r : Subscription}
    (hr : r.toNewSubscription = newSubscription subscriber package withTrial start) :
    r.isValidAt r.startsAt = true := by
  have hstatus := Subscription.statusOf_of_new hr
  rw [Subscription.isValidAt_iff]
  cases htrial : r.trialEndsAt with
  | none =>
    refine .inl ⟨by simpa [htrial] using hstatus, fun fin hfin => ?_⟩
    rw [hr] at hfin ⊢
    exact lt_endsAt_newSubscription hfin
  | some trial => exact .inr (.inl (by simpa [htrial] using hstatus))

/-- Whatever the period, the interval and the days of trial, a subscription is well formed when it
is taken out. -/
theorem wellFormed_newSubscription (subscriber : Subscriber) (package : Package)
    (withTrial : Bool) (start : Instant) :
    (newSubscription subscriber package withTrial start).WellFormed subscriber package withTrial
      start where
  startsAt := rfl
  status := by
    cases htrial : trialEnd? package withTrial start <;>
      simp [newSubscription, htrial, SubscriptionStatus.word]
  trialEndsAt _ := trialEnd?_eq_some_iff
  endsAt fin hfin := by
    refine ⟨lt_endsAt_newSubscription hfin, fun trial htrial => ?_⟩
    change firstEnd? _ (trialEnd? package withTrial start) = some fin at hfin
    change trialEnd? package withTrial start = some trial at htrial
    rw [htrial] at hfin
    exact trial_le_of_firstEnd? hfin
  ends_with_cycle htrial := by
    change trialEnd? package withTrial start = none at htrial
    rw [newSubscription, htrial, firstEnd?]
  ends_with_later trial htrial := by
    change trialEnd? package withTrial start = some trial at htrial
    simp only [newSubscription, htrial]
    exact firstEnd?_of_trial _ trial
  valid _ := isValidAt_of_new
  uncancelled _ := Subscription.isCancelled_of_new
  subscriber r hr := by
    refine Subscription.subscriber?_of_belongsTo (Subscription.belongsTo_iff.mpr ?_)
    rw [hr]
    exact ⟨rfl, rfl⟩

theorem firstEnd?_eq_none_iff {cycle trial : Option Instant} :
    firstEnd? cycle trial = none ↔ trial = none ∧ cycle = none := by
  cases trial with
  | none => simp [firstEnd?]
  | some trial =>
    obtain ⟨fin, hfin, -⟩ := firstEnd?_of_trial cycle trial
    simp [hfin]

section

variable {d : PackageDefinition}

/-- A subscription to a package as it is defined has no end if it has no trial and the day on which
its first cycle is over lies beyond the calendar. -/
theorem endsAt_eq_none_iff (hinterval : 1 ≤ d.interval) (hrow : package.toNewPackage = d.row) :
    (newSubscription subscriber package withTrial start).endsAt = none ↔
      (newSubscription subscriber package withTrial start).trialEndsAt = none ∧
        ∀ day, d.period.endDay? start.date d.interval.toNat = some day → lastDay < day := by
  have hperiod : package.period? = some d.period := by
    rw [Package.period?, hrow]
    exact BillingPeriod.ofWord?_word d.period
  have hevery : package.billingInterval = d.interval := by rw [hrow, PackageDefinition.row]
  change firstEnd? (BillingPeriod.cycleEnd? start package.period? package.billingInterval)
    (trialEnd? package withTrial start) = none ↔ trialEnd? package withTrial start = none ∧ _
  rw [firstEnd?_eq_none_iff, hperiod, hevery, BillingPeriod.cycleEnd?_eq_none_iff hinterval]

theorem lifetime_of_endsAt_eq_none (hinterval : 1 ≤ d.interval)
    (hrow : package.toNewPackage = d.row)
    (hmost : ∀ most, d.period.longest? = some most → d.interval ≤ most)
    (hfrom : 1970 ≤ start.date.year) (hto : start.date.year ≤ 9999)
    (hnone : (newSubscription subscriber package withTrial start).endsAt = none) :
    d.period = .lifetime := by
  by_contra hperiod
  obtain ⟨most, hlongest⟩ := Option.ne_none_iff_exists'.mp
    (mt BillingPeriod.longest?_eq_none_iff.mp hperiod)
  have hle : d.interval ≤ most := hmost most hlongest
  obtain ⟨day, hday⟩ := BillingPeriod.exists_endDay? hperiod start.date d.interval.toNat
  have hbefore := (BillingPeriod.ends_within_iff hlongest).mpr (Int.toNat_le.mpr hle) start.date
    hfrom hto day hday
  have hbeyond := ((endsAt_eq_none_iff hinterval hrow).mp hnone).2 day hday
  omega

theorem le_longest_of_endsAt_ne_none (hinterval : 1 ≤ d.interval)
    (hrow : package.toNewPackage = d.row) {most : Nat} (hlongest : d.period.longest? = some most)
    (hends : ∀ start : Instant, 1970 ≤ start.date.year → start.date.year ≤ 9999 →
      (newSubscription subscriber package false start).endsAt ≠ none) : d.interval ≤ most := by
  have hle : d.interval.toNat ≤ most := by
    refine (BillingPeriod.ends_within_iff hlongest).mp fun date hfrom hto day hday => ?_
    by_contra hbeyond
    rw [← Instant.date_midnight date] at hfrom hto hday
    refine hends _ hfrom hto ((endsAt_eq_none_iff hinterval hrow).mpr ⟨rfl, fun day' hday' => ?_⟩)
    obtain rfl := Option.some.inj (hday.symm.trans hday')
    exact Int.not_le.mp hbeyond
  omega

/-- For a package as it is defined, the subscriptions without an end are those without a trial whose
first cycle is over beyond the calendar. So they are lifetimes only, exactly if a cycle has no more
periods than the calendar leaves room for. -/
theorem only_lifetimes_unending_iff (hinterval : 1 ≤ d.interval)
    (hrow : package.toNewPackage = d.row) :
    (∀ (subscriber : Subscriber) (withTrial : Bool) (start : Instant),
      (newSubscription subscriber package withTrial start).endsAt = none ↔
        (newSubscription subscriber package withTrial start).trialEndsAt = none ∧
          ∀ day, d.period.endDay? start.date d.interval.toNat = some day → lastDay < day) ∧
    ((∀ (subscriber : Subscriber) (withTrial : Bool) (start : Instant),
        1970 ≤ start.date.year → start.date.year ≤ 9999 →
        (newSubscription subscriber package withTrial start).endsAt = none →
          d.period = .lifetime) ↔
      ∀ most, d.period.longest? = some most → d.interval ≤ most) := by
  refine ⟨fun _ _ _ => endsAt_eq_none_iff hinterval hrow, fun hall most hlongest => ?_,
    fun hmost _ _ _ => lifetime_of_endsAt_eq_none hinterval hrow hmost⟩
  have hperiod : d.period ≠ .lifetime := fun h => by
    rw [BillingPeriod.longest?_eq_none_iff.mpr h] at hlongest
    cases hlongest
  exact le_longest_of_endsAt_ne_none hinterval hrow hlongest fun start hfrom hto hnone =>
    hperiod (hall (.user package.id) false start hfrom hto hnone)

end

/-! A package that is billed after so many months that only starts long ago leave room for them. -/

def aeonDefinition (months : Int) : PackageDefinition :=
  ({ slug := "aeon", currency := "USD" } : PackageDefinition).billedEvery months .month

def aeonPackage (months : Int) : Package :=
  { toNewPackage := (aeonDefinition months).row
    id := .ofNat 9
    createdAt := .first
    updatedAt := .first
    deletedAt := none }

/-- The greatest number of months is the last with which no subscription is left without an end. -/
theorem only_lifetimes_unending_aeon :
    1 ≤ (aeonDefinition 3025716).interval ∧
      (aeonPackage 3025716).toNewPackage = (aeonDefinition 3025716).row ∧
      (∀ (subscriber : Subscriber) (withTrial : Bool) (start : Instant),
        1970 ≤ start.date.year → start.date.year ≤ 9999 →
        (newSubscription subscriber (aeonPackage 3025716) withTrial start).endsAt = none →
          (aeonDefinition 3025716).period = .lifetime) ∧
      ¬ ∀ (subscriber : Subscriber) (withTrial : Bool) (start : Instant),
        1970 ≤ start.date.year → start.date.year ≤ 9999 →
        (newSubscription subscriber (aeonPackage 3025717) withTrial start).endsAt = none →
          (aeonDefinition 3025717).period = .lifetime := by
  have hinterval : 1 ≤ (aeonDefinition 3025716).interval := by decide
  have hinterval' : 1 ≤ (aeonDefinition 3025717).interval := by decide
  refine ⟨hinterval, rfl, (only_lifetimes_unending_iff hinterval rfl).2.mpr fun most hmost => ?_,
    fun hall => ?_⟩
  · obtain rfl := Option.some.inj hmost
    decide
  · have hle := (only_lifetimes_unending_iff hinterval' rfl).2.mp hall 3025716 rfl
    exact absurd hle (by decide)

/-- A package of four million months that is taken out in 2024 is without an end. -/
theorem unending_aeon :
    let p := aeonPackage 4000000
    p.toNewPackage = (aeonDefinition 4000000).row ∧ 1 ≤ (aeonDefinition 4000000).interval ∧
      (aeonDefinition 4000000).period = .month ∧ DailyRun.plainNoon.date.year = 2024 ∧
      (newSubscription (.user (.ofNat 1)) p false DailyRun.plainNoon).endsAt = none := by
  refine ⟨rfl, by decide, rfl, by decide +kernel, by decide +kernel⟩

end Subscribing

end RecurringBilling
