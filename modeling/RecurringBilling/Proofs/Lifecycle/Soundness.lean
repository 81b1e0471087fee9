import RecurringBilling.Proofs.Calendar.Cycles
import RecurringBilling.Proofs.DailyRun.DayEffect
import RecurringBilling.Proofs.DailyRun.Invariants
import RecurringBilling.Proofs.Lifecycle.Operations
import RecurringBilling.Proofs.Store.Growth

/-! What holds of every subscription that the operations and the runs of a day have made. The runs
find no subscription to expire, since what is not cancelled is to be renewed. -/

namespace RecurringBilling

open Procedure

/-- The words of the row agree with its dates. -/
structure NewSubscription.Sound (r : NewSubscription) : Prop where
  status : r.status ∈ [SubscriptionStatus.active.word, SubscriptionStatus.onTrial.word,
    SubscriptionStatus.cancelled.word]
  cancelled : r.status = SubscriptionStatus.cancelled.word ↔ r.cancelledAt.isSome
  running : r.status ≠ SubscriptionStatus.cancelled.word →
    r.cancellationReason = none ∧ r.autoRenew = true
  trial : r.status = SubscriptionStatus.onTrial.word →
    ∃ trial fin, r.trialEndsAt = some trial ∧ r.endsAt = some fin ∧ trial ≤ fin
  span : ∀ fin, r.endsAt = some fin → r.startsAt ≤ fin

namespace Instant

theorem le_refl (t : Instant) : t ≤ t := Int.le_refl t.nanos

theorem lt_or_le (t t' : Instant) : t < t' ∨ t' ≤ t := Int.lt_or_le t.nanos t'.nanos

end Instant

namespace Subscribing

theorem trialEnd?_eq_some_iff {package : Package} {withTrial : Bool} {start trial : Instant} :
    trialEnd? package withTrial start = some trial ↔ withTrial = true ∧ 0 < package.trialDays ∧
      trial.nanos = start.nanos + package.trialDays * Calendar.nanosPerDay := by
  by_cases hasked : withTrial = true ∧ 0 < package.trialDays
  · simp [trialEnd?, Package.hasTrial, hasked, Instant.addDays?, Instant.ofNanos?_eq_some_iff]
  · have hnone : trialEnd? package withTrial start = none := by
      simpa [trialEnd?, Package.hasTrial] using fun hwith hdays => absurd ⟨hwith, hdays⟩ hasked
    rw [hnone]
    constructor
    · intro h
      cases h
    · rintro ⟨hwith, hdays, -⟩
      exact absurd ⟨hwith, hdays⟩ hasked

theorem lt_of_trialEnd? {package : Package} {withTrial : Bool} {start trial : Instant}
    (h : trialEnd? package withTrial start = some trial) : start < trial := by
  obtain ⟨-, hdays, hnanos⟩ := trialEnd?_eq_some_iff.mp h
  change start.nanos < trial.nanos
  simp only [Calendar.nanosPerDay, Calendar.nanosPerSecond] at hnanos
  omega

/-- With a trial the end is the later of the two, or the trial's if the cycle has none. -/
theorem firstEnd?_of_trial (cycle : Option Instant) (trial : Instant) :
    ∃ fin, firstEnd? cycle (some trial) = some fin ∧
      fin.nanos = cycle.elim trial.nanos fun c => max c.nanos trial.nanos := by
  cases cycle with
  | none => exact ⟨trial, rfl, rfl⟩
  | some c =>
    rcases c.lt_or_le trial with hlt | hle
    · exact ⟨trial, by simp [firstEnd?, hlt], (Int.max_eq_right (Int.le_of_lt hlt)).symm⟩
    · have hnot : ¬ c < trial := Int.not_lt.mpr hle
      exact ⟨c, by simp [firstEnd?, hnot], (Int.max_eq_left hle).symm⟩

theorem trial_le_of_firstEnd? {cycle : Option Instant} {trial fin : Instant}
    (h : firstEnd? cycle (some trial) = some fin) : trial ≤ fin := by
  obtain ⟨fin', hfin, hnanos⟩ := firstEnd?_of_trial cycle trial
  obtain rfl : fin' = fin := Option.some.inj (hfin.symm.trans h)
  change trial.nanos ≤ fin'.nanos
  cases cycle with
  | none => exact Int.le_of_eq hnanos.symm
  | some c => exact hnanos ▸ Int.le_max_right _ _

theorem exists_endsAt_of_trial (subscriber : Subscriber) {package : Package} {withTrial : Bool}
    {start trial : Instant}
    (h : (newSubscription subscriber package withTrial start).trialEndsAt = some trial) :
    ∃ fin, (newSubscription subscriber package withTrial start).endsAt = some fin ∧
      trial ≤ fin := by
  change trialEnd? package withTrial start = some trial at h
  obtain ⟨fin, hfin, -⟩ := firstEnd?_of_trial
    (BillingPeriod.cycleEnd? start package.period? package.billingInterval) trial
  exact ⟨fin, by simpa [newSubscription, h] using hfin, trial_le_of_firstEnd? hfin⟩

theorem lt_of_firstEnd? {cycle trial : Option Instant} {start fin : Instant}
    (hcycle : ∀ t, cycle = some t → start < t) (htrial : ∀ t, trial = some t → start < t)
    (h : firstEnd? cycle trial = some fin) : start < fin := by
  cases trial with
  | none => exact hcycle fin h
  | some t => exact Int.lt_of_lt_of_le (htrial t rfl) (trial_le_of_firstEnd? h)

/-- A subscription that ends does so after it begins. -/
theorem lt_endsAt_newSubscription {subscriber : Subscriber} {package : Package} {withTrial : Bool}
    {start fin : Instant}
    (h : (newSubscription subscriber package withTrial start).endsAt = some fin) : start < fin :=
  lt_of_firstEnd? (fun _ => BillingPeriod.lt_of_cycleEnd?) (fun _ => lt_of_trialEnd?) h

theorem sound_newSubscription (subscriber : Subscriber) (package : Package) (withTrial : Bool)
    (start : Instant) : (newSubscription subscriber package withTrial start).Sound := by
  have hspan : ∀ fin, (newSubscription subscriber package withTrial start).endsAt = some fin →
      start ≤ fin := fun _ h => Int.le_of_lt (lt_endsAt_newSubscription h)
  cases htrial : trialEnd? package withTrial start with
  | none =>
    refine ⟨?_, ?_, ?_, ?_, hspan⟩
    · simp [newSubscription, htrial]
    · simp [newSubscription, htrial, SubscriptionStatus.word]
    · simp [newSubscription]
    · simp [newSubscription, htrial, SubscriptionStatus.word]
  | some trial =>
    refine ⟨?_, ?_, ?_, ?_, hspan⟩
    · simp [newSubscription, htrial]
    · simp [newSubscription, htrial, SubscriptionStatus.word]
    · simp [newSubscription]
    · intro _
      obtain ⟨fin, hfin, hle⟩ := exists_endsAt_of_trial subscriber htrial
      exact ⟨trial, fin, htrial, hfin, hle⟩

theorem sound_cancellation {r : Subscription} (hr : r.Sound) {now : Instant} {immediate : Bool}
    (hnow : immediate = true → r.startsAt ≤ now) (reason : Option String) :
    ((cancellation now immediate reason).apply r).Sound := by
  refine ⟨?_, ?_, ?_, ?_, ?_⟩
  · simp [cancellation, SubscriptionChanges.apply, Change.apply]
  · simp [cancellation, SubscriptionChanges.apply, Change.apply]
  · simp [cancellation, SubscriptionChanges.apply, Change.apply]
  · simp [cancellation, SubscriptionChanges.apply, Change.apply, SubscriptionStatus.word]
  · intro fin hfin
    cases immediate with
    | false => exact hr.span fin hfin
    | true =>
      obtain rfl : now = fin := Option.some.inj hfin
      exact hnow rfl

theorem sound_resumption {r : Subscription} (hr : r.Sound) (now : Instant) :
    ((resumption now).apply r).Sound := by
  refine ⟨?_, ?_, ?_, ?_, hr.span⟩
  · simp [resumption, SubscriptionChanges.apply, Change.apply]
  · simp [resumption, SubscriptionChanges.apply, Change.apply, SubscriptionStatus.word]
  · simp [resumption, SubscriptionChanges.apply, Change.apply]
  · simp [resumption, SubscriptionChanges.apply, Change.apply, SubscriptionStatus.word]

end Subscribing

namespace Store

/-- Every subscription is sound and began at an instant that meets the condition. -/
def AllSound (began : Instant → Prop) (s : Store) : Prop :=
  ∀ r ∈ s.subscriptions, r.Sound ∧ began r.startsAt

variable {began began' : Instant → Prop} {s s' : Store}

theorem AllSound.mono (hs : s.AllSound began) (h : ∀ t, began t → began' t) : s.AllSound began' :=
  fun r hr => ⟨(hs r hr).1, h _ (hs r hr).2⟩

theorem AllSound.update (hs : s.AllSound began) {id : Id} {changes : SubscriptionChanges}
    {row : Subscription} (h : s.updateSubscription id changes = .ok (row, s'))
    (hc : ∀ r : Subscription, r.Sound → began r.startsAt → (changes.apply r).Sound) :
    s'.AllSound began := by
  intro r hr
  rcases (updateSubscription_eq_ok h).2.2 r hr with hr | ⟨old, hold, _, rfl⟩
  · exact hs r hr
  · exact ⟨hc old (hs old hold).1 (hs old hold).2, (hs old hold).2⟩

theorem AllSound.create (hs : s.AllSound began) {row : NewSubscription} (hrow : row.Sound)
    (hbegan : began row.startsAt) (now : Instant) (seeds : List ItemSeed) :
    (s.createSubscription now row seeds).2.AllSound began := by
  intro r hr
  rw [subscriptions_createSubscription] at hr
  rcases List.mem_append.mp hr with hr | hr
  · exact hs r hr
  · obtain rfl := List.mem_singleton.mp hr
    exact ⟨hrow, hbegan⟩

/-- No active subscription is left to end, so that there is none to expire. -/
theorem AllSound.expiring_eq_nil (hs : s.AllSound began) {date : Date} {listed : List Subscription}
    (h : s.expiring date (some false) = .ok listed) : listed = [] := by
  apply List.eq_nil_iff_forall_not_mem.mpr
  intro r hr
  obtain ⟨hrs, hends, hrenews⟩ := (mem_expiring_iff h r).mp hr
  have hactive : r.status ≠ SubscriptionStatus.cancelled.word := by
    rw [hends.2.1]
    simp [SubscriptionStatus.word]
  have := ((hs r hrs).1.running hactive).2
  simp [hrenews] at this

end Store

namespace Subscribing

theorem Written.allSound {began : Instant → Prop} {s s' : Store} {now : Instant}
    (h : Written now s s') (hs : s.AllSound began) (hnow : ∀ t, began t → t ≤ now) :
    s'.AllSound fun t => began t ∨ t = now := by
  have hs' : s.AllSound fun t => began t ∨ t = now := hs.mono fun _ => .inl
  have hcancel : ∀ (immediate : Bool) (reason : Option String) (r : Subscription), r.Sound →
      (began r.startsAt ∨ r.startsAt = now) →
      ((cancellation now immediate reason).apply r).Sound := by
    intro immediate reason r hr hbegan
    refine sound_cancellation hr (fun _ => ?_) reason
    rcases hbegan with hbegan | hbegan
    · exact hnow _ hbegan
    · exact hbegan ▸ now.le_refl
  cases h with
  | nothing => exact hs'
  | subscribed subscriber package withTrial items stored =>
    exact hs'.create (sound_newSubscription ..) (.inr rfl) stored items
  | cancelled h => exact hs'.update h (hcancel _ _)
  | resumed _ _ h => exact hs'.update h fun r hr _ => sound_resumption hr now
  | switched subscriber package items stored h =>
    exact (hs'.update h (hcancel _ _)).create (sound_newSubscription ..) (.inr rfl) stored items

end Subscribing

theorem DailyRun.keeps_allSound (began : Instant → Prop) : DailyRun.Keeps (Store.AllSound began) where
  expire hs hl r hr := by
    rw [hs.expiring_eq_nil hl] at hr
    cases hr
  cancel now hs h := hs.update h fun r hr _ => Subscribing.sound_cancellation hr (by simp) _
  invoice _ _ _ hs := hs

/-- What can befall subscriptions: an operation on one, and the runs of a day on all. -/
inductive Occurrence where
  | operation (op : Operation)
  | run (date : Date)
  | runExpirations (date : Date)

namespace Occurrence

/-- The world after an occurrence, which comes to its end before the next. -/
def applyTo (dueDays : Nat) (w : World) : Chances × Occurrence → World
  | (env, operation op) => (env.run op.procedure w).2
  | (env, run date) => (env.run (DailyRun.run dueDays date) w).2
  | (env, runExpirations date) => (env.run (DailyRun.runExpirations date) w).2

theorem allSound_applyTo (dueDays : Nat) (env : Chances) (occurrence : Occurrence) {w : World}
    {began : Instant → Prop} (hw : w.store.AllSound began)
    (hnow : ∀ t, began t → ∀ w', t ≤ (env w').now) :
    ((applyTo dueDays w (env, occurrence)).store).AllSound
      fun t => began t ∨ ∃ w', t = (env w').now := by
  cases occurrence with
  | operation op =>
    obtain ⟨w', hwritten⟩ := Subscribing.written_operation env op w
    refine (hwritten.allSound hw fun t ht => hnow t ht w').mono ?_
    rintro t (ht | rfl)
    · exact .inl ht
    · exact .inr ⟨w', rfl⟩
  | run date =>
    have hs := ((DailyRun.keeps_allSound began).run dueDays date).run env hw
    exact hs.mono fun _ => .inl
  | runExpirations date =>
    have hs := ((DailyRun.keeps_allSound began).runExpirations date).run env hw
    exact hs.mono fun _ => .inl

theorem allSound_foldl (dueDays : Nat) (occurrences : List (Chances × Occurrence)) {w : World}
    (hw : w.store.AllSound fun t => ∀ o ∈ occurrences, ∀ w', t ≤ (o.1 w').now)
    (hclock : occurrences.Pairwise fun o later => Chances.NotAfter o.1 later.1) :
    ((occurrences.foldl (applyTo dueDays) w).store).AllSound fun _ => True := by
  induction occurrences generalizing w with
  | nil => exact hw.mono fun _ _ => trivial
  | cons o rest ih =>
    obtain ⟨hfirst, hrest⟩ := List.pairwise_cons.mp hclock
    refine ih ?_ hrest
    -- what has begun by now is not after what is still to come
    have hs := allSound_applyTo dueDays o.1 o.2 hw fun t ht => ht o (by simp)
    refine hs.mono ?_
    rintro t (ht | ⟨w', rfl⟩) later hlater w''
    · exact ht later (by simp [hlater]) w''
    · exact hfirst later hlater w' w''

end Occurrence

namespace Subscription

/-- Whatever is refused, if the clock does not go back, every subscription is sound: no operation
and no run of a day leaves a status, an end or a cancellation behind that does not fit the rest. -/
theorem sound_of_occurrences (dueDays : Nat) (occurrences : List (Chances × Occurrence))
    (start : Store) (hnone : start.subscriptions = [])
    (hclock : occurrences.Pairwise fun o later => Chances.NotAfter o.1 later.1) :
    ∀ r ∈ (occurrences.foldl (Occurrence.applyTo dueDays) { store := start }).store.subscriptions,
      r.Sound := by
  have hstart : start.AllSound fun t => ∀ o ∈ occurrences, ∀ w', t ≤ (o.1 w').now := by
    simp [Store.AllSound, hnone]
  intro r hr
  exact (Occurrence.allSound_foldl dueDays occurrences hstart hclock r hr).1

/-! A subscriber who cancels a trial, takes it up again and leaves an invoice unpaid. -/

def trialPackage : Package := { DailyRun.plainPackage with trialDays := 7 }

def trialStore : Store := { packages := [trialPackage] }

def trialId : Id := .ofNat 0xffff000000000001

def nextChances : Chances := fun _ => { now := DailyRun.nextNoon, number := "INV-2" }

/-- The day on which the first cycle ends. -/
def trialDate : Date := DailyRun.monthDate

def trialOccurrences : List (Chances × Occurrence) :=
  [(DailyRun.plainChances, .operation (.subscribe ⟨.user, .ofNat 1⟩ trialPackage true)),
    (DailyRun.plainChances, .operation (.cancel trialId false none)),
    (nextChances, .operation (.resume trialId)),
    (nextChances, .run trialDate),
    (nextChances, .run trialDate)]

theorem sound_of_occurrences_trial :
    trialStore.subscriptions = [] ∧
      trialOccurrences.Pairwise (fun o later => Chances.NotAfter o.1 later.1) ∧
      let ended := (trialOccurrences.foldl (Occurrence.applyTo 14) { store := trialStore }).store
      ended.subscriptions.map (fun r => (r.status, r.cancelledAt)) =
          [("cancelled", some DailyRun.nextNoon)] ∧
        ended.invoices.map (·.subscriptionId) = [trialId] ∧
        ∀ r ∈ ended.subscriptions, r.Sound := by
  have hnone : trialStore.subscriptions = [] := rfl
  have hclock : trialOccurrences.Pairwise fun o later => Chances.NotAfter o.1 later.1 := by
    have hplain : Chances.NotAfter DailyRun.plainChances DailyRun.plainChances :=
      fun _ _ => DailyRun.plainNoon.le_refl
    have hlater : Chances.NotAfter DailyRun.plainChances nextChances := fun _ _ =>
      show DailyRun.plainNoon ≤ DailyRun.nextNoon by decide
    have hnext : Chances.NotAfter nextChances nextChances := fun _ _ => DailyRun.nextNoon.le_refl
    simp [trialOccurrences, hplain, hlater, hnext]
  exact ⟨hnone, hclock, by decide +kernel, by decide +kernel,
    sound_of_occurrences 14 trialOccurrences trialStore hnone hclock⟩

end Subscription

end RecurringBilling
