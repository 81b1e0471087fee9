import Mathlib.Data.List.Perm.Basic
import RecurringBilling.Proofs.DailyRun.DayEffect
import RecurringBilling.Proofs.Sql.Conditions

/-! The days on which subscriptions end. Every instant before the last date belongs to one day, so
that a subscription that ends is listed on one date, for renewal or for expiration but not both. -/

namespace RecurringBilling

open Calendar

namespace Date

/-- Whether the instant lies in the bounds of the date. -/
def Covers (d : Date) (t : Instant) : Prop :=
  ∃ start fin, d.bounds? = some (start, fin) ∧ start ≤ t ∧ t < fin

theorem covers_iff (d : Date) (t : Instant) : d.Covers t ↔ t.date = d ∧ d.day < lastDay := by
  constructor
  · rintro ⟨start, fin, hb, ht⟩
    refine ⟨(mem_bounds?_iff hb t).mp ht, ?_⟩
    by_contra hlast
    simp [bounds?_of_not_lt hlast] at hb
  · rintro ⟨hdate, hlt⟩
    obtain ⟨start, fin, hb, _⟩ := bounds?_of_lt hlt
    exact ⟨start, fin, hb, (mem_bounds?_iff hb t).mpr hdate⟩

end Date

namespace Sql.Talk

variable {α : Type}

theorem sent_mapM (read : ResultRow → Cells.Reading α) (received : List ResultRow) (x : Exchange) :
    ((received.mapM fun r => reading (read r)).outcome x).2 = x := by
  induction received with
  | nil => rfl
  | cons r rest ih =>
    rw [List.mapM_cons, outcome_bind, outcome_reading]
    cases read r with
    | error e => rfl
    | ok a =>
      show (outcome (rest.mapM (fun r => reading (read r)) >>= _) x).2 = x
      rw [outcome_bind]
      generalize outcome (rest.mapM fun r => reading (read r)) x = read at ih ⊢
      obtain ⟨result, x'⟩ := read
      cases result <;> exact ih

theorem sent_rows (s : Statement) (read : ResultRow → Cells.Reading α) (x : Exchange) :
    ((rows s read).outcome x).2.sent = .statement s :: x.sent := by
  obtain ⟨result, hx, _⟩ := outcome_execute s x
  rw [rows, outcome_bind, hx]
  cases result with
  | error e => rfl
  | ok found => exact congrArg Exchange.sent (sent_mapM read found.1 (x.after [s]))

end Sql.Talk

namespace Store

variable {s : Store} {date : Date}

/-- Whether the subscription is listed on the date. -/
def Lists (s : Store) (date : Date) (r : Subscription) : Prop :=
  ∃ listed, s.expiring date none = .ok listed ∧ r ∈ listed

theorem exists_expiring (s : Store) (h : date.day < lastDay) (renews : Option Bool) :
    ∃ listed, s.expiring date renews = .ok listed := by
  obtain ⟨start, fin, hb, _⟩ := Date.bounds?_of_lt h
  exact ⟨_, by rw [expiring, hb]⟩

theorem expiring_of_not_lt (s : Store) (h : ¬ date.day < lastDay) (renews : Option Bool) :
    s.expiring date renews = .error (.fault .instantAddition) := by
  rw [expiring, Date.bounds?_of_not_lt h]

theorem lists_iff (s : Store) (date : Date) (r : Subscription) :
    s.Lists date r ↔ r ∈ s.subscriptions ∧ r.EndsOn date ∧ date.day < lastDay := by
  constructor
  · rintro ⟨listed, hl, hr⟩
    obtain ⟨hmem, hends, _⟩ := (mem_expiring_option_iff hl r).mp hr
    exact ⟨hmem, hends, lt_lastDay_of_expiring hl⟩
  · rintro ⟨hmem, hends, hlt⟩
    obtain ⟨listed, hl⟩ := s.exists_expiring hlt none
    exact ⟨listed, hl, (mem_expiring_option_iff hl r).mpr ⟨hmem, hends, by simp⟩⟩

/-- The subscriptions that are renewed and those that are not, together, are those that end. -/
theorem expiring_perm_append {all renewing others : List Subscription}
    (hall : s.expiring date none = .ok all) (hrenewing : s.expiring date (some true) = .ok renewing)
    (hothers : s.expiring date (some false) = .ok others) : all.Perm (renewing ++ others) := by
  obtain ⟨start, fin, hb, rfl⟩ := expiring_eq_ok hall
  obtain ⟨start', fin', hb', rfl⟩ := expiring_eq_ok hrenewing
  obtain ⟨start'', fin'', hb'', rfl⟩ := expiring_eq_ok hothers
  cases hb.symm.trans hb'
  cases hb.symm.trans hb''
  refine (sortedBy_perm _ _).trans (.trans ?_ ((sortedBy_perm _ _).append (sortedBy_perm _ _)).symm)
  have hsplit := List.filter_append_perm (fun r : Subscription => r.autoRenew)
    (s.liveSubscriptions.filter fun r =>
      isTextOf .active r.status && r.endsAt.any (fun t => start ≤ t && t < fin))
  simpa [List.filter_filter, Bool.and_comm, Bool.and_left_comm, Bool.and_assoc] using hsplit.symm

/-- How a store lists its subscriptions by the dates on which they end. -/
structure ListsByDate (s : Store) : Prop where
  once : ∀ r ∈ s.subscriptions, r.isLive → r.status = SubscriptionStatus.active.word →
    ∀ t, r.endsAt = some t → t.date.day < lastDay → (∃! d, s.Lists d r) ∧ s.Lists t.date r
  never : ∀ r t, r.endsAt = some t → ¬ t.date.day < lastDay → ∀ d, ¬ s.Lists d r
  parts : ∀ d : Date, d.day < lastDay → ∃ all renewing others,
    s.expiring d none = .ok all ∧ s.expiring d (some true) = .ok renewing ∧
    s.expiring d (some false) = .ok others ∧ all.Perm (renewing ++ others) ∧
    (∀ r ∈ renewing, r.autoRenew = true) ∧ ∀ r ∈ others, r.autoRenew = false
  last : ∀ d : Date, ¬ d.day < lastDay → ∀ renews,
    s.expiring d renews = .error (.fault .instantAddition)
  /-- The statement that is sent for a listing is about the rows that are listed. -/
  statements : ∀ now d renews listed, s.expiring d renews = .ok listed →
    ∃ statement : Sql.Statement,
      (∀ x, ((Sql.conversation now (.listExpiring d renews)).outcome x).2.sent =
        .statement statement :: x.sent) ∧
      ∀ r ∈ s.subscriptions,
        (statement.Picks (Sql.rowOf .subscriptions r.cells) ↔ r ∈ listed)

theorem listsByDate (s : Store) : s.ListsByDate where
  once r hr hlive hactive t ht hlt := by
    have hlists : s.Lists t.date r := (s.lists_iff _ r).mpr ⟨hr, ⟨hlive, hactive, t, ht, rfl⟩, hlt⟩
    refine ⟨⟨t.date, hlists, ?_⟩, hlists⟩
    intro d hd
    obtain ⟨_, ⟨_, _, t', ht', rfl⟩, _⟩ := (s.lists_iff d r).mp hd
    rw [Option.some.inj (ht.symm.trans ht')]
  never r t ht hlast d hd := by
    obtain ⟨_, ⟨_, _, t', ht', rfl⟩, hlt⟩ := (s.lists_iff d r).mp hd
    exact hlast (Option.some.inj (ht.symm.trans ht') ▸ hlt)
  parts d hlt := by
    obtain ⟨all, hall⟩ := s.exists_expiring hlt none
    obtain ⟨renewing, hrenewing⟩ := s.exists_expiring hlt (some true)
    obtain ⟨others, hothers⟩ := s.exists_expiring hlt (some false)
    refine ⟨all, renewing, others, hall, hrenewing, hothers,
      expiring_perm_append hall hrenewing hothers, ?_, ?_⟩
    · exact fun r hr => ((mem_expiring_iff hrenewing r).mp hr).2.2
    · exact fun r hr => ((mem_expiring_iff hothers r).mp hr).2.2
  last d hlast renews := s.expiring_of_not_lt hlast renews
  statements now d renews listed hl := by
    obtain ⟨start, fin, hb, _⟩ := expiring_eq_ok hl
    refine ⟨Sql.expiring start fin renews, ?_, ?_⟩
    · intro x
      simp only [Sql.conversation, hb]
      exact Sql.Talk.sent_rows ..
    · intro r hr
      rw [Sql.picks_expiring_iff hb, mem_expiring_option_iff hl]
      exact (and_iff_right hr).symm

end Store

/-- Every instant before the last date belongs to one date, its own, and the day of a date ends
where the next begins. So every store lists each active subscription that ends before the last date
on exactly one date, and what it lists on a date falls into what is renewed and what is not. -/
theorem ends_on_one_date :
    (∀ t : Instant, t.date.day < lastDay → (∃! d : Date, d.Covers t) ∧ t.date.Covers t) ∧
    (∀ d : Date, d.day < lastDay → ∃ next : Date, next.day = d.day + 1 ∧
      d.bounds? = some (.midnight d, .midnight next)) ∧
    ∀ s : Store, s.ListsByDate := by
  refine ⟨?_, ?_, Store.listsByDate⟩
  · intro t hlt
    have hcovers : t.date.Covers t := (t.date.covers_iff t).mpr ⟨rfl, hlt⟩
    refine ⟨⟨t.date, hcovers, ?_⟩, hcovers⟩
    intro d hd
    exact ((d.covers_iff t).mp hd).1.symm
  · intro d hlt
    obtain ⟨next, hnext⟩ := Date.exists_next hlt
    exact ⟨next, hnext, Date.bounds?_eq_midnights hnext⟩

namespace DailyRun

theorem ends_on_one_date_plainNoon :
    plainNoon.date.day < lastDay ∧ (∃! d : Date, d.Covers plainNoon) ∧
      ∃! d, plainStore.Lists d (plainSubscription 2 plainNoon false) :=
  ⟨by decide, (ends_on_one_date.1 plainNoon (by decide)).1,
    ((ends_on_one_date.2.2 plainStore).once (plainSubscription 2 plainNoon false)
      (by simp [plainStore]) rfl rfl plainNoon rfl (by decide)).1⟩

/-- What ends on the last date is listed on no date at all. -/
theorem last_date_never_listed :
    let r := plainSubscription 1 .last true
    let s : Store := { subscriptions := [r] }
    r ∈ s.subscriptions ∧ r.isLive = true ∧ r.status = SubscriptionStatus.active.word ∧
      r.endsAt.isSome = true ∧
      ¬ ∃! d, ∃ listed, s.expiring d none = .ok listed ∧ r ∈ listed := by
  refine ⟨List.mem_singleton.mpr rfl, rfl, rfl, rfl, ?_⟩
  rintro ⟨d, hd, _⟩
  obtain ⟨_, ⟨_, _, t, ht, rfl⟩, hlt⟩ := (Store.lists_iff _ d _).mp hd
  obtain rfl : Instant.last = t := Option.some.inj ht
  exact absurd hlt (by decide)

end DailyRun

end RecurringBilling
