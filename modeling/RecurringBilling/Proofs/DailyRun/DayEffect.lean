import RecurringBilling.Proofs.DailyRun.Expiration

/-! The effect of the run of a day on the store. -/

namespace RecurringBilling

open Procedure

theorem Call.IsRenewal.not_lists {id : Id} {calls : List Call} (h : Call.IsRenewal id calls)
    (date : Date) (autoRenew : Option Bool) :
    ∀ c ∈ calls, c.request ≠ .listExpiring date autoRenew := by
  obtain ⟨c, rest, rfl, hc, hrest⟩ := h.begins
  intro x hx hreq
  rcases List.mem_cons.mp hx with rfl | hx
  · simp [Call.beginsRenewal, hreq] at hc
  · have hends := hrest x hx
    simp [Call.endsRenewal, hreq] at hends

namespace DailyRun

/-- What the run of a day that comes to its end makes of a store, given the calls that it made. -/
structure DayEffect (date : Date) (s : Store) (calls : List Call) (s' : Store) : Prop where
  renewed : ∀ r ∈ s.subscriptions, r.EndsOn date → r.autoRenew = true →
    Renewed s r (Call.renewalCalls r.id calls) (s.account r.id) (s'.account r.id)
  expired : ¬ Call.Refused calls (.listExpiring date (some false)) →
    ∀ r ∈ s.subscriptions, r.EndsOn date → r.autoRenew = false →
      Expired r calls (s.account r.id) (s'.account r.id)
  notListed : Call.Refused calls (.listExpiring date (some false)) →
    ∀ r ∈ s.subscriptions, r.EndsOn date → r.autoRenew = false →
      s'.account r.id = s.account r.id
  others : ∀ id, (∀ r ∈ s.subscriptions, r.id = id → ¬ r.EndsOn date) →
    s'.account id = s.account id
  store : s.Extends s'

/-- How the run of a day ends, and with what effect. -/
structure RunEffect (date : Date) (s : Store) (outcome : Outcome RunReport) (w : World) : Prop where
  refused : Call.Refused w.calls (.listExpiring date (some true)) →
    (∃ e, outcome = .failed e) ∧ w.store = s
  done : ¬ Call.Refused w.calls (.listExpiring date (some true)) → date.day < Calendar.lastDay →
    ∃ report, outcome = .done report ∧
      (report.expirationsIncomplete ↔ Call.Refused w.calls (.listExpiring date (some false))) ∧
      DayEffect date s w.calls w.store
  halted : ¬ Call.Refused w.calls (.listExpiring date (some true)) →
    ¬ date.day < Calendar.lastDay → (∃ fault, outcome = .halted fault) ∧ w.store = s

theorem Renewed.subscription {s : Store} {r : Subscription} {calls : List Call}
    {before after : Account} (h : Renewed s r calls before after) :
    after.subscription = before.subscription ∨
      ∃ now, after.subscription = some (cancelledRow now r) := by
  rcases h.cases with rfl | ⟨now, rfl⟩ | ⟨i, rfl⟩
  · exact .inl rfl
  · exact .inr ⟨now, rfl⟩
  · exact .inl rfl

theorem not_mem_ids_of_not_endsOn {date : Date} {s : Store} {listed : List Subscription} {id : Id}
    (hlisted : ∀ r ∈ listed, r ∈ s.subscriptions ∧ r.EndsOn date)
    (hid : ∀ r ∈ s.subscriptions, r.id = id → ¬ r.EndsOn date) : id ∉ listed.map (·.id) := by
  intro hmem
  obtain ⟨r, hr, rfl⟩ := List.mem_map.mp hmem
  obtain ⟨hrs, hends⟩ := hlisted r hr
  exact hid r hrs rfl hends

/-- A store whose subscriptions of a date have been renewed. -/
structure AfterRenewals (date : Date) (s : Store) (listed : List Subscription)
    (own : Id → List Call) (s₁ : Store) : Prop where
  ids : (s.subscriptions.map (·.id)).Nodup
  listing : s.expiring date (some true) = .ok listed
  worked : Worked (renewalEffect s) listed own s s₁

namespace AfterRenewals

variable {date : Date} {s s₁ s₂ : Store} {listed listed₂ : List Subscription}
  {own : Id → List Call}

/-- The renewals make no difference to what is listed for the expirations. -/
theorem mem_expirations_iff (h : AfterRenewals date s listed own s₁) (r : Subscription) :
    r ∈ s₁.subscriptions ∧ r.EndsOn date ∧ r.autoRenew = false ↔
      r ∈ s.subscriptions ∧ r.EndsOn date ∧ r.autoRenew = false := by
  have hids₁ : (s₁.subscriptions.map (·.id)).Nodup := h.worked.store.ids ▸ h.ids
  by_cases hmem : r.id ∈ listed.map (·.id)
  · obtain ⟨x, hx, hid⟩ := List.mem_map.mp hmem
    obtain ⟨hxs, hxends, hxrenews⟩ := (Store.mem_expiring_iff h.listing x).mp hx
    have hxrow := Store.account_of_mem h.ids hxs
    constructor
    · rintro ⟨hr, hends, hrenews⟩
      have hrow := Store.account_of_mem hids₁ hr
      rw [← hid] at hrow
      rcases (h.worked.accounts x hx).2.subscription with hsame | ⟨now, hcancelled⟩
      · obtain rfl : x = r := Option.some.inj (hxrow.symm.trans (hsame.symm.trans hrow))
        simp [hxrenews] at hrenews
      -- a cancelled row is no longer active, so that the second listing does not find it
      · obtain rfl : cancelledRow now x = r := Option.some.inj (hcancelled.symm.trans hrow)
        have hstatus := hends.2.1
        simp [cancelledRow, SubscriptionStatus.word] at hstatus
    · rintro ⟨hr, hends, hrenews⟩
      obtain rfl := List.inj_on_of_nodup_map h.ids hxs hr hid
      simp [hxrenews] at hrenews
  · rw [Store.mem_subscriptions_iff hids₁, Store.mem_subscriptions_iff h.ids,
      h.worked.others r.id hmem]

theorem not_mem_renewals (h : AfterRenewals date s listed own s₁) {r : Subscription}
    (hr : r ∈ s.subscriptions) (hrenews : r.autoRenew = false) :
    r.id ∉ listed.map (·.id) := by
  intro hmem
  obtain ⟨x, hx, hid⟩ := List.mem_map.mp hmem
  obtain ⟨hxs, _, hxrenews⟩ := (Store.mem_expiring_iff h.listing x).mp hx
  obtain rfl := List.inj_on_of_nodup_map h.ids hxs hr hid
  simp [hxrenews] at hrenews

theorem keep_renewals (h : AfterRenewals date s listed own s₁)
    (hlisted : ∀ r ∈ listed₂, r ∈ s.subscriptions ∧ r.EndsOn date ∧ r.autoRenew = false)
    (hothers : ∀ id, id ∉ listed₂.map (·.id) → s₂.account id = s₁.account id) :
    (∀ r ∈ listed, Renewed s r (own r.id) (s.account r.id) (s₂.account r.id)) ∧
      ∀ id, (∀ r ∈ s.subscriptions, r.id = id → ¬ r.EndsOn date) →
        s₂.account id = s.account id := by
  constructor
  · intro r hr
    have hnot : r.id ∉ listed₂.map (·.id) := by
      intro hmem
      obtain ⟨x, hx, hid⟩ := List.mem_map.mp hmem
      obtain ⟨hxs, _, hxrenews⟩ := hlisted x hx
      exact h.not_mem_renewals hxs hxrenews (hid ▸ List.mem_map_of_mem hr)
    rw [hothers r.id hnot]
    exact (h.worked.accounts r hr).2
  · intro id hid
    have hnot : id ∉ listed.map (·.id) := by
      refine not_mem_ids_of_not_endsOn (fun r hr => ?_) hid
      obtain ⟨hrs, hends, _⟩ := (Store.mem_expiring_iff h.listing r).mp hr
      exact ⟨hrs, hends⟩
    have hnot₂ : id ∉ listed₂.map (·.id) := by
      refine not_mem_ids_of_not_endsOn (fun r hr => ?_) hid
      obtain ⟨hrs, hends, _⟩ := hlisted r hr
      exact ⟨hrs, hends⟩
    rw [hothers id hnot₂, h.worked.others id hnot]

/-- The calls of a day: a listing with its renewals, and then another with what follows it. -/
def dayCalls (date : Date) (listed : List Subscription) (own : Id → List Call)
    (reply : Except StorageError (List Subscription)) (rest : List Call) : List Call :=
  ⟨.listExpiring date (some true), .ok listed⟩ :: (listed.flatMap fun r => own r.id) ++
    ⟨.listExpiring date (some false), reply⟩ :: rest

variable {reply : Except StorageError (List Subscription)} {rest : List Call}

theorem renewalCalls_dayCalls (h : AfterRenewals date s listed own s₁) {r : Subscription}
    (hr : r ∈ listed) :
    Call.renewalCalls r.id (dayCalls date listed own reply rest) = own r.id := by
  have hids : (listed.map (·.id)).Nodup := Store.nodup_expiring h.listing h.ids
  have hown : ∀ r ∈ listed, Call.IsRenewal r.id (own r.id) := fun r hr =>
    (h.worked.accounts r hr).1
  change Call.renewalCalls r.id ([⟨.listExpiring date (some true), .ok listed⟩] ++
    (listed.flatMap fun r => own r.id) ++ ⟨.listExpiring date (some false), reply⟩ :: rest) = _
  exact Call.renewalCalls_flatMap hids hown (by simp [Call.beginsRenewal])
    (by simp [Call.endsRenewal]) hr

theorem not_lists (h : AfterRenewals date s listed own s₁) (renews : Bool) :
    ¬ Call.Refused (listed.flatMap fun r => own r.id) (.listExpiring date (some renews)) := by
  refine Call.not_refused_of_forall ?_
  intro c hc
  obtain ⟨r, hr, hc⟩ := List.mem_flatMap.mp hc
  exact (h.worked.accounts r hr).1.not_lists date (some renews) c hc

theorem not_refused_dayCalls (h : AfterRenewals date s listed own s₁)
    (hrest : ∀ c ∈ rest, ∀ renews, c.request ≠ .listExpiring date renews) :
    ¬ Call.Refused (dayCalls date listed own reply rest) (.listExpiring date (some true)) := by
  have hrest' := Call.not_refused_of_forall fun c hc => hrest c hc (some true)
  simp [dayCalls, h.not_lists, hrest']

theorem refused_dayCalls_iff (h : AfterRenewals date s listed own s₁)
    (hrest : ∀ c ∈ rest, ∀ renews, c.request ≠ .listExpiring date renews) :
    Call.Refused (dayCalls date listed own reply rest) (.listExpiring date (some false)) ↔
      ∃ e, reply = .error e := by
  have hrest' := Call.not_refused_of_forall fun c hc => hrest c hc (some false)
  cases reply <;> simp [dayCalls, h.not_lists, hrest']

theorem updateRefused_dayCalls_iff (h : AfterRenewals date s listed own s₁) {id : Id}
    (hid : id ∉ listed.map (·.id)) :
    Call.UpdateRefused id (dayCalls date listed own reply rest) ↔ Call.UpdateRefused id rest := by
  have hown : ¬ Call.UpdateRefused id (listed.flatMap fun r => own r.id) := by
    rw [Call.updateRefused_flatMap fun r hr => (h.worked.accounts r hr).1.updates]
    exact fun hmem => hid hmem.1
  simp [dayCalls, hown]

theorem dayEffect_of_refused (h : AfterRenewals date s listed own s₁) (e : StorageError) :
    DayEffect date s (dayCalls date listed own (.error e) []) s₁ := by
  have hrefused : Call.Refused (dayCalls date listed own (.error e) [])
      (.listExpiring date (some false)) := (h.refused_dayCalls_iff (by simp)).mpr ⟨e, rfl⟩
  have hnone : ∀ r ∈ ([] : List Subscription),
      r ∈ s.subscriptions ∧ r.EndsOn date ∧ r.autoRenew = false := by simp
  obtain ⟨hrenewed, hothers⟩ := h.keep_renewals hnone fun _ _ => rfl
  refine ⟨?_, fun hno => absurd hrefused hno, ?_, hothers, h.worked.store⟩
  · intro r hr hends hrenews
    have hmem := (Store.mem_expiring_iff h.listing r).mpr ⟨hr, hends, hrenews⟩
    rw [h.renewalCalls_dayCalls hmem]
    exact hrenewed r hmem
  · intro _ r hr _ hrenews
    exact h.worked.others r.id (h.not_mem_renewals hr hrenews)

theorem dayEffect_of_worked (h : AfterRenewals date s listed own s₁) {own₂ : Id → List Call}
    (hlisted : s₁.expiring date (some false) = .ok listed₂)
    (hworked : Worked expirationEffect listed₂ own₂ s₁ s₂) :
    DayEffect date s
      (dayCalls date listed own (.ok listed₂) (listed₂.flatMap fun r => own₂ r.id)) s₂ := by
  have hmem₂ : ∀ r, r ∈ listed₂ ↔ r ∈ s.subscriptions ∧ r.EndsOn date ∧ r.autoRenew = false :=
    fun r => (Store.mem_expiring_iff hlisted r).trans (h.mem_expirations_iff r)
  have hupdates : ∀ r ∈ listed₂, ∀ c ∈ own₂ r.id, ∃ changes,
      c.request = .updateSubscription r.id changes := fun r hr => (hworked.accounts r hr).1
  obtain ⟨hrenewed, hothers⟩ := h.keep_renewals (fun r hr => (hmem₂ r).mp hr) hworked.others
  refine ⟨?_, ?_, ?_, hothers, h.worked.store.trans hworked.store⟩
  · intro r hr hends hrenews
    have hmem := (Store.mem_expiring_iff h.listing r).mpr ⟨hr, hends, hrenews⟩
    rw [h.renewalCalls_dayCalls hmem]
    exact hrenewed r hmem
  · intro _ r hr hends hrenews
    have hmem := (hmem₂ r).mpr ⟨hr, hends, hrenews⟩
    have hnot := h.not_mem_renewals hr hrenews
    have hactive : r.statusOf ≠ .expired := by
      simp [Subscription.statusOf, hends.2.1, SubscriptionStatus.word, SubscriptionStatus.ofText]
    have hexpired := (hworked.accounts r hmem).2 hactive
    rw [h.worked.others r.id hnot] at hexpired
    have hiff : Call.UpdateRefused r.id
        (dayCalls date listed own (.ok listed₂) (listed₂.flatMap fun r => own₂ r.id)) ↔
          Call.UpdateRefused r.id (own₂ r.id) := by
      rw [h.updateRefused_dayCalls_iff hnot, Call.updateRefused_flatMap]
      · simp [List.mem_map_of_mem hmem]
      · intro x hx c hc other changes hreq
        obtain ⟨changes', hreq'⟩ := hupdates x hx c hc
        rw [hreq'] at hreq
        exact (Request.updateSubscription.inj hreq).1.symm
    exact ⟨fun hr => hexpired.refused (hiff.mp hr),
      fun hr => hexpired.expired fun hown => hr (hiff.mpr hown)⟩
  · intro hrefused
    obtain ⟨e, he⟩ := (h.refused_dayCalls_iff (hworked.not_lists date)).mp hrefused
    simp at he

end AfterRenewals

theorem run_expirationsOrIncomplete (env : Chances) {date : Date} {w : World}
    (hdate : date.day < Calendar.lastDay) (hids : (w.store.subscriptions.map (·.id)).Nodup)
    {report : RunReport} (hreport : report.expirationsIncomplete = false) :
    ∃ report' w', env.run (expirationsOrIncomplete date report) w = (.done report', w') ∧
      ((∃ e, report'.expirationsIncomplete = true ∧ w'.store = w.store ∧
          w'.calls = w.calls ++ [⟨.listExpiring date (some false), .error e⟩]) ∨
        ∃ listed own, report'.expirationsIncomplete = false ∧
          w.store.expiring date (some false) = .ok listed ∧
          w'.calls = w.calls ++ ⟨.listExpiring date (some false), .ok listed⟩ ::
            listed.flatMap (fun r => own r.id) ∧
          Worked expirationEffect listed own w.store w'.store) := by
  rcases (works_expireOne env w.store.packages).run_listed hids date false
      (fun listed => { report with expirationsScanned := listed.length }) with
    ⟨e, w', hrun, hs, hw⟩ | ⟨hlast, _⟩ | ⟨listed, report', w', own, hrun, hl, hr, hw, hworked⟩
  · refine ⟨{ report with expirationsIncomplete := true }, w', ?_, .inl ⟨e, rfl, hs, hw⟩⟩
    simp [expirationsOrIncomplete, expirations, hrun]
  · exact absurd hdate hlast
  · refine ⟨report', w', ?_, .inr ⟨listed, own, hr.trans hreport, hl, hw, hworked⟩⟩
    simp [expirationsOrIncomplete, expirations, hrun]

theorem RunEffect.of_done {date : Date} {s : Store} {report : RunReport} {w : World}
    (hdate : date.day < Calendar.lastDay)
    (hno : ¬ Call.Refused w.calls (.listExpiring date (some true)))
    (hreport : report.expirationsIncomplete ↔
      Call.Refused w.calls (.listExpiring date (some false)))
    (heffect : DayEffect date s w.calls w.store) : RunEffect date s (.done report) w :=
  ⟨fun h => absurd h hno, fun _ _ => ⟨report, rfl, hreport, heffect⟩, fun _ h => absurd hdate h⟩

/-- Whatever is refused, the run of a day fails before it has changed anything, or comes to its end
and has done for each listed subscription what its own calls allow, and nothing else. On the last
date, which has no end, it halts and has changed nothing. -/
theorem run_effect (env : Chances) (dueDays : Nat) (date : Date) {s : Store}
    (hids : (s.subscriptions.map (·.id)).Nodup) :
    RunEffect date s (env.run (run dueDays date) { store := s }).1
      (env.run (run dueDays date) { store := s }).2 := by
  rcases (works_renewOne env dueDays s).run_listed (w := { store := s }) hids date true
      (fun listed => { renewalsScanned := listed.length }) with
    ⟨e, w, hrun, hs, hw⟩ | ⟨hlast, fault, hrun⟩ |
      ⟨listed, report, w, own, hrun, hl, hr, hw, hworked⟩
  · have hrenewals : env.run (renewals dueDays date {}) { store := s } =
      (.failed (.storage e), w) := hrun
    have hrefused : Call.Refused w.calls (.listExpiring date (some true)) := by simp [hw]
    simp only [run, Chances.run_bind, Chances.run_log, hrenewals, Outcome.andThen_done,
      Outcome.andThen_failed]
    exact ⟨fun _ => ⟨⟨_, rfl⟩, hs⟩, fun hno => absurd hrefused hno, fun hno => absurd hrefused hno⟩
  · have hrenewals : env.run (renewals dueDays date {}) { store := s } =
      (.halted fault, { store := s }) := hrun
    simp only [run, Chances.run_bind, Chances.run_log, hrenewals, Outcome.andThen_done,
      Outcome.andThen_halted]
    exact ⟨by simp [Call.Refused], fun _ hlt => absurd hlt hlast, fun _ _ => ⟨⟨fault, rfl⟩, rfl⟩⟩
  · have hrenewals : env.run (renewals dueDays date {}) { store := s } = (.done report, w) := hrun
    have hafter : AfterRenewals date s listed own w.store := ⟨hids, hl, hworked⟩
    have hdate : date.day < Calendar.lastDay := Store.lt_lastDay_of_expiring hl
    obtain ⟨report', w', hrun', hcase⟩ :=
      run_expirationsOrIncomplete env hdate (hworked.store.ids ▸ hids) hr
    simp only [run, Chances.run_bind, Chances.run_log, Chances.run_pure, hrenewals,
      hrun', Outcome.andThen_done]
    rcases hcase with ⟨e, hincomplete, hs', hw'⟩ | ⟨listed', own', hincomplete, hl', hw', hworked'⟩
    · have hcalls : w'.calls = AfterRenewals.dayCalls date listed own (.error e) [] := by
        rw [hw', hw]
        rfl
      refine .of_done hdate ?_ ?_ ?_
      · rw [hcalls]
        exact hafter.not_refused_dayCalls (by simp)
      · rw [hcalls, hafter.refused_dayCalls_iff (by simp)]
        simp [hincomplete]
      · rw [hcalls, hs']
        exact hafter.dayEffect_of_refused e
    · have hcalls : w'.calls = AfterRenewals.dayCalls date listed own (.ok listed')
          (listed'.flatMap fun r => own' r.id) := by
        rw [hw', hw]
        simp [AfterRenewals.dayCalls]
      refine .of_done hdate ?_ ?_ ?_
      · rw [hcalls]
        exact hafter.not_refused_dayCalls (hworked'.not_lists date)
      · rw [hcalls, hafter.refused_dayCalls_iff (hworked'.not_lists date)]
        simp [hincomplete]
      · rw [hcalls]
        exact hafter.dayEffect_of_worked hl' hworked'

/-! A day on which one subscription is invoiced and another expires, while a third ends later. -/

def plainDate : Date := ⟨19884, by decide, by decide⟩

def plainNoon : Instant := ⟨19884 * 86400000000000 + 43200000000000, by decide, by decide⟩

def nextNoon : Instant := ⟨19885 * 86400000000000 + 43200000000000, by decide, by decide⟩

/-- The date of a month after that noon. -/
def monthDate : Date := ⟨19914, by decide, by decide⟩

def plainSubscription (id : Nat) (endsAt : Instant) (renews : Bool) : Subscription :=
  { subscriberType := "user", subscriberId := .ofNat 1, packageId := .ofNat 9
    status := "active", startsAt := .first, endsAt := some endsAt, trialEndsAt := none
    cancelledAt := none, cancellationReason := none, autoRenew := renews, metadata := none
    id := .ofNat id, createdAt := .first, updatedAt := .first, deletedAt := none }

def plainPackage : Package :=
  { slug := "pro", name := "Pro", description := none, price := .hundred, originalPrice := none
    currency := "EUR", periodWord := "month", billingInterval := 1, trialDays := 0
    isActive := true, isFeatured := false, sortOrder := 0, metadata := none, id := .ofNat 9
    createdAt := .first, updatedAt := .first, deletedAt := none }

def plainStore : Store :=
  { packages := [plainPackage]
    subscriptions := [plainSubscription 1 plainNoon true,
      plainSubscription 2 plainNoon false,
      plainSubscription 3 nextNoon false] }

def plainChances : Chances := fun _ => { now := plainNoon, number := "INV-1" }

theorem run_effect_plainDate :
    (plainStore.subscriptions.map (·.id)).Nodup ∧
      let ended := plainChances.run (run 14 plainDate) { store := plainStore }
      ended.2.store.subscriptions.map (·.status) = ["active", "expired", "active"] ∧
        ended.2.store.invoices.map (·.subscriptionId) = [.ofNat 1] ∧
        RunEffect plainDate plainStore ended.1 ended.2 :=
  ⟨by decide, by decide +kernel, by decide +kernel,
    run_effect plainChances 14 plainDate (by decide)⟩

/-- On the last date the listing is not refused, and yet there is no report. -/
theorem run_last_not_done :
    let date : Date := ⟨Calendar.lastDay, by decide, by decide⟩
    let env : Chances := fun _ => { now := .first }
    let (outcome, w) := env.run (run 14 date) { store := {} }
    ¬ Call.Refused w.calls (.listExpiring date (some true)) ∧
      ¬ ∃ report, outcome = .done report := by
  refine ⟨?_, ?_⟩
  · rintro ⟨c, hc, _⟩
    cases hc
  · rintro ⟨report, h⟩
    cases h

end DailyRun

end RecurringBilling
