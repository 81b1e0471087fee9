import RecurringBilling.Proofs.Lifecycle
import RecurringBilling.Proofs.Lifecycle.Lookups
import RecurringBilling.Proofs.Store.Rows

/-! A cancellation that leaves the subscription its end can be taken back, and nothing is left of
both but the time of the update. One that ends the subscription at once cannot. -/

namespace RecurringBilling

/-- An active subscription that is renewed and has not been cancelled. -/
structure Subscription.RunsOn (r : Subscription) : Prop where
  active : r.statusOf = .active
  autoRenew : r.autoRenew = true
  cancelledAt : r.cancelledAt = none
  cancellationReason : r.cancellationReason = none

namespace Store

theorem updateSubscription_of_find? {s : Store} {id : Id} {r : Subscription}
    (h : s.subscriptions.find? (·.id == id) = some r) (changes : SubscriptionChanges) :
    ∃ rows,
      modifyFirst? (·.id == id) changes.apply s.subscriptions = some (changes.apply r, rows) ∧
      s.updateSubscription id changes =
        .ok (changes.apply r, { s with subscriptions := rows }) := by
  obtain ⟨rows, hm⟩ := modifyFirst?_of_find? h changes.apply
  exact ⟨rows, hm, by rw [updateSubscription, hm]; rfl⟩

end Store

namespace Subscribing

open Procedure

variable {env : Chances} {w : World} {r : Subscription}

theorem run_resume (env : Chances) (r : Subscription) (w : World) :
    env.run (resume r) w =
      if r.isResumableAt (env w).now then
        Outcome.ofReply (w.answer (env w) (.updateSubscription r.id (resumption (env w).now)))
      else (.done r, w) := by
  by_cases h : r.isResumableAt (env w).now = true <;> simp [resume, h]

/-- The resumption takes back what the cancellation has changed. -/
theorem resumption_cancellation (h : r.RunsOn) (t t' : Instant) (reason : Option String) :
    (resumption t').apply ((cancellation t false reason).apply r) = { r with updatedAt := t' } := by
  have hstatus : r.status = SubscriptionStatus.active.word :=
    (SubscriptionStatus.ofText_eq_iff (by simp)).mp h.active
  obtain ⟨⟨_, _, _, status, _, _, _, cancelledAt, cancellationReason, autoRenew, _⟩, _⟩ := r
  obtain rfl : autoRenew = true := h.autoRenew
  obtain rfl : cancelledAt = none := h.cancelledAt
  obtain rfl : cancellationReason = none := h.cancellationReason
  obtain rfl : status = SubscriptionStatus.active.word := hstatus
  rfl

theorem isResumableAt_cancellation (t t' : Instant) (reason : Option String) :
    ((cancellation t false reason).apply r).isResumableAt t' = r.endsAt.all (t' ≤ ·) := rfl

theorem isResumableAt_cancellation_immediate (t t' : Instant) (reason : Option String) :
    ((cancellation t true reason).apply r).isResumableAt t' = decide (t' ≤ t) := rfl

theorem run_cancel_of_find? (hcalm : env.Calm)
    (hrow : w.store.subscriptions.find? (·.id == r.id) = some r) (immediate : Bool)
    (reason : Option String) :
    ∃ rows w',
      modifyFirst? (·.id == r.id) (cancellation (env w).now immediate reason).apply
        w.store.subscriptions = some ((cancellation (env w).now immediate reason).apply r, rows) ∧
      env.run (cancel r immediate reason) w =
        (.done ((cancellation (env w).now immediate reason).apply r), w') ∧
      w'.store = { w.store with subscriptions := rows } := by
  obtain ⟨rows, hm, hupdate⟩ :=
    Store.updateSubscription_of_find? hrow (cancellation (env w).now immediate reason)
  have hanswer : w.store.answer (env w).now
      (.updateSubscription r.id (cancellation (env w).now immediate reason)) =
        .ok (_, { w.store with subscriptions := rows }) := hupdate
  obtain ⟨w', ha, hstore⟩ := hcalm.answer hanswer
  refine ⟨rows, w', hm, ?_, hstore⟩
  rw [run_cancel, ha]
  rfl

/-- To resume a subscription before its end undoes a cancellation that kept the end: what the two
write together is the time of the update. After a cancellation that ended it at once, no later
resumption does anything. -/
theorem resume_undoes_cancel {env env' : Chances} (hcalm : env.Calm) (hcalm' : env'.Calm)
    {w : World} {r : Subscription}
    (hrow : w.store.subscriptions.find? (·.id == r.id) = some r) (reason : Option String) :
    (r.RunsOn → ∃ cancelled w₁, env.run (cancel r false reason) w = (.done cancelled, w₁) ∧
      ∀ w', w'.store = w₁.store → (∀ fin, r.endsAt = some fin → (env' w').now ≤ fin) →
        ∃ w₂, env'.run (resume cancelled) w' =
            (.done { r with updatedAt := (env' w').now }, w₂) ∧
          w.store.updateSubscription r.id { updatedAt := (env' w').now } =
            .ok ({ r with updatedAt := (env' w').now }, w₂.store) ∧
          w₂.store.items = w.store.items ∧ w₂.store.usageLogs = w.store.usageLogs) ∧
    ∃ cancelled w₁, env.run (cancel r true reason) w = (.done cancelled, w₁) ∧
      ∀ (later : Chances) (w' : World), (env w).now < (later w').now →
        later.run (resume cancelled) w' = (.done cancelled, w') := by
  constructor
  · intro hruns
    obtain ⟨rows, w₁, hm, hcancel, hstore⟩ := run_cancel_of_find? hcalm hrow false reason
    refine ⟨_, w₁, hcancel, ?_⟩
    intro w' hw' hends
    let t := (env' w').now
    have hresumable : ((cancellation (env w).now false reason).apply r).isResumableAt t = true := by
      rw [isResumableAt_cancellation]
      cases hfin : r.endsAt with
      | none => rfl
      | some fin => simpa using hends fin hfin
    -- on the row that is there both updates together are the plain one
    have hboth : modifyFirst? (·.id == r.id) (resumption t).apply rows =
        modifyFirst? (·.id == r.id) ({ updatedAt := t } : SubscriptionChanges).apply
          w.store.subscriptions := by
      rw [modifyFirst?_modifyFirst? hm fun _ => rfl]
      refine modifyFirst?_congr fun x hx => ?_
      obtain rfl : r = x := Option.some.inj (hrow.symm.trans hx)
      exact resumption_cancellation hruns _ t reason
    obtain ⟨rows', hm', hupdate⟩ :=
      Store.updateSubscription_of_find? hrow { updatedAt := t }
    have hanswer : w'.store.answer t (.updateSubscription r.id (resumption t)) =
        .ok ({ r with updatedAt := t }, { w.store with subscriptions := rows' }) := by
      rw [hw', hstore]
      show Store.updated (modifyFirst? (·.id == r.id) (resumption t).apply rows) _ = _
      rw [hboth, hm']
      rfl
    obtain ⟨w₂, ha, hstore₂⟩ := hcalm'.answer hanswer
    refine ⟨w₂, ?_, ?_, by rw [hstore₂], by rw [hstore₂]⟩
    · rw [run_resume, if_pos hresumable]
      show Outcome.ofReply (w'.answer (env' w') (.updateSubscription r.id (resumption t))) = _
      rw [ha]
      rfl
    · rw [hstore₂]
      exact hupdate
  · obtain ⟨rows, w₁, _, hcancel, _⟩ := run_cancel_of_find? hcalm hrow true reason
    refine ⟨_, w₁, hcancel, ?_⟩
    intro later w' hlater
    have hnot : ¬ (later w').now ≤ (env w).now := Int.not_le.mpr hlater
    rw [run_resume, isResumableAt_cancellation_immediate, if_neg (by simpa using hnot)]

/-- A subscription that ends at the instant of its resumption is still resumed. -/
theorem resume_undoes_cancel_plainNoon :
    let env : Chances := fun _ => { now := DailyRun.plainNoon }
    let later : Chances := fun _ => { now := DailyRun.nextNoon }
    let r := DailyRun.plainSubscription 1 DailyRun.plainNoon true
    r.RunsOn ∧ DailyRun.plainStore.subscriptions.find? (·.id == r.id) = some r ∧
      (∃ cancelled w₁ w₂,
        env.run (cancel r false (some "Moving")) { store := DailyRun.plainStore } =
          (.done cancelled, w₁) ∧
        env.run (resume cancelled) w₁ = (.done { r with updatedAt := DailyRun.plainNoon }, w₂) ∧
        w₂.store.items = DailyRun.plainStore.items) ∧
      ∃ cancelled w₁,
        env.run (cancel r true none) { store := DailyRun.plainStore } = (.done cancelled, w₁) ∧
        later.run (resume cancelled) w₁ = (.done cancelled, w₁) := by
  intro env later r
  have hruns : r.RunsOn := ⟨rfl, rfl, rfl, rfl⟩
  have hrow : DailyRun.plainStore.subscriptions.find? (·.id == r.id) = some r := rfl
  have hcalm : env.Calm := fun _ => rfl
  obtain ⟨cancelled, w₁, hcancel, hresume⟩ :=
    (resume_undoes_cancel hcalm hcalm (w := { store := DailyRun.plainStore }) hrow
      (some "Moving")).1 hruns
  obtain ⟨w₂, hrun, _, hitems, _⟩ := hresume w₁ rfl fun fin hfin => by
    obtain rfl : DailyRun.plainNoon = fin := Option.some.inj hfin
    exact Int.le_refl _
  obtain ⟨ended, w₁', hend, hstays⟩ :=
    (resume_undoes_cancel hcalm hcalm (w := { store := DailyRun.plainStore }) hrow none).2
  exact ⟨hruns, hrow, ⟨cancelled, w₁, w₂, hcancel, hrun, hitems⟩,
    ended, w₁', hend, hstays later w₁' (by decide)⟩

end Subscribing

end RecurringBilling
