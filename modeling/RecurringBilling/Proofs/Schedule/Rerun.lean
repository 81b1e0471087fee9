import RecurringBilling.Proofs.DailyRun.Renewal
import RecurringBilling.Proofs.Schedule.Passes

/-! A day that is run twice. Where nothing is refused, the first run invoices a subscription that
ends on the day, and the second cancels it for the invoice of the first. -/

namespace RecurringBilling

open Procedure

/-- A schedule whose first day cannot be listed stays as it is. -/
theorem Schedule.run_tick_refused {env : Chances} {dueDays : Nat} {today : Date} {w : World}
    {e : StorageError} (h : (env w).refusal = some e) :
    env.run (({} : Schedule).tick dueDays today) w =
      (.done {}, w.called (.listExpiring today (some true)) (.error e)) := by
  simp [tick, retry, advance, isDue, processDate, DailyRun.run, DailyRun.renewals, World.answer, h]

namespace Chances

variable {env : Chances}

def Refuses (env : Chances) : Prop := ∀ w, ∃ e, (env w).refusal = some e

theorem Refuses.store_run (h : Refuses env) {α : Type} (p : Procedure α) (w : World) :
    (env.run p w).2.store = w.store := by
  unfold run
  induction p generalizing w with
  | done a => rfl
  | fail e => rfl
  | halt fault => rfl
  | ask r next ih =>
    obtain ⟨e, he⟩ := h w
    have ha : w.answer (env w) r = (.ok (.error e), w.called r (.error e)) := by
      simp [World.answer, he]
    simp only [Procedure.run, backend, ha]
    exact ih _ (w.called r (.error e))
  | note record next ih => exact ih w
  | announce event next ih => exact ih (w.announced event)
  | clock next ih => exact ih _ w
  | drawNumber next ih => exact ih _ w

theorem Refuses.tick_fresh (h : Refuses env) (dueDays : Nat) (today : Date) (w : World) :
    (env.run (({} : Schedule).tick dueDays today) w).1 = .done {} := by
  obtain ⟨e, he⟩ := h w
  rw [Schedule.run_tick_refused he]

end Chances

namespace Store

theorem expiring_singleton {date : Date} (hdate : date.day < Calendar.lastDay) {s : Store}
    {r : Subscription} (hs : s.subscriptions = [r]) (hends : r.EndsOn date) :
    s.expiring date (some r.autoRenew) = .ok [r] := by
  obtain ⟨start, fin, hb, _⟩ := Date.bounds?_of_lt hdate
  obtain ⟨hlive, hactive, t, ht, hday⟩ := hends
  obtain ⟨hlow, hhigh⟩ := (Date.mem_bounds?_iff hb t).mpr hday
  simp [expiring, hb, liveSubscriptions, hs, hlive, isTextOf, hactive, ht, hlow, hhigh, sortedBy]

theorem expiring_eq_nil {date : Date} (hdate : date.day < Calendar.lastDay) {s : Store}
    {renews : Bool} (hnone : ∀ r ∈ s.subscriptions, r.EndsOn date → r.autoRenew ≠ renews) :
    s.expiring date (some renews) = .ok [] := by
  obtain ⟨start, fin, hb, _⟩ := Date.bounds?_of_lt hdate
  cases hl : s.expiring date (some renews) with
  | error refusal => simp [expiring, hb] at hl
  | ok listed =>
    have hnil : listed = [] := by
      apply List.eq_nil_iff_forall_not_mem.mpr
      intro r hr
      obtain ⟨hrs, hends, hrenews⟩ := (mem_expiring_iff hl r).mp hr
      exact hnone r hrs hends hrenews
    rw [hnil]

end Store

namespace DailyRun

open Chances

variable {env : Chances} {dueDays : Nat} {date : Date} {r : Subscription} {w : World}

theorem run_renew_invoiced (henv : Calm env)
    (hno : (w.store.invoicesWithText .pending).any (·.subscriptionId == r.id) = false)
    {package : Package} (hfind : w.store.findPackage r.packageId = some package) :
    ∃ w' now row, env.run (renew dueDays r) w = (.done .invoiced, w') ∧
      w'.store = (w.store.createInvoice now row).2 ∧ row.subscriptionId = r.id ∧
      row.status = InvoiceStatus.pending.word := by
  have hasked : w.store.answer (env w).now (.hasPendingInvoice r.id) = .ok (false, w.store) := by
    rw [Store.answer, hno]
  obtain ⟨w₁, ha₁, hs₁⟩ := henv.answer hasked
  have hfound : w₁.store.answer (env w₁).now (.findPackage r.packageId) =
      .ok (some package, w₁.store) := by
    rw [Store.answer, hs₁, hfind]
  obtain ⟨w₂, ha₂, hs₂⟩ := henv.answer hfound
  let row := Invoicing.issuedRow (Invoicing.draftOf dueDays r none package (env w₂).now)
    (env w₂).number
  have hcreated : w₂.store.answer (env w₂).now (.createInvoice row) =
      .ok (w₂.store.createInvoice (env w₂).now row) := rfl
  obtain ⟨w₃, ha₃, hs₃⟩ := henv.answer hcreated
  refine ⟨w₃, (env w₂).now, row, ?_, ?_, rfl, rfl⟩
  · simp [renew, Invoicing.hasPending, ha₁, Invoicing.run_generate, ha₂, row, ha₃]
  · rw [hs₃, hs₂, hs₁]
    rfl

theorem run_renew_cancelled (henv : Calm env)
    (hyes : (w.store.invoicesWithText .pending).any (·.subscriptionId == r.id) = true)
    (hr : w.store.subscriptions = [r]) :
    ∃ w' now, env.run (renew dueDays r) w = (.done .cancelled, w') ∧
      w'.store = { w.store with subscriptions := [cancelledRow now r] } := by
  have hasked : w.store.answer (env w).now (.hasPendingInvoice r.id) = .ok (true, w.store) := by
    rw [Store.answer, hyes]
  obtain ⟨w₁, ha₁, hs₁⟩ := henv.answer hasked
  have hupdated : w₁.store.answer (env w₁).now (.updateSubscription r.id
      (Subscribing.cancellation (env w₁).now false (some pendingInvoiceReason))) =
      .ok (cancelledRow (env w₁).now r,
        { w₁.store with subscriptions := [cancelledRow (env w₁).now r] }) := by
    simp only [Store.answer, Store.updateSubscription, hs₁, hr, modifyFirst?, beq_self_eq_true,
      if_true]
    rfl
  obtain ⟨w₂, ha₂, hs₂⟩ := henv.answer hupdated
  refine ⟨w₂, (env w₁).now, ?_, by rw [hs₂, hs₁]⟩
  simp [renew, Invoicing.hasPending, ha₁, Subscribing.run_cancel, ha₂]

theorem run_tick_of_renew (henv : Calm env) (hdate : date.day < Calendar.lastDay)
    (hr : w.store.subscriptions = [r]) (hends : r.EndsOn date) (hrenews : r.autoRenew = true)
    {post : Store → Prop}
    (hrenew : ∀ w₁ : World, w₁.store = w.store →
      ∃ result w₂, env.run (renew dueDays r) w₁ = (.done result, w₂) ∧ post w₂.store)
    (hpost : ∀ s, post s → ∀ x ∈ s.subscriptions, x.EndsOn date → x.autoRenew = true) :
    post (env.run (({} : Schedule).tick dueDays date) w).2.store := by
  have hlisted : w.store.answer (env w).now (.listExpiring date (some true)) =
      .ok ([r], w.store) := by
    rw [Store.answer, ← hrenews, Store.expiring_singleton hdate hr hends]
    rfl
  obtain ⟨w₁, ha₁, hs₁⟩ := henv.answer hlisted
  obtain ⟨result, w₂, hrun₂, hw₂⟩ := hrenew w₁ hs₁
  have hnone : w₂.store.answer (env w₂).now (.listExpiring date (some false)) =
      .ok ([], w₂.store) := by
    rw [Store.answer, Store.expiring_eq_nil hdate fun x hx hends => by simp [hpost _ hw₂ x hx hends]]
    rfl
  obtain ⟨w₃, ha₃, hs₃⟩ := henv.answer hnone
  have hone : ∀ report, ∃ report', env.run (renewOne dueDays report r) w₁ = (.done report', w₂) := by
    intro report
    cases result with
    | invoiced => exact ⟨_, by simp [renewOne, hrun₂]; rfl⟩
    | cancelled => exact ⟨_, by simp [renewOne, hrun₂]; rfl⟩
  obtain ⟨report, hone⟩ := hone { renewalsScanned := 1 }
  have hrun : (env.run (({} : Schedule).tick dueDays date) w).2 = w₃ := by
    simp [Schedule.tick, Schedule.retry, Schedule.advance, Schedule.isDue, Schedule.processDate, run,
      renewals, expirationsOrIncomplete, expirations, ha₁, hone, ha₃]
  rw [hrun, hs₃]
  exact hw₂

/-- A store with one subscription and one invoice, which is pending and for the subscription. -/
def Invoiced (r : Subscription) (s : Store) : Prop :=
  s.subscriptions = [r] ∧ ∃ i, s.invoices = [i] ∧ i.subscriptionId = r.id ∧ i.isLive ∧
    i.status = InvoiceStatus.pending.word

theorem invoiced_of_tick (henv : Calm env) (hdate : date.day < Calendar.lastDay)
    (hr : w.store.subscriptions = [r]) (hends : r.EndsOn date) (hrenews : r.autoRenew = true)
    (hnone : w.store.invoices = []) {package : Package}
    (hfind : w.store.findPackage r.packageId = some package) :
    Invoiced r (env.run (({} : Schedule).tick dueDays date) w).2.store := by
  refine run_tick_of_renew henv hdate hr hends hrenews ?_ ?_
  · intro w₁ hw₁
    have hno : (w₁.store.invoicesWithText .pending).any (·.subscriptionId == r.id) = false := by
      simp [Store.invoicesWithText, Store.liveInvoices, hw₁, hnone]
    obtain ⟨w₂, now, row, hrun, hw₂, hid, hstatus⟩ :=
      run_renew_invoiced henv hno (by rw [hw₁]; exact hfind)
    refine ⟨_, w₂, hrun, ?_, (w₁.store.createInvoice now row).1, ?_, hid, rfl, hstatus⟩
    · rw [hw₂, ← hr, ← hw₁]
      rfl
    · simp [hw₂, Store.createInvoice, hw₁, hnone]
  · rintro s ⟨hrows, _⟩ x hx _
    rw [hrows, List.mem_singleton] at hx
    rw [hx, hrenews]

def Cancelled (r : Subscription) (s : Store) : Prop :=
  ∃ now, s.subscriptions = [cancelledRow now r]

theorem cancelled_of_tick (henv : Calm env) (hdate : date.day < Calendar.lastDay)
    (hends : r.EndsOn date) (hrenews : r.autoRenew = true) (hw : Invoiced r w.store) :
    Cancelled r (env.run (({} : Schedule).tick dueDays date) w).2.store := by
  obtain ⟨hr, i, hi, hid, hlive, hstatus⟩ := hw
  refine run_tick_of_renew henv hdate hr hends hrenews ?_ ?_
  · intro w₁ hw₁
    have hyes : (w₁.store.invoicesWithText .pending).any (·.subscriptionId == r.id) = true := by
      simp [Store.invoicesWithText, Store.liveInvoices, hw₁, hi, hlive, hstatus, hid]
    obtain ⟨w₂, now, hrun, hw₂⟩ := run_renew_cancelled henv hyes (by rw [hw₁, hr])
    exact ⟨_, w₂, hrun, now, by rw [hw₂]⟩
  · rintro s ⟨now, hrows⟩ x hx hactive
    rw [hrows, List.mem_singleton] at hx
    have hstatus := hactive.2.1
    simp [hx, cancelledRow, SubscriptionStatus.word] at hstatus

end DailyRun

end RecurringBilling
