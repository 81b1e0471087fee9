import RecurringBilling.Proofs.Asks
import RecurringBilling.Proofs.Reports.Revenue
import RecurringBilling.Proofs.Schedule.History

/-! Revenue by month against revenue in all. The one goes by the time of payment and the other by
the status, and an invoice that is issued as paid has the status and no time of payment. -/

namespace RecurringBilling

open Procedure

namespace Invoice

/-- Paid, and no time of payment is recorded. -/
def isUndated (i : Invoice) : Bool := i.status == InvoiceStatus.paid.word && i.paidAt.isNone

end Invoice

/-- Whether the row is that of a draft which a call issues as paid. -/
def BillingCall.IssuesPaid (call : BillingCall) (row : NewInvoice) : Prop :=
  ∃ draft, call = .create draft ∧ draft.status = .paid ∧
    row.subscriptionId = draft.subscriptionId ∧ row.amount = draft.amount

/-- Whether the request is one of the billing calls, and issues as paid only such a row. -/
def Request.Bills (issued : NewInvoice → Prop) : Request → Prop
  | findPackage _ => True
  | createInvoice row => row.status = InvoiceStatus.paid.word → issued row
  | markInvoicePaid .. => True
  | setInvoiceStatus _ status => status ≠ .paid
  | _ => False

namespace BillingCall

variable {issued : NewInvoice → Prop}

theorem asks_procedure {times : Instant → Prop} (dueDays : Nat) (call : BillingCall)
    (h : ∀ row, call.IssuesPaid row → issued row) :
    (call.procedure dueDays).Asks times (Request.Bills issued) := by
  cases call with
  | generate subscription amount =>
    refine Invoicing.asks_generate dueDays subscription amount trivial fun row hrow hpaid => ?_
    simp [hrow, InvoiceStatus.word] at hpaid
  | create draft =>
    refine Invoicing.asks_create draft fun number hpaid => h _ ⟨draft, rfl, ?_, rfl, rfl⟩
    exact InvoiceStatus.word_inj hpaid
  | markPaid invoice =>
    simp only [procedure, Invoicing.markPaid]
    split
    · trivial
    · intro now _
      exact (asks_requestOr trivial).bind fun _ => asks_log.bind fun _ => trivial
  | markVoid invoice =>
    exact (asks_requestOr (by simp [Request.Bills])).bind fun _ => asks_log.bind fun _ => trivial

end BillingCall

namespace Store

variable {s s' : Store} {now since : Instant} {issued : NewInvoice → Prop}

/-- An update that leaves no row without a time of payment adds none to those that have none. -/
theorem undated_updateInvoice {id : Id} {f : Invoice → Invoice} {row : Invoice}
    (hf : ∀ i, (f i).isUndated = false)
    (hs : ∀ i ∈ s.invoices, i.isUndated = true → issued i.toNewInvoice)
    (h : s.updateInvoice id f = .ok (row, s')) :
    ∀ i ∈ s'.invoices, i.isUndated = true → issued i.toNewInvoice := by
  obtain ⟨rows, hm, rfl⟩ := updated_eq_ok h
  intro i hi hundated
  rcases mem_of_modifyFirst? hm hi with hi | ⟨old, _, _, rfl⟩
  · exact hs i hi hundated
  · rw [hf old] at hundated
    cases hundated

/-- What a request of the billing leaves without a time of payment was issued so. -/
theorem undated_of_bills {r : Request} {reply : r.Reply} (hr : r.Bills issued)
    (hs : ∀ i ∈ s.invoices, i.isUndated = true → issued i.toNewInvoice)
    (h : s.answer now r = .ok (reply, s')) :
    ∀ i ∈ s'.invoices, i.isUndated = true → issued i.toNewInvoice := by
  cases r with
  | findPackage id =>
    cases h
    exact hs
  | createInvoice row =>
    obtain rfl : (s.createInvoice now row).2 = s' := congrArg Prod.snd (Except.ok.inj h)
    intro i hi hundated
    rcases List.mem_append.mp hi with hi | hi
    · exact hs i hi hundated
    · obtain rfl := List.mem_singleton.mp hi
      exact hr (by simpa using (Bool.and_eq_true_iff.mp hundated).1)
  | markInvoicePaid id paidAt =>
    exact undated_updateInvoice (fun i => by simp [Invoice.isUndated]) hs h
  | setInvoiceStatus id status =>
    refine undated_updateInvoice (fun i => ?_) hs h
    have hword : status.word ≠ InvoiceStatus.paid.word := fun h => hr (InvoiceStatus.word_inj h)
    simp [Invoice.isUndated, hword]
  | _ => exact hr.elim

end Store

namespace BillingCall

/-- The world after a call, which comes to its end before the next. -/
def applyTo (dueDays : Nat) (w : World) : Chances × BillingCall → World
  | (env, call) => (env.run (call.procedure dueDays) w).2

theorem undated_foldl (dueDays : Nat) (calls : List (Chances × BillingCall)) {w : World}
    (issued : NewInvoice → Prop) (hcalls : ∀ c ∈ calls, ∀ row, c.2.IssuesPaid row → issued row)
    (hw : ∀ i ∈ w.store.invoices, i.isUndated = true → issued i.toNewInvoice) :
    ∀ i ∈ (calls.foldl (applyTo dueDays) w).store.invoices,
      i.isUndated = true → issued i.toNewInvoice := by
  induction calls generalizing w with
  | nil => exact hw
  | cons c rest ih =>
    obtain ⟨hfirst, hrest⟩ := List.forall_mem_cons.mp hcalls
    refine ih hrest ?_
    exact (asks_procedure dueDays c.2 hfirst).run c.1.shows_now
      (fun s => ∀ i ∈ s.invoices, i.isUndated = true → issued i.toNewInvoice)
      (fun _ hr hs h => Store.undated_of_bills hr hs h) hw

end BillingCall

namespace Store

/-- The invoices that count as paid without a time of payment. -/
def undated (s : Store) : List Invoice :=
  (s.invoicesWithText .paid).filter (·.paidAt.isNone)

/-- Whether money has no more than two decimals, is added up without loss, in all and month by
month, and was paid since some time. -/
structure PeriodsFit (s : Store) (since : Instant) : Prop where
  places : ∀ i ∈ s.invoicesWithText .paid, Decimal.HasPlaces 2 i.amount.toRat
  total : Decimal.SumsExactly ((s.invoicesWithText .paid).map (·.amount))
  monthly : ∀ month, Decimal.SumsExactly
    (((s.paidSince since).filter (·.paidAt.date.monthText = month)).map (·.amount))
  recorded : ∀ i ∈ s.invoicesWithText .paid, ∀ t, i.paidAt = some t → since ≤ t

variable {s : Store} {since : Instant}

/-- What is recorded of a payment since some time. -/
def paidInvoice? (since : Instant) (i : Invoice) : Option PaidInvoice :=
  match i.paidAt with
  | some t => if since ≤ t then some ⟨t, i.amount⟩ else none
  | none => none

theorem paidSince_perm (s : Store) (since : Instant) : (s.paidSince since).Perm
    ((s.invoicesWithText .paid).filterMap (paidInvoice? since)) := sortedBy_perm _ _

theorem amount_of_paidSince {p : PaidInvoice} (hp : p ∈ s.paidSince since) :
    ∃ i ∈ s.invoicesWithText .paid, i.amount = p.amount := by
  obtain ⟨i, hi, hpaid⟩ := List.mem_filterMap.mp ((s.paidSince_perm since).mem_iff.mp hp)
  refine ⟨i, hi, ?_⟩
  unfold paidInvoice? at hpaid
  split at hpaid
  · split at hpaid
    · rw [← Option.some.inj hpaid]
    · cases hpaid
  · cases hpaid

/-- What was paid at some time and what was paid at none is what was paid. -/
theorem sum_paidSince_add_undated
    (h : ∀ i ∈ s.invoicesWithText .paid, ∀ t, i.paidAt = some t → since ≤ t) :
    ((s.paidSince since).map (·.amount.toRat)).sum + (s.undated.map (·.amount.toRat)).sum =
      ((s.invoicesWithText .paid).map (·.amount.toRat)).sum := by
  rw [((s.paidSince_perm since).map _).sum_eq, undated]
  revert h
  generalize s.invoicesWithText .paid = rows
  intro h
  induction rows with
  | nil => simp
  | cons i rest ih =>
    obtain ⟨hi, hrest⟩ := List.forall_mem_cons.mp h
    have ih := ih hrest
    cases hat : i.paidAt with
    | none =>
      have hnone : paidInvoice? since i = none := by rw [paidInvoice?, hat]
      simp [hnone, hat, ← ih, add_left_comm]
    | some t =>
      have hsome : paidInvoice? since i = some ⟨t, i.amount⟩ := by
        simp [paidInvoice?, hat, hi t hat]
      simp [hsome, hat, ← ih, add_assoc]

end Store

namespace Reports

variable {env : Chances} {w : World} {months : Nat}

theorem monthlyRevenues_isOk {paid : List PaidInvoice}
    (hplaces : ∀ p ∈ paid, Decimal.HasPlaces 2 p.amount.toRat)
    (hsums : ∀ month, Decimal.SumsExactly
      ((paid.filter (·.paidAt.date.monthText = month)).map (·.amount))) :
    ∃ revenues, monthlyRevenues paid = .ok revenues ∧
      (revenues.map (·.revenue.toRat)).sum = (paid.map (·.amount.toRat)).sum := by
  have hmem {month : String} :=
    mem_groupKeys (k := month) isOrder_text (fun p : PaidInvoice => p.paidAt.date.monthText) paid
  have hkeys := nodup_groupKeys isOrder_text (fun p : PaidInvoice => p.paidAt.date.monthText) paid
  have hgroups := groupBy_eq isOrder_text (fun p : PaidInvoice => p.paidAt.date.monthText) paid
  generalize groupKeys (fun a b => decide (a < b))
    (fun p : PaidInvoice => p.paidAt.date.monthText) paid = months at hmem hkeys hgroups
  obtain ⟨revenues, hrevenues, hall⟩ := exists_mapM_sum months
    (fun month total => (⟨month, round2 total⟩ : MonthlyRevenue))
    (R := fun month r => r.revenue.toRat =
      ((paid.filter (·.paidAt.date.monthText = month)).map (·.amount.toRat)).sum) fun month => by
        obtain ⟨total, htotal, hsum⟩ := (hsums month).sum
        have hplaces' : ∀ d ∈ (paid.filter (·.paidAt.date.monthText = month)).map (·.amount),
            Decimal.HasPlaces 2 d.toRat := by
          intro d hd
          obtain ⟨p, hp, rfl⟩ := List.mem_map.mp hd
          exact hplaces p (List.mem_filter.mp hp).1
        refine ⟨total, htotal, ?_⟩
        rw [toRat_round2_sum hplaces' hsum, hsum, List.map_map]
        rfl
  refine ⟨revenues, ?_, ?_⟩
  · rw [monthlyRevenues, hgroups, List.mapM_map]
    exact hrevenues
  · rw [map_of_forall₂ hall fun _ _ h => h]
    exact sum_map_filter _ hkeys fun p hp => hmem.mpr ⟨p, hp, rfl⟩

theorem run_revenueByPeriod (hcalm : env.Calm) :
    (env.run (revenueByPeriod months) w).1 =
      .computed (monthlyRevenues (w.store.paidSince ((env w).now.monthsBackStart months))) := by
  simp [revenueByPeriod, World.answer, hcalm w, Store.answer, Chances.run_compute]

/-- Whatever is refused, the revenue of the months comes to that in all, exactly if what is paid
without a time of payment comes to nothing; and that was issued as paid. -/
theorem periods_add_up_iff (dueDays : Nat) (calls : List (Chances × BillingCall)) (start : Store)
    (hnone : start.invoices = []) (hcalm : env.Calm) (months : Nat) :
    let w := calls.foldl (BillingCall.applyTo dueDays) { store := start }
    w.store.PeriodsFit ((env w).now.monthsBackStart months) →
      (∀ i ∈ w.store.undated, ∃ c ∈ calls, c.2.IssuesPaid i.toNewInvoice) ∧
      ∃ revenues total, (env.run (revenueByPeriod months) w).1 = .done revenues ∧
        (env.run totalRevenue w).1 = .done total ∧
        ((revenues.map (·.revenue.toRat)).sum = total.toRat ↔
          (w.store.undated.map (·.amount.toRat)).sum = 0) := by
  intro w hfit
  refine ⟨fun i hi => ?_, ?_⟩
  · obtain ⟨hpaid, hundated⟩ := List.mem_filter.mp hi
    obtain ⟨hlive, hstatus⟩ := List.mem_filter.mp hpaid
    have hissued := BillingCall.undated_foldl dueDays calls (w := { store := start })
      (fun row => ∃ c ∈ calls, c.2.IssuesPaid row) (fun c hc row hrow => ⟨c, hc, hrow⟩)
      (by simp [hnone])
    exact hissued i (List.mem_filter.mp hlive).1 (Bool.and_eq_true_iff.mpr ⟨hstatus, hundated⟩)
  · obtain ⟨total, hsum, htotal⟩ := hfit.total.sum
    have hplaces : ∀ p ∈ w.store.paidSince ((env w).now.monthsBackStart months),
        Decimal.HasPlaces 2 p.amount.toRat := by
      intro p hp
      obtain ⟨i, hi, heq⟩ := Store.amount_of_paidSince hp
      exact heq ▸ hfit.places i hi
    obtain ⟨revenues, hrevenues, hperiods⟩ := monthlyRevenues_isOk hplaces hfit.monthly
    have hrevenue : w.store.totalRevenue = .ok total := by rw [Store.totalRevenue, hsum]
    refine ⟨revenues, round2 total, ?_, run_totalRevenue hcalm hrevenue, ?_⟩
    · rw [run_revenueByPeriod hcalm, hrevenues]
      rfl
    · have hplaces' : ∀ d ∈ (w.store.invoicesWithText .paid).map (·.amount),
          Decimal.HasPlaces 2 d.toRat := by simpa using hfit.places
      have hsplit := Store.sum_paidSince_add_undated hfit.recorded
      rw [toRat_round2_sum hplaces' htotal, htotal, hperiods, List.map_map]
      change _ = ((w.store.invoicesWithText .paid).map (·.amount.toRat)).sum ↔ _
      rw [← hsplit, left_eq_add]

/-- An invoice is issued and paid, and its payment is in both figures. -/
theorem periods_add_up_settled :
    let calls : List (Chances × BillingCall) :=
      [(DailyRun.plainChances, .generate (reportedRow 1 "active") none),
        (DailyRun.plainChances, .markPaid (reportedInvoice 0xffff000000000001 .pending))]
    let start : Store := { packages := [DailyRun.plainPackage] }
    let w := calls.foldl (BillingCall.applyTo 14) { store := start }
    start.invoices = [] ∧ DailyRun.plainChances.Calm ∧
      w.store.PeriodsFit (DailyRun.plainNoon.monthsBackStart 12) ∧
      ∃ revenues total, (DailyRun.plainChances.run (revenueByPeriod 12) w).1 = .done revenues ∧
        (DailyRun.plainChances.run totalRevenue w).1 = .done total ∧
        (revenues.map (·.revenue.toRat)).sum = total.toRat := by
  intro calls start w
  have hcalm : DailyRun.plainChances.Calm := fun _ => rfl
  have hpaid : ∀ i ∈ w.store.invoicesWithText .paid,
      i.amount = .hundred ∧ i.paidAt = some DailyRun.plainNoon := by decide +kernel
  have hamounts : (w.store.invoicesWithText .paid).map (·.amount) = [.hundred] := by decide +kernel
  have hrecorded : (w.store.paidSince (DailyRun.plainNoon.monthsBackStart 12)).map (·.amount) =
      [.hundred] := by decide +kernel
  have hundated : w.store.undated = [] := by decide +kernel
  have hfit : w.store.PeriodsFit (DailyRun.plainNoon.monthsBackStart 12) := by
    refine ⟨fun i hi => ?_, ?_, fun month => ?_, fun i hi t ht => ?_⟩
    · rw [(hpaid i hi).1]
      exact ⟨10000, by norm_num [Decimal.toRat, Decimal.hundred, Decimal.whole]⟩
    · rw [hamounts]
      exact Decimal.sumsExactly_singleton _
    · obtain ⟨p, hp, -⟩ := List.map_eq_singleton_iff.mp hrecorded
      rw [hp, List.filter_singleton]
      cases decide (p.paidAt.date.monthText = month)
      · exact Decimal.sumsExactly_nil
      · exact Decimal.sumsExactly_singleton _
    · obtain rfl := Option.some.inj ((hpaid i hi).2.symm.trans ht)
      decide +kernel
  obtain ⟨-, revenues, total, hrevenues, htotal, hiff⟩ :=
    periods_add_up_iff 14 calls start rfl hcalm 12 hfit
  refine ⟨rfl, hcalm, hfit, revenues, total, hrevenues, htotal, hiff.mpr ?_⟩
  change (w.store.undated.map (·.amount.toRat)).sum = 0
  rw [hundated]
  rfl

/-- An invoice that is issued as paid is in the one figure and not in the other. -/
theorem periods_without_issued_paid :
    let draft : InvoiceDraft :=
      { subscriptionId := .ofNat 1, invoiceNumber := none, amount := .hundred, currency := "EUR"
        status := .paid, issuedAt := DailyRun.plainNoon, dueDate := none, notes := none }
    let w := [(DailyRun.plainChances, BillingCall.create draft)].foldl (BillingCall.applyTo 14)
      { store := {} }
    (DailyRun.plainChances.run totalRevenue w).1 = .done .hundred ∧
      (DailyRun.plainChances.run (revenueByPeriod 12) w).1 = .done [] := by
  intro draft w
  have hcalm : DailyRun.plainChances.Calm := fun _ => rfl
  have hamounts : (w.store.invoicesWithText .paid).map (·.amount) = [.hundred] := by decide +kernel
  have hsum : Decimal.sum [.hundred] = .ok .hundred := rfl
  have htotal : w.store.totalRevenue = .ok .hundred := by rw [Store.totalRevenue, hamounts, hsum]
  have hnone : w.store.paidSince (DailyRun.plainNoon.monthsBackStart 12) = [] := by decide +kernel
  refine ⟨run_totalRevenue hcalm htotal, ?_⟩
  rw [run_revenueByPeriod hcalm]
  change Outcome.computed (monthlyRevenues
    (w.store.paidSince (DailyRun.plainNoon.monthsBackStart 12))) = _
  rw [hnone]
  rfl

end Reports

end RecurringBilling
