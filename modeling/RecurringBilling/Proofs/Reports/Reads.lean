import RecurringBilling.Proofs.Lifecycle.Lookups
import RecurringBilling.Proofs.Reports.Packages

/-! What the reports read of a store, and what each of them comes to on a store that stays as it is. -/

namespace RecurringBilling

namespace StatusCounts

variable {counts : StatusCounts} {status status' : SubscriptionStatus} {n : Int}

theorem count_cons (m : Int) : count ((status, m) :: counts) status' =
    if status = status' then m else counts.count status' := by
  by_cases h : status = status' <;> simp [count, h]

theorem count_add : (add status n counts).count status' =
    counts.count status' + if status = status' then n else 0 := by
  induction counts with
  | nil => by_cases h : status = status' <;> simp [add, count, h]
  | cons first rest ih =>
    obtain ⟨s, m⟩ := first
    rw [add]
    by_cases hs : s = status
    · by_cases h : status = status' <;> simp [hs, count_cons, h]
    · rw [if_neg hs, count_cons, count_cons, ih]
      by_cases hs' : s = status'
      · have h : status ≠ status' := fun h => hs (hs'.trans h.symm)
        simp [hs', h]
      · simp [hs']

theorem sum_add : ((add status n counts).map (·.2)).sum = (counts.map (·.2)).sum + n := by
  induction counts with
  | nil => simp [add]
  | cons first rest ih =>
    obtain ⟨s, m⟩ := first
    rw [add]
    by_cases hs : s = status
    · simp only [hs, if_true, List.map_cons, List.sum_cons]
      omega
    · simp only [hs, if_false, List.map_cons, List.sum_cons, ih]
      omega

theorem mem_keys_add :
    status' ∈ (add status n counts).map (·.1) ↔ status' = status ∨ status' ∈ counts.map (·.1) := by
  induction counts with
  | nil => simp [add]
  | cons first rest ih =>
    obtain ⟨s, m⟩ := first
    rw [add]
    by_cases hs : s = status
    · simp [hs]
    · rw [if_neg hs, List.map_cons, List.mem_cons, ih, List.map_cons, List.mem_cons]
      exact or_left_comm

theorem nodup_keys_add (h : (counts.map (·.1)).Nodup) :
    ((add status n counts).map (·.1)).Nodup := by
  induction counts with
  | nil => simp [add]
  | cons first rest ih =>
    obtain ⟨s, m⟩ := first
    obtain ⟨hfirst, hrest⟩ := List.nodup_cons.mp h
    rw [add]
    by_cases hs : s = status
    · rw [if_pos hs]
      exact List.nodup_cons.mpr ⟨hfirst, hrest⟩
    · rw [if_neg hs]
      refine List.nodup_cons.mpr ⟨fun hmem => ?_, ih hrest⟩
      exact (mem_keys_add.mp hmem).elim hs hfirst

/-- Counts of the statuses that texts stand for: each status is listed once. -/
structure Tallies (texts : List String) (counts : StatusCounts) : Prop where
  nodup : (counts.map (·.1)).Nodup
  sum : (counts.map (·.2)).sum = texts.length
  count : ∀ status, counts.count status =
    (texts.filter fun text => SubscriptionStatus.ofText text = status).length

theorem tallies_ofTexts (texts : List String) :
    Tallies texts (ofTexts (texts.map fun text => (text, 1))) := by
  induction texts using List.reverseRecOn with
  | nil => exact ⟨List.nodup_nil, rfl, fun _ => rfl⟩
  | append_singleton texts text ih =>
    rw [ofTexts] at ih
    rw [List.map_append, List.map_singleton, ofTexts, List.foldl_concat]
    refine ⟨nodup_keys_add ih.nodup, ?_, fun status => ?_⟩
    · rw [sum_add, ih.sum, List.length_append, List.length_singleton]
      rfl
    · rw [count_add, ih.count]
      by_cases h : SubscriptionStatus.ofText text = status <;> simp [h]

end StatusCounts

theorem SubscriptionStatus.isValidText_eq_isLive (text : String) :
    isValidText text = Reports.isLive text := by
  have hactive : ofText text = .active ↔ text = active.word := ofText_eq_iff (by simp)
  have htrial : ofText text = .onTrial ↔ text = onTrial.word := ofText_eq_iff (by simp)
  have hlive : Reports.isLive text = true ↔ ofText text = .active ∨ ofText text = .onTrial := by
    simp [Reports.isLive, valid]
  rw [Bool.eq_iff_iff, hlive, hactive, htrial]
  simp only [isValidText, valid, List.any_cons, List.any_nil, Bool.or_false, Bool.or_eq_true,
    beq_iff_eq]
  exact or_congr eq_comm eq_comm

theorem InvoiceStatus.ofWord?_eq_some_iff {text : String} {status : InvoiceStatus} :
    ofWord? text = some status ↔ text = status.word := by
  constructor
  · intro htext
    unfold ofWord? at htext
    split at htext <;> simp only [Option.some.injEq, reduceCtorEq] at htext <;> subst htext <;> rfl
  · rintro rfl
    cases status <;> rfl

theorem InvoiceStatus.word_inj {status status' : InvoiceStatus} (h : status.word = status'.word) :
    status = status' :=
  Option.some.inj ((ofWord?_eq_some_iff.mpr rfl).symm.trans (ofWord?_eq_some_iff.mpr h))

namespace Reports

theorem isPaid_eq (row : PackageInvoice) : isPaid row = (row.status == InvoiceStatus.paid.word) := by
  rw [Bool.eq_iff_iff]
  simp [isPaid, InvoiceStatus.ofWord?_eq_some_iff]

theorem isPending_eq (row : PackageInvoice) :
    isPending row = (row.status == InvoiceStatus.pending.word) := by
  rw [Bool.eq_iff_iff]
  simp [isPending, InvoiceStatus.ofWord?_eq_some_iff]

end Reports

namespace Store

variable {s : Store} {id : Id} {p : Package}

def statusCounts (s : Store) : StatusCounts :=
  StatusCounts.ofTexts (s.liveSubscriptions.map fun r => (r.status, 1))

theorem tallies_statusCounts (s : Store) :
    StatusCounts.Tallies (s.liveSubscriptions.map (·.status)) s.statusCounts := by
  have h := StatusCounts.tallies_ofTexts (s.liveSubscriptions.map (·.status))
  rwa [List.map_map] at h

/-- The two statuses that give access, and the rows of either. -/
theorem count_active_add_count_onTrial (s : Store) :
    s.statusCounts.count .active + s.statusCounts.count .onTrial = s.validSubscriptions.length := by
  rw [s.tallies_statusCounts.count, s.tallies_statusCounts.count, validSubscriptions]
  simp only [SubscriptionStatus.isValidText_eq_isLive]
  induction s.liveSubscriptions with
  | nil => rfl
  | cons r rest ih =>
    rw [List.map_cons]
    by_cases hactive : SubscriptionStatus.ofText r.status = .active
    · simp [hactive, Reports.isLive, SubscriptionStatus.valid] at ih ⊢
      omega
    · by_cases htrial : SubscriptionStatus.ofText r.status = .onTrial
      · simp [htrial, Reports.isLive, SubscriptionStatus.valid] at ih ⊢
        omega
      · simpa [hactive, htrial, Reports.isLive, SubscriptionStatus.valid] using ih

def overdueInvoices (s : Store) (now : Instant) : List Invoice :=
  (s.invoicesWithText .pending).filter fun i => i.dueDate.any (· < now)

/-- The name of a package, deleted or not. -/
def packageName (s : Store) (id : Id) : String := ((s.packageRow? id).map (·.name)).getD ""

theorem id_of_packageRow? (h : s.packageRow? id = some p) : p.id = id := by
  simpa using List.find?_some h

theorem packageName_of_packageRow? (h : s.packageRow? id = some p) : s.packageName p.id = p.name := by
  simp [packageName, id_of_packageRow? h, h]

theorem packageName_of_priced (row : PricedSubscription) (h : row ∈ s.pricedSubscriptions) :
    row.packageName = s.packageName row.packageId := by
  obtain ⟨r, _, hr⟩ := List.mem_filterMap.mp h
  obtain ⟨p, hp, rfl⟩ := Option.map_eq_some_iff.mp hr
  exact (packageName_of_packageRow? hp).symm

theorem packageName_of_invoiced (row : PackageInvoice) (h : row ∈ s.packageInvoices) :
    row.packageName = s.packageName row.packageId := by
  obtain ⟨i, _, hi⟩ := List.mem_filterMap.mp h
  obtain ⟨r, _, hi⟩ := Option.bind_eq_some_iff.mp hi
  obtain ⟨p, hp, hrow⟩ := Option.bind_eq_some_iff.mp hi
  obtain rfl := Option.some.inj hrow
  exact (packageName_of_packageRow? hp).symm

theorem length_pricedSubscriptions_le : s.pricedSubscriptions.length ≤ s.liveSubscriptions.length :=
  List.length_filterMap_le _ _

/-- Whether the counts of subscriptions, and the monthly prices of each package, can be computed. -/
structure SubscriptionsFit (s : Store) : Prop where
  counts : 100 * s.liveSubscriptions.length < Decimal.unitBound
  monthly : ∀ id, ∃ d, Reports.mrr (s.pricedSubscriptions.filter (·.packageId = id)) = .ok d

end Store

namespace Reports

section

variable {env : Chances} {now : Instant} {w : World} {d : Decimal} (hcalm : env.Calm)

include hcalm

theorem run_totalSubscriptions :
    (env.run totalSubscriptions w).1 = .done (w.store.liveSubscriptions.length : Int) := by
  simp [totalSubscriptions, World.answer, hcalm w, Store.answer]

theorem run_activeSubscriptions :
    (env.run activeSubscriptions w).1 = .done (w.store.validSubscriptions.length : Int) := by
  simp [activeSubscriptions, World.answer, hcalm w, Store.answer]

theorem run_subscriptionsByStatus :
    (env.run subscriptionsByStatus w).1 = .done w.store.statusCounts := by
  simp [subscriptionsByStatus, World.answer, hcalm w, Store.answer, Store.statusCounts]

theorem run_subscribersByPackage :
    (env.run subscribersByPackage w).1 =
      .done (subscriberCounts w.store.pricedSubscriptions) := by
  simp [subscribersByPackage, World.answer, hcalm w, Store.answer]

theorem run_trialConversionRate (h : trialConversion w.store.pricedSubscriptions = .ok d) :
    (env.run trialConversionRate w).1 = .done d := by
  simp [trialConversionRate, World.answer, hcalm w, Store.answer, h]

theorem run_monthlyRecurringRevenue (h : mrr w.store.pricedSubscriptions = .ok d) :
    (env.run monthlyRecurringRevenue w).1 = .done d := by
  simp [monthlyRecurringRevenue, World.answer, hcalm w, Store.answer, h]

theorem run_averageRevenuePerUser {average : Decimal}
    (h : mrr w.store.pricedSubscriptions = .ok d)
    (haverage : ratio d w.store.validSubscriptions.length = .ok average) :
    (env.run averageRevenuePerUser w).1 = .done average := by
  by_cases hzero : w.store.validSubscriptions.length = 0
  · have hnone : average = 0 := by
      rw [hzero] at haverage
      exact (Except.ok.inj haverage).symm
    simp [averageRevenuePerUser, World.answer, hcalm w, Store.answer, hzero, hnone]
  · simp [averageRevenuePerUser, monthlyRecurringRevenue, World.answer, hcalm _, Store.answer,
      World.called, World.withStore, hzero, h, haverage]

theorem run_totalRevenue (h : w.store.totalRevenue = .ok d) :
    (env.run totalRevenue w).1 = .done (round2 d) := by
  simp [totalRevenue, World.answer, hcalm w, Store.answer, h, Except.map]

theorem run_revenueByPackage {revenues : List PackageRevenue}
    (h : packageRevenues w.store.packageInvoices = .ok revenues) :
    (env.run revenueByPackage w).1 = .done revenues := by
  simp [revenueByPackage, World.answer, hcalm w, Store.answer, h]

theorem run_pendingInvoices :
    (env.run pendingInvoices w).1 = .done ((w.store.invoicesWithText .pending).length : Int) := by
  simp [pendingInvoices, World.answer, hcalm w, Store.answer]

variable (hnow : ∀ w, (env w).now = now)

include hnow

theorem run_overdueInvoices :
    (env.run overdueInvoices w).1 = .done ((w.store.overdueInvoices now).length : Int) := by
  simp [overdueInvoices, World.answer, hcalm w, hnow, Store.answer, Store.overdueInvoices]

theorem run_dashboardSummary {summary : DashboardSummary} (h : w.store.totalRevenue = .ok d)
    (hsummary : dashboard w.store.liveSubscriptions.length w.store.statusCounts
      w.store.pricedSubscriptions d (w.store.invoicesWithText .pending).length
      (w.store.overdueInvoices now).length = .ok summary) :
    (env.run dashboardSummary w).1 = .done summary := by
  rw [Store.statusCounts, Store.overdueInvoices] at hsummary
  simp [dashboardSummary, World.answer, World.called, World.withStore, hcalm _, hnow, Store.answer,
    Except.map, h, hsummary]

theorem run_analyticsByPackage {figures : List PackageAnalytics}
    (h : packageAnalytics w.store.pricedSubscriptions w.store.packageInvoices now = .ok figures) :
    (env.run analyticsByPackage w).1 = .done figures := by
  simp [analyticsByPackage, World.answer, World.called, World.withStore, hcalm _, hnow,
    Store.answer, h]

end

end Reports

/-- How a computation ends that a procedure takes over as it is. -/
def Outcome.computed {α : Type} : Except ArithmeticFault α → Outcome α
  | .ok a => done a
  | .error fault => halted fault

theorem Chances.run_compute {α : Type} (env : Chances) (result : Except ArithmeticFault α)
    (w : World) : env.run (Procedure.compute result) w = (.computed result, w) := by
  cases result <;> rfl

namespace Reports

/-! A store with subscriptions to one package, one of them of an unknown status, and two invoices. -/

def reportedRow (number : Nat) (text : String) : Subscription :=
  { Subscribing.heldRow number .active none none with status := text }

def reportedInvoice (number : Nat) (status : InvoiceStatus) : Invoice :=
  { subscriptionId := .ofNat 1, invoiceNumber := "INV-1", amount := .hundred, currency := "EUR"
    status := status.word, issuedAt := .first, dueDate := some .first, paidAt := none, notes := none
    id := .ofNat number, createdAt := .first, updatedAt := .first, deletedAt := none }

def reportedStore : Store :=
  { packages := [DailyRun.plainPackage]
    subscriptions := [reportedRow 1 "active", reportedRow 2 "on_trial", reportedRow 3 "paused"]
    invoices := [reportedInvoice 4 .paid, reportedInvoice 5 .pending] }

theorem subscriptionsFit_reportedStore : reportedStore.SubscriptionsFit where
  counts := by decide
  monthly id := by
    have hone : ∀ row ∈ reportedStore.pricedSubscriptions,
        row.packageId = DailyRun.plainPackage.id := by decide
    rcases filter_eq_self_or_nil hone id with h | h <;> rw [h] <;> exact ⟨_, rfl⟩

end Reports

end RecurringBilling
