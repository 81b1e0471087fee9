import RecurringBilling.Proofs.Reports.Reads

/-! The money of packages against the money of all. The revenues are grouped along the invoices that
are paid and the figures along the subscriptions, so that every invoice has to reach the package of
a subscription that is not deleted, and to reach it once. -/

namespace RecurringBilling

namespace Decimal

/-- Whether a number has no more than so many decimals. -/
def HasPlaces (places : Nat) (x : ℚ) : Prop := ∃ n : Int, x * 10 ^ places = n

theorem HasPlaces.sum {places : Nat} {xs : List ℚ} (h : ∀ x ∈ xs, HasPlaces places x) :
    HasPlaces places xs.sum := by
  induction xs with
  | nil => exact ⟨0, by simp⟩
  | cons x rest ih =>
    obtain ⟨⟨n, hn⟩, hrest⟩ := List.forall_mem_cons.mp h
    obtain ⟨m, hm⟩ := ih hrest
    exact ⟨n + m, by rw [List.sum_cons, add_mul, hn, hm, Int.cast_add]⟩

end Decimal

namespace Store

variable {s : Store} {now : Instant}

/-- Whether no subscription is deleted, and each invoice has a subscription with a package. -/
structure Accounted (s : Store) : Prop where
  live : ∀ r ∈ s.subscriptions, r.isLive = true
  billed : ∀ i ∈ s.liveInvoices, ∃ r p,
    s.subscriptions.find? (·.id == i.subscriptionId) = some r ∧
      s.packageRow? r.packageId = some p

/-- Whether money has no more than two decimals, and is added up without loss. -/
structure RevenueFits (s : Store) : Prop extends SubscriptionsFit s where
  places : ∀ i ∈ s.liveInvoices, Decimal.HasPlaces 2 i.amount.toRat
  total : Decimal.SumsExactly ((s.invoicesWithText .paid).map (·.amount))
  totalOf : ∀ id, Decimal.SumsExactly
    (Reports.paidAmounts (s.packageInvoices.filter (·.packageId = id)))

theorem packageInvoice?_eq_some {i : Invoice} {row : PackageInvoice}
    (h : s.packageInvoice? i = some row) :
    ∃ r p, r ∈ s.subscriptions ∧ s.packageRow? r.packageId = some p ∧ row.packageId = p.id ∧
      row.amount = i.amount ∧ row.status = i.status ∧ row.dueDate = i.dueDate := by
  obtain ⟨r, hr, h⟩ := Option.bind_eq_some_iff.mp h
  obtain ⟨p, hp, h⟩ := Option.bind_eq_some_iff.mp h
  obtain rfl := Option.some.inj h
  exact ⟨r, p, List.mem_of_find?_eq_some hr, hp, rfl, rfl, rfl, rfl⟩

variable (h : s.Accounted)

include h

/-- An invoice reaches the package of one of the subscriptions. -/
theorem Accounted.exists_priced {row : PackageInvoice} (hrow : row ∈ s.packageInvoices) :
    ∃ priced ∈ s.pricedSubscriptions, priced.packageId = row.packageId := by
  obtain ⟨i, _, hi⟩ := List.mem_filterMap.mp hrow
  obtain ⟨r, p, hr, hp, hid, _⟩ := packageInvoice?_eq_some hi
  have hlive : r ∈ s.liveSubscriptions := List.mem_filter.mpr ⟨hr, h.live r hr⟩
  have hpriced : ∃ priced, s.pricedSubscription? r = some priced ∧ priced.packageId = p.id := by
    simp [pricedSubscription?, hp]
  obtain ⟨priced, hpriced, hid'⟩ := hpriced
  exact ⟨priced, List.mem_filterMap.mpr ⟨r, hlive, hpriced⟩, hid'.trans hid.symm⟩

theorem Accounted.invoiced : List.Forall₂
    (fun i row => row.amount = i.amount ∧ row.status = i.status ∧ row.dueDate = i.dueDate)
    s.liveInvoices s.packageInvoices := by
  refine (forall₂_filterMap fun i hi => ?_).imp fun i row hrow => ?_
  · obtain ⟨r, p, hr, hp⟩ := h.billed i hi
    simp [packageInvoice?, hr, hp]
  · obtain ⟨_, _, _, _, _, hsame⟩ := packageInvoice?_eq_some hrow
    exact hsame

theorem Accounted.map_paid {γ : Type} (f : Decimal → γ) :
    (s.packageInvoices.filter Reports.isPaid).map (fun row => f row.amount) =
      (s.invoicesWithText .paid).map fun i => f i.amount :=
  map_filter_of_forall₂ h.invoiced (fun i row hrow => by rw [Reports.isPaid_eq, hrow.2.1])
    fun i row hrow => by rw [hrow.1]

theorem Accounted.length_pending :
    (s.packageInvoices.filter Reports.isPending).length = (s.invoicesWithText .pending).length :=
  length_filter_of_forall₂ h.invoiced fun i row hrow => by rw [Reports.isPending_eq, hrow.2.1]

theorem Accounted.length_overdue (now : Instant) :
    ((s.packageInvoices.filter Reports.isPending).filter fun row =>
      row.dueDate.any (· < now)).length = (s.overdueInvoices now).length := by
  rw [overdueInvoices, invoicesWithText, List.filter_filter, List.filter_filter]
  exact length_filter_of_forall₂ h.invoiced fun i row hrow => by
    rw [Reports.isPending_eq, hrow.2.1, hrow.2.2]

end Store

namespace Reports

variable {s : Store} {now : Instant} {ids : List Id} {paid : Id → Decimal} {total : Decimal}

/-- The revenue of a package; zero for one that is not listed. -/
def revenueOf (revenues : List PackageRevenue) (id : Id) : Decimal :=
  ((revenues.find? (·.packageId = id)).map (·.revenue)).getD 0

def totalRevenueOf (figures : List PackageAnalytics) (id : Id) : Decimal :=
  ((figures.find? (·.packageId = id)).map (·.totalRevenue)).getD 0

/-- Revenues and figures of packages that come to what is said of all. -/
structure AddsUp (revenues : List PackageRevenue) (figures : List PackageAnalytics)
    (total : Decimal) (pending overdue : Int) : Prop where
  nodup_revenues : (revenues.map (·.packageId)).Nodup
  nodup_figures : (figures.map (·.packageId)).Nodup
  revenue : (revenues.map (·.revenue.toRat)).sum = total.toRat
  revenueOf_eq : ∀ id, revenueOf revenues id = totalRevenueOf figures id
  totalRevenue : (figures.map (·.totalRevenue.toRat)).sum = total.toRat
  pending : (figures.map (·.pendingInvoices)).sum = pending
  overdue : (figures.map (·.overdueInvoices)).sum = overdue

theorem toRat_round2_sum {ds : List Decimal} (h : ∀ d ∈ ds, Decimal.HasPlaces 2 d.toRat)
    (htotal : total.toRat = (ds.map Decimal.toRat).sum) : (round2 total).toRat = total.toRat := by
  obtain ⟨n, hn⟩ : Decimal.HasPlaces 2 (ds.map Decimal.toRat).sum := .sum (by simpa using h)
  rw [← htotal] at hn
  exact Decimal.toRat_roundTo hn

/-- What each package was paid comes to what was paid, over any list of packages with all of those
that were paid. -/
theorem sum_round2_paid (h : s.Accounted) (hfit : s.RevenueFits)
    (hpaid : ∀ id, (paid id).toRat =
      ((paidAmounts (s.packageInvoices.filter (·.packageId = id))).map Decimal.toRat).sum)
    (htotal : total.toRat =
      (((s.invoicesWithText .paid).map (·.amount)).map Decimal.toRat).sum)
    (hids : ids.Nodup) (hmem : ∀ row ∈ s.packageInvoices.filter isPaid, row.packageId ∈ ids) :
    (ids.map fun id => (round2 (paid id)).toRat).sum = (round2 total).toRat := by
  have hplaces : ∀ i ∈ s.invoicesWithText .paid, Decimal.HasPlaces 2 i.amount.toRat :=
    fun i hi => hfit.places i (List.mem_filter.mp hi).1
  have hamounts := h.map_paid (fun d => d)
  have hplaces' : ∀ row ∈ s.packageInvoices.filter isPaid, Decimal.HasPlaces 2 row.amount.toRat := by
    intro row hrow
    have hamount : row.amount ∈ (s.invoicesWithText .paid).map (·.amount) :=
      hamounts ▸ List.mem_map_of_mem hrow
    obtain ⟨i, hi, heq⟩ := List.mem_map.mp hamount
    exact heq ▸ hplaces i hi
  have hround : ∀ id, (round2 (paid id)).toRat =
      (((s.packageInvoices.filter isPaid).filter (·.packageId = id)).map (·.amount.toRat)).sum := by
    intro id
    have hsum := hpaid id
    rw [paidAmounts, List.filter_comm] at hsum
    rw [toRat_round2_sum ?_ hsum, hsum, List.map_map]
    · rfl
    · intro d hd
      obtain ⟨row, hrow, rfl⟩ := List.mem_map.mp hd
      exact hplaces' row (List.mem_filter.mp hrow).1
  rw [toRat_round2_sum (by simpa using hplaces) htotal, htotal, List.map_map,
    List.map_congr_left fun id _ => hround id, sum_map_filter _ hids hmem, h.map_paid]
  rfl

theorem paid_eq_zero {invoices : List PackageInvoice} {id : Id}
    (hpaid : ∀ id, Decimal.sum (paidAmounts (invoices.filter (·.packageId = id))) = .ok (paid id))
    (hmem : ∀ row ∈ invoices.filter isPaid, row.packageId ∈ ids) (hid : id ∉ ids) :
    paid id = 0 := by
  have hnothing : paidAmounts (invoices.filter (·.packageId = id)) = [] := by
    rw [paidAmounts, List.filter_comm, List.map_eq_nil_iff, List.filter_eq_nil_iff]
    intro row hrow hrow'
    exact hid (of_decide_eq_true hrow' ▸ hmem row hrow)
  have hzero := hpaid id
  rw [hnothing] at hzero
  exact (Except.ok.inj hzero).symm

/-- A list that leaves out only packages that were paid nothing says what each was paid. -/
theorem getD_find?_paid {β : Type} {R : Id → β → Prop} {bs : List β} (h : List.Forall₂ R ids bs)
    {key : β → Id} {value : β → Decimal} (hkey : ∀ id b, R id b → key b = id)
    (hvalue : ∀ id b, R id b → value b = round2 (paid id))
    (hnone : ∀ id, id ∉ ids → paid id = 0) (id : Id) :
    ((bs.find? (key · = id)).map value).getD 0 = round2 (paid id) := by
  rw [find?_of_forall₂ h hkey hvalue]
  by_cases hid : id ∈ ids
  · rw [if_pos hid, Option.getD_some]
  · rw [if_neg hid, hnone id hid]
    rfl

theorem package_money_adds_up {env : Chances} {w : World} (hcalm : env.Calm)
    (hnow : ∀ w, (env w).now = now) (h : w.store.Accounted) (hfit : w.store.RevenueFits) :
    ∃ revenues figures total pending overdue,
      (env.run revenueByPackage w).1 = .done revenues ∧
      (env.run analyticsByPackage w).1 = .done figures ∧
      (env.run totalRevenue w).1 = .done total ∧
      (env.run pendingInvoices w).1 = .done pending ∧
      (env.run overdueInvoices w).1 = .done overdue ∧
      AddsUp revenues figures total pending overdue := by
  obtain ⟨total, hsum, htotal⟩ := hfit.total.sum
  have hrevenue : w.store.totalRevenue = .ok total := by rw [Store.totalRevenue, hsum]
  choose paid hpaid hpaid' using fun id => (hfit.totalOf id).sum
  have hcounts : 100 * w.store.pricedSubscriptions.length < Decimal.unitBound :=
    Nat.lt_of_le_of_lt (Nat.mul_le_mul_left _ w.store.length_pricedSubscriptions_le) hfit.counts
  obtain ⟨paying, revenues, hrevenues, hnodup, hmem, hall⟩ :=
    packageRevenues_isOk Store.packageName_of_invoiced hpaid
  obtain ⟨ids, figures, hfigures, hnodup', hmem', hall'⟩ := packageAnalytics_isOk now
    Store.packageName_of_priced hcounts hfit.monthly hpaid
  -- a package that was paid has a subscription, so that both lists have it
  have hlisted : ∀ row ∈ w.store.packageInvoices, row.packageId ∈ ids :=
    fun row hrow => (hmem' _).mpr (h.exists_priced hrow)
  have hpaying : ∀ row ∈ w.store.packageInvoices.filter isPaid, row.packageId ∈ paying :=
    fun row hrow => (hmem _).mpr ⟨row, hrow, rfl⟩
  have hpaying' : ∀ row ∈ w.store.packageInvoices.filter isPaid, row.packageId ∈ ids :=
    fun row hrow => hlisted row (List.mem_filter.mp hrow).1
  refine ⟨revenues, figures, round2 total, _, _, run_revenueByPackage hcalm hrevenues,
    run_analyticsByPackage hcalm hnow hfigures, run_totalRevenue hcalm hrevenue,
    run_pendingInvoices hcalm, run_overdueInvoices hcalm hnow, ?_⟩
  exact
    { nodup_revenues := by
        rw [keys_of_forall₂ hall fun i r hr => hr.1]
        exact hnodup
      nodup_figures := by
        rw [keys_of_forall₂ hall' fun i f hf => hf.1.package]
        exact hnodup'
      revenue := by
        rw [map_of_forall₂ hall fun i r hr => congrArg Decimal.toRat hr.2]
        exact sum_round2_paid h hfit hpaid' htotal hnodup hpaying
      revenueOf_eq := fun id => by
        rw [revenueOf, totalRevenueOf,
          getD_find?_paid hall (fun i r hr => hr.1) (fun i r hr => hr.2)
            fun i hi => paid_eq_zero hpaid hpaying hi,
          getD_find?_paid hall' (fun i f hf => hf.1.package) (fun i f hf => hf.2)
            fun i hi => paid_eq_zero hpaid hpaying' hi]
      totalRevenue := by
        rw [map_of_forall₂ hall' fun i f hf => congrArg Decimal.toRat hf.2]
        exact sum_round2_paid h hfit hpaid' htotal hnodup' hpaying'
      pending := by
        rw [map_of_forall₂ hall' fun i f hf => hf.1.pending, ← h.length_pending]
        exact sum_length_filter isPending hnodup' hlisted
      overdue := by
        rw [map_of_forall₂ hall' fun i f hf => hf.1.overdue, ← h.length_overdue]
        simpa only [List.filter_filter, Bool.and_assoc] using sum_length_filter
          (fun row => row.dueDate.any (· < now) && isPending row) hnodup' hlisted }

theorem adds_up_reportedStore :
    DailyRun.plainChances.Calm ∧ (∀ w, (DailyRun.plainChances w).now = DailyRun.plainNoon) ∧
      reportedStore.Accounted ∧ reportedStore.RevenueFits ∧
      ∃ revenues figures total pending overdue,
        (DailyRun.plainChances.run revenueByPackage { store := reportedStore }).1 =
          .done revenues ∧
        (DailyRun.plainChances.run analyticsByPackage { store := reportedStore }).1 =
          .done figures ∧
        (DailyRun.plainChances.run totalRevenue { store := reportedStore }).1 = .done total ∧
        (DailyRun.plainChances.run pendingInvoices { store := reportedStore }).1 = .done pending ∧
        (DailyRun.plainChances.run overdueInvoices { store := reportedStore }).1 = .done overdue ∧
        AddsUp revenues figures total pending overdue := by
  have hcalm : DailyRun.plainChances.Calm := fun _ => rfl
  have hnow : ∀ w, (DailyRun.plainChances w).now = DailyRun.plainNoon := fun _ => rfl
  have hinvoices : ∀ i ∈ reportedStore.liveInvoices,
      i.subscriptionId = .ofNat 1 ∧ i.amount = .hundred := by
    decide
  have haccounted : reportedStore.Accounted := by
    refine ⟨by decide, fun i hi => ⟨reportedRow 1 "active", DailyRun.plainPackage, ?_, rfl⟩⟩
    rw [(hinvoices i hi).1]
    rfl
  have hone : ∀ row ∈ reportedStore.packageInvoices, row.packageId = DailyRun.plainPackage.id := by
    decide
  have hplaces : Decimal.HasPlaces 2 Decimal.hundred.toRat :=
    ⟨10000, by norm_num [Decimal.toRat, Decimal.hundred, Decimal.whole]⟩
  have hfit : reportedStore.RevenueFits :=
    { subscriptionsFit_reportedStore with
      places := fun i hi => (hinvoices i hi).2 ▸ hplaces
      total := Decimal.sumsExactly_singleton .hundred
      totalOf := fun id => by
        rcases filter_eq_self_or_nil hone id with h | h <;> rw [h]
        · exact Decimal.sumsExactly_singleton .hundred
        · exact Decimal.sumsExactly_nil }
  exact ⟨hcalm, hnow, haccounted, hfit, package_money_adds_up hcalm hnow haccounted hfit⟩

end Reports

end RecurringBilling
