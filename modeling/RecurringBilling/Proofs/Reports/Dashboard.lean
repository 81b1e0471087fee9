import RecurringBilling.Proofs.Reports.Reads

/-! The dashboard against the single metrics and the figures of packages. The first are counted by
the storage and the last from rows that were joined; they come to the same as long as no row is lost
in the join. -/

namespace RecurringBilling

namespace Store

variable {s : Store}

/-- Whether the package of each subscription is there, deleted or not. -/
def PackagesKnown (s : Store) : Prop :=
  ∀ r ∈ s.liveSubscriptions, (s.packageRow? r.packageId).isSome = true

/-- Whether no figure of the dashboard, nor of a package, is too large. -/
structure FiguresFit (s : Store) : Prop extends SubscriptionsFit s where
  mrr : ∃ d, Reports.mrr s.pricedSubscriptions = .ok d
  revenue : ∃ d, s.totalRevenue = .ok d
  revenueOf : ∀ id, ∃ d,
    Decimal.sum (Reports.paidAmounts (s.packageInvoices.filter (·.packageId = id))) = .ok d

variable (h : s.PackagesKnown)

include h

theorem PackagesKnown.priced : List.Forall₂
    (fun r row => row.packageId = r.packageId ∧ row.status = r.status)
    s.liveSubscriptions s.pricedSubscriptions := by
  refine (forall₂_filterMap fun r hr => ?_).imp fun r row hrow => ?_
  · obtain ⟨p, hp⟩ := Option.isSome_iff_exists.mp (h r hr)
    simp [pricedSubscription?, hp]
  · obtain ⟨p, hp, rfl⟩ := Option.map_eq_some_iff.mp hrow
    exact ⟨id_of_packageRow? hp, rfl⟩

theorem PackagesKnown.length_priced :
    s.pricedSubscriptions.length = s.liveSubscriptions.length := h.priced.length_eq.symm

theorem PackagesKnown.length_filter_priced :
    (s.pricedSubscriptions.filter fun row => Reports.isLive row.status).length =
      s.validSubscriptions.length :=
  length_filter_of_forall₂ h.priced fun r row hrow => by
    rw [hrow.2, SubscriptionStatus.isValidText_eq_isLive]

theorem PackagesKnown.exists_priced_iff {id : Id} :
    (∃ row ∈ s.pricedSubscriptions, row.packageId = id) ↔
      ∃ r ∈ s.liveSubscriptions, r.packageId = id := by
  rw [← List.mem_map, ← List.mem_map, map_of_forall₂ h.priced fun r row hrow => hrow.1]

end Store

namespace Reports

variable {s : Store} {now : Instant} {summary : DashboardSummary}

/-- The figures of a dashboard, in terms of the rows of a store. -/
structure Summarises (s : Store) (now : Instant) (summary : DashboardSummary) : Prop where
  total : summary.totalSubscriptions = s.liveSubscriptions.length
  active : summary.activeSubscriptions = s.validSubscriptions.length
  mrr : Reports.mrr s.pricedSubscriptions = .ok summary.mrr
  arpu : ratio summary.mrr s.validSubscriptions.length = .ok summary.arpu
  revenue : ∃ d, s.totalRevenue = .ok d ∧ summary.totalRevenue = round2 d
  conversion : trialConversion s.pricedSubscriptions = .ok summary.trialConversionRate
  pending : summary.pendingInvoices = (s.invoicesWithText .pending).length
  overdue : summary.overdueInvoices = (s.overdueInvoices now).length

theorem dashboard_isOk (now : Instant) (hfit : s.FiguresFit) {revenue : Decimal}
    (hrevenue : s.totalRevenue = .ok revenue) :
    ∃ summary, dashboard s.liveSubscriptions.length s.statusCounts s.pricedSubscriptions revenue
        (s.invoicesWithText .pending).length (s.overdueInvoices now).length = .ok summary ∧
      Summarises s now summary := by
  have hcounts := hfit.counts
  have hpriced := s.length_pricedSubscriptions_le
  have hvalid : s.validSubscriptions.length ≤ s.liveSubscriptions.length :=
    List.length_filter_le _ _
  have hcount : ∀ status, ∃ n : Nat, s.statusCounts.count status = n ∧
      n ≤ s.liveSubscriptions.length := by
    intro status
    refine ⟨_, s.tallies_statusCounts.count status, ?_⟩
    simpa using List.length_filter_le
      (fun text : String => SubscriptionStatus.ofText text = status)
      (s.liveSubscriptions.map (·.status))
  obtain ⟨cancelled, hcancelled, hcancelled'⟩ := hcount .cancelled
  obtain ⟨expired, hexpired, hexpired'⟩ := hcount .expired
  obtain ⟨monthly, hmonthly⟩ := hfit.mrr
  have haverage := ratio_isOk monthly
    (show (s.validSubscriptions.length : Int).natAbs < Decimal.unitBound by omega)
  have hchurn := percentage_isOk
    (show 100 * (cancelled : Int).natAbs < Decimal.unitBound by omega)
    (show (s.liveSubscriptions.length - expired : Int).natAbs < Decimal.unitBound by omega)
  obtain ⟨average, haverage⟩ := haverage
  obtain ⟨churn, hchurn⟩ := hchurn
  obtain ⟨conversion, hconversion⟩ := trialConversion_isOk
    (show 100 * s.pricedSubscriptions.length < Decimal.unitBound by omega)
  have hactive := s.count_active_add_count_onTrial
  simp only [dashboard, hactive, hcancelled, hexpired, hmonthly, haverage, hconversion, hchurn, bind,
    Except.bind, pure, Except.pure]
  exact ⟨_, rfl, ⟨rfl, rfl, hmonthly, haverage, ⟨revenue, hrevenue, rfl⟩, hconversion, rfl, rfl⟩⟩

/-- The counts of the subscribers of packages come to that of the subscriptions that give access. -/
theorem sum_subscriberCounts (h : s.PackagesKnown) :
    ((subscriberCounts s.pricedSubscriptions).map (·.count)).sum = s.validSubscriptions.length := by
  obtain ⟨ids, hnodup, hmem, hcounts⟩ := subscriberCounts_eq Store.packageName_of_priced
  rw [hcounts, List.map_map, ← h.length_filter_priced]
  simpa [Function.comp_def] using
    sum_length_filter (fun _ => true) hnodup fun row hrow => (hmem _).mpr ⟨row, hrow, rfl⟩

/-- Figures of packages that account for the subscriptions of a store. -/
structure Partitions (s : Store) (figures : List PackageAnalytics) : Prop where
  nodup : (figures.map (·.packageId)).Nodup
  listed : ∀ id, id ∈ figures.map (·.packageId) ↔ ∃ r ∈ s.liveSubscriptions, r.packageId = id
  total : (figures.map (·.totalSubscribers)).sum = s.liveSubscriptions.length
  active : (figures.map (·.activeSubscribers)).sum = s.validSubscriptions.length

theorem partitions_packageAnalytics (now : Instant) (h : s.PackagesKnown) (hfit : s.FiguresFit) :
    ∃ figures, packageAnalytics s.pricedSubscriptions s.packageInvoices now = .ok figures ∧
      Partitions s figures := by
  have hcounts : 100 * s.pricedSubscriptions.length < Decimal.unitBound := by
    rw [h.length_priced]
    exact hfit.counts
  choose paid hpaid using hfit.revenueOf
  obtain ⟨ids, figures, hfigures, hnodup, hmem, hall⟩ := packageAnalytics_isOk now
    Store.packageName_of_priced hcounts hfit.monthly hpaid
  have hids : figures.map (·.packageId) = ids := keys_of_forall₂ hall fun i f hf => hf.1.package
  have hlisted : ∀ row ∈ s.pricedSubscriptions, row.packageId ∈ ids :=
    fun row hrow => (hmem _).mpr ⟨row, hrow, rfl⟩
  refine ⟨figures, hfigures, hids ▸ hnodup, fun id => ?_, ?_, ?_⟩
  · rw [hids, hmem, h.exists_priced_iff]
  · rw [map_of_forall₂ hall fun i f hf => hf.1.total, ← h.length_priced]
    simpa using sum_length_filter (fun _ => true) hnodup hlisted
  · rw [map_of_forall₂ hall fun i f hf => hf.1.active, ← h.length_filter_priced]
    exact sum_length_filter _ hnodup hlisted

/-- What the single metrics and the figures of packages say, against a dashboard. -/
structure Agrees (env : Chances) (w : World) (summary : DashboardSummary) : Prop where
  total : (env.run totalSubscriptions w).1 = .done summary.totalSubscriptions
  active : (env.run activeSubscriptions w).1 = .done summary.activeSubscriptions
  mrr : (env.run monthlyRecurringRevenue w).1 = .done summary.mrr
  arpu : (env.run averageRevenuePerUser w).1 = .done summary.arpu
  revenue : (env.run totalRevenue w).1 = .done summary.totalRevenue
  conversion : (env.run trialConversionRate w).1 = .done summary.trialConversionRate
  pending : (env.run pendingInvoices w).1 = .done summary.pendingInvoices
  overdue : (env.run overdueInvoices w).1 = .done summary.overdueInvoices
  byStatus : ∃ counts, (env.run subscriptionsByStatus w).1 = .done counts ∧
    StatusCounts.Tallies (w.store.liveSubscriptions.map (·.status)) counts ∧
    (counts.map (·.2)).sum = summary.totalSubscriptions
  subscribers : ∃ counts, (env.run subscribersByPackage w).1 = .done counts ∧
    (counts.map (·.count)).sum = summary.activeSubscriptions
  packages : ∃ figures, (env.run analyticsByPackage w).1 = .done figures ∧
    (figures.map (·.packageId)).Nodup ∧
    (∀ id, id ∈ figures.map (·.packageId) ↔
      ∃ r ∈ w.store.liveSubscriptions, r.packageId = id) ∧
    (figures.map (·.totalSubscribers)).sum = summary.totalSubscriptions ∧
    (figures.map (·.activeSubscribers)).sum = summary.activeSubscriptions

theorem dashboard_agrees {env : Chances} {w : World} (hcalm : env.Calm)
    (hnow : ∀ w, (env w).now = now) (hknown : w.store.PackagesKnown)
    (hfit : w.store.FiguresFit) :
    ∃ summary, (env.run dashboardSummary w).1 = .done summary ∧ Agrees env w summary := by
  obtain ⟨revenue, hrevenue⟩ := hfit.revenue
  obtain ⟨summary, hsummary, h⟩ := dashboard_isOk now hfit hrevenue
  obtain ⟨figures, hfigures, hpartition⟩ := partitions_packageAnalytics now hknown hfit
  have hround : summary.totalRevenue = round2 revenue := by
    obtain ⟨d, hd, hround⟩ := h.revenue
    obtain rfl := Except.ok.inj (hrevenue.symm.trans hd)
    exact hround
  refine ⟨summary, run_dashboardSummary hcalm hnow hrevenue hsummary, ?_⟩
  exact
    { total := h.total ▸ run_totalSubscriptions hcalm
      active := h.active ▸ run_activeSubscriptions hcalm
      mrr := run_monthlyRecurringRevenue hcalm h.mrr
      arpu := run_averageRevenuePerUser hcalm h.mrr h.arpu
      revenue := hround ▸ run_totalRevenue hcalm hrevenue
      conversion := run_trialConversionRate hcalm h.conversion
      pending := h.pending ▸ run_pendingInvoices hcalm
      overdue := h.overdue ▸ run_overdueInvoices hcalm hnow
      byStatus := ⟨_, run_subscriptionsByStatus hcalm, w.store.tallies_statusCounts, by
        rw [w.store.tallies_statusCounts.sum, h.total, List.length_map]⟩
      subscribers := ⟨_, run_subscribersByPackage hcalm, by rw [sum_subscriberCounts hknown, h.active]⟩
      packages := ⟨figures, run_analyticsByPackage hcalm hnow hfigures, hpartition.nodup,
        hpartition.listed, h.total ▸ hpartition.total, h.active ▸ hpartition.active⟩ }

theorem agrees_reportedStore :
    DailyRun.plainChances.Calm ∧ (∀ w, (DailyRun.plainChances w).now = DailyRun.plainNoon) ∧
      reportedStore.PackagesKnown ∧ reportedStore.FiguresFit ∧
      ∃ summary,
        (DailyRun.plainChances.run dashboardSummary { store := reportedStore }).1 = .done summary ∧
          Agrees DailyRun.plainChances { store := reportedStore } summary := by
  have hcalm : DailyRun.plainChances.Calm := fun _ => rfl
  have hnow : ∀ w, (DailyRun.plainChances w).now = DailyRun.plainNoon := fun _ => rfl
  have hknown : reportedStore.PackagesKnown := by
    unfold Store.PackagesKnown
    decide
  have hone : ∀ row ∈ reportedStore.packageInvoices, row.packageId = DailyRun.plainPackage.id := by
    decide
  have hfit : reportedStore.FiguresFit :=
    { subscriptionsFit_reportedStore with
      mrr := ⟨_, rfl⟩
      revenue := ⟨_, rfl⟩
      revenueOf := fun id => by
        rcases filter_eq_self_or_nil hone id with h | h <;> rw [h] <;> exact ⟨_, rfl⟩ }
  exact ⟨hcalm, hnow, hknown, hfit, dashboard_agrees hcalm hnow hknown hfit⟩

end Reports

end RecurringBilling
