import RecurringBilling.Proofs.Decimal.Sums
import RecurringBilling.Proofs.Grouping
import RecurringBilling.Proofs.Lists

/-! The figures of packages. Rows name a package by its identifier, which settles its name, so that
each package is listed once. -/

namespace RecurringBilling

variable {α β : Type}

/-- An entry for each key that is made from a sum of its own. -/
theorem exists_mapM_sum {amounts : α → List Decimal} {R : α → β → Prop} (l : List α)
    (entry : α → Decimal → β)
    (h : ∀ a, ∃ total, Decimal.sum (amounts a) = .ok total ∧ R a (entry a total)) :
    ∃ bs, (l.mapM fun a => do return entry a (← Decimal.sum (amounts a))) = .ok bs ∧
      List.Forall₂ R l bs :=
  exists_mapM fun a _ => by
    obtain ⟨total, htotal, hentry⟩ := h a
    exact ⟨entry a total, by rw [htotal]; rfl, hentry⟩

namespace Reports

section

variable {name : α → String} {id : α → Id} {nameOf : Id → String} {rows : List α}

/-- Rows whose packages have one name each make one group for each package. -/
theorem groupBy_packages (h : ∀ row ∈ rows, name row = nameOf (id row)) :
    ∃ ids : List Id, ids.Nodup ∧ (∀ i, i ∈ ids ↔ ∃ row ∈ rows, id row = i) ∧
      groupBy packageBefore (fun row => (name row, id row)) rows =
        ids.map fun i => ((nameOf i, i), rows.filter (id · = i)) := by
  have hmem {k : String × Id} := mem_groupKeys (k := k) isOrder_packageBefore
    (fun row => (name row, id row)) rows
  have hkeys := nodup_groupKeys isOrder_packageBefore (fun row => (name row, id row)) rows
  have hgroups := groupBy_eq isOrder_packageBefore (fun row => (name row, id row)) rows
  generalize groupKeys packageBefore (fun row => (name row, id row)) rows = keys
    at hmem hkeys hgroups
  have hname : ∀ k ∈ keys, k.1 = nameOf k.2 := by
    intro k hk
    obtain ⟨row, hrow, rfl⟩ := hmem.mp hk
    exact h row hrow
  refine ⟨keys.map (·.2), ?_, ?_, ?_⟩
  · refine List.Nodup.map_on (fun k hk k' hk' heq => ?_) hkeys
    exact Prod.ext (by rw [hname k hk, hname k' hk', heq]) heq
  · intro i
    rw [List.mem_map]
    constructor
    · rintro ⟨k, hk, rfl⟩
      obtain ⟨row, hrow, rfl⟩ := hmem.mp hk
      exact ⟨row, hrow, rfl⟩
    · rintro ⟨row, hrow, rfl⟩
      exact ⟨(name row, id row), hmem.mpr ⟨row, hrow, rfl⟩, rfl⟩
  · rw [hgroups, List.map_map]
    refine List.map_congr_left fun k hk => ?_
    have hsame : rows.filter (fun row => (name row, id row) = k) =
        rows.filter (id · = k.2) := by
      refine List.filter_congr fun row hrow => decide_eq_decide.mpr ⟨congrArg Prod.snd, ?_⟩
      intro hid
      exact Prod.ext (by rw [h row hrow, hid, hname k hk]) hid
    rw [groupOf, Function.comp, hsame, ← hname k hk]

end

section

variable {now : Instant} {rows : List PricedSubscription} {invoices : List PackageInvoice}
  {nameOf : Id → String} {paid : Id → Decimal}

/-- The amounts of the invoices that are paid. -/
def paidAmounts (invoices : List PackageInvoice) : List Decimal :=
  (invoices.filter isPaid).map (·.amount)

theorem trialConversion_isOk (h : 100 * rows.length < Decimal.unitBound) :
    ∃ d, trialConversion rows = .ok d := by
  have htrials := List.length_filter_le (fun row : PricedSubscription => row.trialEndsAt.isSome) rows
  have hconverted := List.length_filter_le
    (fun row : PricedSubscription => SubscriptionStatus.ofText row.status == .active)
    (rows.filter (·.trialEndsAt.isSome))
  exact percentage_isOk (by omega) (by omega)

/-- The figures of a package, except for those that are a sum or a share of money. -/
structure Counts (now : Instant) (id : Id) (rows : List PricedSubscription)
    (invoices : List PackageInvoice) (figures : PackageAnalytics) : Prop where
  package : figures.packageId = id
  total : figures.totalSubscribers = rows.length
  active : figures.activeSubscribers = (rows.filter fun row => isLive row.status).length
  pending : figures.pendingInvoices = (invoices.filter isPending).length
  overdue : figures.overdueInvoices =
    ((invoices.filter isPending).filter fun row => row.dueDate.any (· < now)).length

theorem packageFigures_isOk (now : Instant) (name : String) (id : Id)
    (hcount : 100 * rows.length < Decimal.unitBound)
    (hmrr : ∃ d, mrr rows = .ok d) {revenue : Decimal}
    (hrevenue : Decimal.sum (paidAmounts invoices) = .ok revenue) :
    ∃ figures, packageFigures now name id rows invoices = .ok figures ∧
      Counts now id rows invoices figures ∧ figures.totalRevenue = round2 revenue := by
  obtain ⟨monthly, hmonthly⟩ := hmrr
  obtain ⟨conversion, hconversion⟩ := trialConversion_isOk hcount
  have hactive := List.length_filter_le (fun row : PricedSubscription => isLive row.status) rows
  obtain ⟨average, haverage⟩ := ratio_isOk monthly
    (show ((rows.filter fun row => isLive row.status).length : Int).natAbs < Decimal.unitBound by
      omega)
  have hrevenue : Decimal.sum ((invoices.filter isPaid).map (·.amount)) = .ok revenue := hrevenue
  simp only [packageFigures, hmonthly, hrevenue, haverage, hconversion, bind, Except.bind, pure,
    Except.pure]
  exact ⟨_, rfl, ⟨rfl, rfl, rfl, rfl, rfl⟩, rfl⟩

/-- Each package with a row has figures of its own. -/
theorem packageAnalytics_isOk (now : Instant)
    (hname : ∀ row ∈ rows, row.packageName = nameOf row.packageId)
    (hcount : 100 * rows.length < Decimal.unitBound)
    (hmrr : ∀ i, ∃ d, mrr (rows.filter (·.packageId = i)) = .ok d)
    (hpaid : ∀ i, Decimal.sum (paidAmounts (invoices.filter (·.packageId = i))) = .ok (paid i)) :
    ∃ ids figures, packageAnalytics rows invoices now = .ok figures ∧ ids.Nodup ∧
      (∀ i, i ∈ ids ↔ ∃ row ∈ rows, row.packageId = i) ∧
      List.Forall₂ (fun i f => Counts now i (rows.filter (·.packageId = i))
          (invoices.filter (·.packageId = i)) f ∧ f.totalRevenue = round2 (paid i)) ids figures := by
  obtain ⟨ids, hnodup, hmem, hgroups⟩ := groupBy_packages hname
  obtain ⟨figures, hfigures, hall⟩ := exists_mapM (l := ids)
    (f := fun i => packageFigures now (nameOf i) i (rows.filter (·.packageId = i))
      (invoices.filter (·.packageId == i)))
    (R := fun i f => Counts now i (rows.filter (·.packageId = i))
        (invoices.filter (·.packageId = i)) f ∧ f.totalRevenue = round2 (paid i)) fun i _ => by
      have hle := List.length_filter_le (fun row : PricedSubscription => row.packageId = i) rows
      exact packageFigures_isOk now (nameOf i) i (by omega) (hmrr i) (hpaid i)
  refine ⟨ids, figures, ?_, hnodup, hmem, hall⟩
  rw [packageAnalytics, hgroups, List.mapM_map]
  exact hfigures

/-- Each package with a paid invoice has its revenue. -/
theorem packageRevenues_isOk (hname : ∀ row ∈ invoices, row.packageName = nameOf row.packageId)
    (hpaid : ∀ i, Decimal.sum (paidAmounts (invoices.filter (·.packageId = i))) = .ok (paid i)) :
    ∃ ids revenues, packageRevenues invoices = .ok revenues ∧ ids.Nodup ∧
      (∀ i, i ∈ ids ↔ ∃ row ∈ invoices.filter isPaid, row.packageId = i) ∧
      List.Forall₂ (fun i r => r.packageId = i ∧ r.revenue = round2 (paid i)) ids revenues := by
  have hname' : ∀ row ∈ invoices.filter isPaid, row.packageName = nameOf row.packageId :=
    fun row hrow => hname row (List.mem_filter.mp hrow).1
  obtain ⟨ids, hnodup, hmem, hgroups⟩ := groupBy_packages hname'
  have hsum : ∀ i, Decimal.sum (((invoices.filter isPaid).filter (·.packageId = i)).map (·.amount)) =
      .ok (paid i) := by
    intro i
    rw [List.filter_comm]
    exact hpaid i
  obtain ⟨revenues, hrevenues, hall⟩ := exists_mapM_sum ids
    (fun i total => (⟨i, nameOf i, round2 total⟩ : PackageRevenue))
    (R := fun i r => r.packageId = i ∧ r.revenue = round2 (paid i))
    fun i => ⟨paid i, hsum i, rfl, rfl⟩
  refine ⟨ids, revenues, ?_, hnodup, hmem, hall⟩
  rw [packageRevenues, hgroups, List.mapM_map]
  exact hrevenues

theorem subscriberCounts_eq (hname : ∀ row ∈ rows, row.packageName = nameOf row.packageId) :
    ∃ ids : List Id, ids.Nodup ∧
      (∀ i, i ∈ ids ↔ ∃ row ∈ rows.filter fun row => isLive row.status, row.packageId = i) ∧
      subscriberCounts rows = ids.map fun i => ⟨i, nameOf i,
        ((rows.filter fun row => isLive row.status).filter (·.packageId = i)).length⟩ := by
  have hname' : ∀ row ∈ rows.filter fun row => isLive row.status,
      row.packageName = nameOf row.packageId := fun row hrow => hname row (List.mem_filter.mp hrow).1
  obtain ⟨ids, hnodup, hmem, hgroups⟩ := groupBy_packages hname'
  refine ⟨ids, hnodup, hmem, ?_⟩
  rw [subscriberCounts, hgroups, List.map_map]
  rfl

end

end Reports

end RecurringBilling
