import RecurringBilling.Proofs.Calendar.MonthTexts
import RecurringBilling.Proofs.Decimal.HalfAway
import RecurringBilling.Proofs.Reports.Revenue
import RecurringBilling.Proofs.Transcripts

/-! Figures by day and by month. Each row is in the figure of its own day or month and in no other,
so that a series is settled by what its rows are, in whatever order they come. -/

namespace RecurringBilling

open Calendar

instance : Std.Asymm (α := Date) (· < ·) where
  asymm a b := Int.lt_asymm (a := a.day) (b := b.day)

/-- A series over rows: an entry for each key that occurs, in order, with what the rows of that key
come to. -/
structure IsSeries {α κ γ : Type} [LT κ] [DecidableEq κ] (key : α → κ) (value : List α → γ)
    (rows : List α) (entries : List (κ × γ)) : Prop where
  increasing : (entries.map Prod.fst).Pairwise (· < ·)
  mem_iff : ∀ k, k ∈ entries.map Prod.fst ↔ ∃ row ∈ rows, key row = k
  value_eq : ∀ e ∈ entries, e.2 = value (rows.filter (key · = e.1))

namespace IsSeries

variable {α κ γ : Type} [LT κ] [DecidableEq κ] {key : α → κ} {value : List α → γ}
  {rows rows' : List α} {entries entries' : List (κ × γ)} {keys : List κ}

theorem of_keys (hkeys : keys.Pairwise (· < ·)) (hmem : ∀ k, k ∈ keys ↔ ∃ row ∈ rows, key row = k) :
    IsSeries key value rows (keys.map fun k => (k, value (rows.filter (key · = k)))) := by
  have hfst : (keys.map fun k => (k, value (rows.filter (key · = k)))).map Prod.fst = keys := by
    rw [List.map_map]
    exact List.map_id' keys
  refine ⟨hfst.symm ▸ hkeys, fun k => by rw [hfst, hmem], fun e he => ?_⟩
  obtain ⟨k, -, rfl⟩ := List.mem_map.mp he
  rfl

theorem eq_map (h : IsSeries key value rows entries) :
    entries = (entries.map Prod.fst).map fun k => (k, value (rows.filter (key · = k))) := by
  have hself : ∀ e ∈ entries, e = (e.1, value (rows.filter (key · = e.1))) :=
    fun e he => Prod.ext rfl (h.value_eq e he)
  rw [List.map_map]
  exact (List.map_id' entries).symm.trans (List.map_congr_left hself)

variable [Std.Asymm (α := κ) (· < ·)]

theorem nodup (h : IsSeries key value rows entries) : (entries.map Prod.fst).Nodup :=
  h.increasing.imp fun {k k'} (hlt : k < k') (heq : k = k') => by
    subst heq
    exact Std.Asymm.asymm _ _ hlt hlt

/-- There is one series over the same rows in any order. -/
theorem eq_of_perm (h : IsSeries key value rows entries) (h' : IsSeries key value rows' entries')
    (hvalue : ∀ l l' : List α, l.Perm l' → value l = value l') (hperm : rows.Perm rows') :
    entries = entries' := by
  have hmem : ∀ k, k ∈ entries.map Prod.fst ↔ k ∈ entries'.map Prod.fst := by
    intro k
    simp only [h.mem_iff, h'.mem_iff, hperm.mem_iff]
  have hkeys : entries.map Prod.fst = entries'.map Prod.fst :=
    ((List.perm_ext_iff_of_nodup h.nodup h'.nodup).mpr hmem).eq_of_pairwise
      (fun _ _ _ _ hlt hgt => absurd hgt (Std.Asymm.asymm _ _ hlt)) h.increasing h'.increasing
  rw [h.eq_map, h'.eq_map, hkeys]
  exact List.map_congr_left fun k _ => Prod.ext rfl (hvalue _ _ (hperm.filter _))

/-- What the entries add up to is what all rows do. -/
theorem sum_eq {M : Type} [AddCommMonoid M] {amount : α → M} {entries : List (κ × M)}
    (h : IsSeries key (fun group => (group.map amount).sum) rows entries) :
    (entries.map Prod.snd).sum = (rows.map amount).sum := by
  rw [h.eq_map, List.map_map]
  exact sum_map_filter amount h.nodup fun row hrow => (h.mem_iff _).mpr ⟨row, hrow, rfl⟩

end IsSeries

/-- A series over months, shown under their texts: the texts are strictly increasing, and they are
those of strictly increasing months. -/
structure IsMonthly {α γ : Type} (date : α → Date) (value : List α → γ) (rows : List α)
    (shown : List (String × γ)) : Prop where
  increasing : (shown.map Prod.fst).Pairwise (· < ·)
  series : ∃ entries, IsSeries (fun row => (date row).monthCount) value rows entries ∧
    shown = entries.map fun e => (monthLabel e.1, e.2)

namespace IsMonthly

variable {α γ : Type} {date : α → Date} {value : List α → γ} {rows rows' : List α}
  {shown shown' : List (String × γ)}

theorem eq_of_perm (h : IsMonthly date value rows shown) (h' : IsMonthly date value rows' shown')
    (hvalue : ∀ l l' : List α, l.Perm l' → value l = value l') (hperm : rows.Perm rows') :
    shown = shown' := by
  obtain ⟨-, entries, hseries, rfl⟩ := h
  obtain ⟨-, entries', hseries', rfl⟩ := h'
  rw [hseries.eq_of_perm hseries' hvalue hperm]

theorem sum_eq {M : Type} [AddCommMonoid M] {amount : α → M} {shown : List (String × M)}
    (h : IsMonthly date (fun group => (group.map amount).sum) rows shown) :
    (shown.map Prod.snd).sum = (rows.map amount).sum := by
  obtain ⟨-, entries, hseries, rfl⟩ := h
  rw [List.map_map, ← hseries.sum_eq]
  rfl

end IsMonthly

/-- Whether the year is one of four digits. -/
def Date.InFourDigits (d : Date) : Prop := 0 ≤ d.year ∧ d.year ≤ 9999

instance (d : Date) : Decidable d.InFourDigits :=
  inferInstanceAs (Decidable (0 ≤ d.year ∧ d.year ≤ 9999))

section

variable {α : Type} {date : α → Date} {rows : List α}

/-- Rows grouped by the texts of their months are grouped by their months, in order. -/
theorem groupBy_months (h : ∀ row ∈ rows, (date row).InFourDigits) :
    ∃ months : List Int, months.Pairwise (· < ·) ∧
      (∀ m, m ∈ months ↔ ∃ row ∈ rows, (date row).monthCount = m) ∧
      (months.map monthLabel).Pairwise (· < ·) ∧
      groupBy (fun a b => decide (a < b)) (fun row => (date row).monthText) rows =
        months.map fun m => (monthLabel m, rows.filter fun row => (date row).monthCount = m) := by
  have hmem {text : String} :=
    mem_groupKeys (k := text) isOrder_text (fun row => (date row).monthText) rows
  have hkeys := pairwise_groupKeys isOrder_text (fun row => (date row).monthText) rows
  have hgroups := groupBy_eq isOrder_text (fun row => (date row).monthText) rows
  generalize groupKeys (fun a b => decide (a < b)) (fun row => (date row).monthText) rows = texts
    at hmem hkeys hgroups
  obtain ⟨months, rfl⟩ : texts ∈ Set.range (List.map monthLabel) := by
    rw [Set.range_list_map]
    intro text htext
    obtain ⟨row, -, rfl⟩ := hmem.mp htext
    exact ⟨_, (Date.monthText_eq _).symm⟩
  have hsame : ∀ row m, (date row).monthText = monthLabel m ↔ (date row).monthCount = m := by
    intro row m
    rw [Date.monthText_eq, monthLabel_inj]
  have hmonths : ∀ m, m ∈ months ↔ ∃ row ∈ rows, (date row).monthCount = m := by
    intro m
    rw [← List.mem_map_of_injective fun _ _ => monthLabel_inj.mp, hmem]
    simp only [hsame]
  have hyears : ∀ m ∈ months, 0 ≤ m / 12 ∧ m / 12 ≤ 9999 := by
    intro m hm
    obtain ⟨row, hrow, rfl⟩ := (hmonths m).mp hm
    rw [(date row).monthCount_eq.1]
    exact h row hrow
  have hincreasing : (months.map monthLabel).Pairwise (· < ·) := hkeys.imp of_decide_eq_true
  refine ⟨months, ?_, hmonths, hincreasing, ?_⟩
  · refine (List.pairwise_map.mp hincreasing).imp_of_mem fun hm hm' hlt => ?_
    exact (monthLabel_lt_iff (hyears _ hm) (hyears _ hm')).mp hlt
  · rw [hgroups, List.map_map]
    refine List.map_congr_left fun m _ => ?_
    simp only [Function.comp, groupOf, hsame]

/-- The entries that are made from the groups of months make a series over months. -/
theorem isMonthly_of_forall₂ {γ ε : Type} {value : List α → γ} {entry : ε → String × γ}
    {months : List Int} {entries : List ε} (hmonths : months.Pairwise (· < ·))
    (hmem : ∀ m, m ∈ months ↔ ∃ row ∈ rows, (date row).monthCount = m)
    (hlabels : (months.map monthLabel).Pairwise (· < ·))
    (h : List.Forall₂ (fun m e => entry e =
      (monthLabel m, value (rows.filter fun row => (date row).monthCount = m))) months entries) :
    IsMonthly date value rows (entries.map entry) := by
  rw [map_of_forall₂ h fun _ _ he => he]
  refine ⟨?_, _, IsSeries.of_keys hmonths hmem, ?_⟩
  · rw [List.map_map]
    exact hlabels
  · rw [List.map_map]
    rfl

end

namespace Decimal

variable {ds ds' : List Decimal} {places : Nat}

theorem hasPlaces_of_scale_le {d : Decimal} (h : d.scale ≤ places) : HasPlaces places d.toRat := by
  obtain ⟨more, rfl⟩ := Nat.exists_eq_add_of_le h
  refine ⟨d.units * 10 ^ more, ?_⟩
  rw [toRat, pow_add]
  push_cast
  field_simp

/-- Whether amounts have no more than so many places and come to no more than there is room for,
whatever their signs. -/
structure Moderate (places : Nat) (ds : List Decimal) : Prop where
  scale_le : ∀ d ∈ ds, d.scale ≤ places
  total_lt : (ds.map fun d => |d.toRat|).sum * 10 ^ places < unitBound

namespace Moderate

theorem perm (h : Moderate places ds) (hperm : ds'.Perm ds) : Moderate places ds' where
  scale_le d hd := h.scale_le d (hperm.mem_iff.mp hd)
  total_lt := by
    rw [(hperm.map fun d : Decimal => |d.toRat|).sum_eq]
    exact h.total_lt

theorem sublist (h : Moderate places ds) (hsub : ds'.Sublist ds) : Moderate places ds' where
  scale_le d hd := h.scale_le d (hsub.subset hd)
  total_lt := by
    have hle : (ds'.map fun d => |d.toRat|).sum ≤ (ds.map fun d => |d.toRat|).sum := by
      refine (hsub.map _).sum_le_sum fun q hq => ?_
      obtain ⟨d, -, rfl⟩ := List.mem_map.mp hq
      exact abs_nonneg _
    exact (mul_le_mul_of_nonneg_right hle (by positivity)).trans_lt h.total_lt

theorem representable_sum (hplaces : places ≤ 28) (h : Moderate places ds) :
    Representable (ds.map toRat).sum := by
  obtain ⟨units, hunits⟩ : HasPlaces places (ds.map toRat).sum := by
    refine HasPlaces.sum fun q hq => ?_
    obtain ⟨d, hd, rfl⟩ := List.mem_map.mp hq
    exact hasPlaces_of_scale_le (h.scale_le d hd)
  have htotal : |(ds.map toRat).sum| ≤ (ds.map fun d => |d.toRat|).sum := by
    simpa [Function.comp_def] using
      Multiset.abs_sum_le_sum_abs (s := ((ds.map toRat : List ℚ) : Multiset ℚ))
  have hfits : units.natAbs < unitBound := by
    have habs : |(units : ℚ)| < unitBound := by
      rw [← hunits, abs_mul, abs_of_pos (by positivity : (0 : ℚ) < 10 ^ places)]
      exact (mul_le_mul_of_nonneg_right htotal (by positivity)).trans_lt h.total_lt
    rw [← Int.cast_abs, Int.abs_eq_natAbs] at habs
    exact_mod_cast habs
  obtain ⟨d, hd⟩ : ∃ d, ofUnits? units places = some d := ⟨_, dif_pos ⟨hfits, hplaces⟩⟩
  obtain ⟨hd_units, hd_scale⟩ := ofUnits?_eq_some hd
  refine ⟨d, ?_⟩
  rw [toRat, hd_units, hd_scale, ← hunits, mul_div_cancel_right₀ _ (by positivity)]

theorem sumsExactly (hplaces : places ≤ 28) (h : Moderate places ds) : SumsExactly ds := fun n =>
  (h.sublist (List.take_sublist n ds)).representable_sum hplaces

end Moderate

end Decimal

/-- What an entry says, in whatever form its decimal is written. -/
def DailyUsage.figure (t : DailyUsage) : Date × ℚ := (t.date, t.total.toRat)

def MonthlyCount.figure (c : MonthlyCount) : String × Int := (c.month, c.count)

theorem MonthlyCount.figure_injective : Function.Injective figure := by
  rintro ⟨month, count⟩ ⟨month', count'⟩ h
  obtain ⟨rfl, rfl⟩ := Prod.mk.inj h
  rfl

def MonthlyRevenue.figure (r : MonthlyRevenue) : String × ℚ := (r.month, r.revenue.toRat)

namespace Reports

/-- What the amounts of rows add up to. -/
def sumOf {α : Type} (amount : α → Decimal) (rows : List α) : ℚ :=
  (rows.map fun row => (amount row).toRat).sum

theorem sumOf_perm {α : Type} {amount : α → Decimal} {rows rows' : List α} (h : rows.Perm rows') :
    sumOf amount rows = sumOf amount rows' := (h.map _).sum_eq

/-- Whether amounts are added up without loss, day by day and month by month, and all months are in
years of four digits. -/
structure SeriesFit (logs : List UsageLog) (created : List Instant) (paid : List PaidInvoice) :
    Prop where
  daily : ∀ day : Date,
    Decimal.SumsExactly ((logs.filter (·.createdAt.date = day)).map (·.amount))
  monthly : ∀ month : Int,
    Decimal.SumsExactly ((paid.filter (·.paidAt.date.monthCount = month)).map (·.amount))
  created_year : ∀ t ∈ created, t.date.InFourDigits
  paid_year : ∀ p ∈ paid, p.paidAt.date.InFourDigits

variable {logs : List UsageLog} {created : List Instant} {paid : List PaidInvoice}

/-- Moderate amounts are added up without loss whatever the order of the rows is. -/
theorem SeriesFit.of_moderate {places : Nat} (hplaces : places ≤ 28)
    (hlogs : Decimal.Moderate places (logs.map (·.amount)))
    (hpaid : Decimal.Moderate places (paid.map (·.amount)))
    (hcreated_year : ∀ t ∈ created, t.date.InFourDigits)
    (hpaid_year : ∀ p ∈ paid, p.paidAt.date.InFourDigits) : SeriesFit logs created paid where
  daily _ := (hlogs.sublist (List.filter_sublist.map _)).sumsExactly hplaces
  monthly _ := (hpaid.sublist (List.filter_sublist.map _)).sumsExactly hplaces
  created_year := hcreated_year
  paid_year := hpaid_year

theorem dailyTotals_isSeries
    (h : ∀ day : Date, Decimal.SumsExactly ((logs.filter (·.createdAt.date = day)).map (·.amount))) :
    ∃ totals, dailyTotals logs = .ok totals ∧
      IsSeries (fun log : UsageLog => log.createdAt.date) (sumOf fun log => log.amount) logs
        (totals.map DailyUsage.figure) := by
  have hmem {day : Date} :=
    mem_groupKeys (k := day) isOrder_date (fun log : UsageLog => log.createdAt.date) logs
  have hdays := pairwise_groupKeys isOrder_date (fun log : UsageLog => log.createdAt.date) logs
  have hgroups := groupBy_eq isOrder_date (fun log : UsageLog => log.createdAt.date) logs
  generalize groupKeys (fun a b => decide (a < b)) (fun log : UsageLog => log.createdAt.date) logs =
    days at hmem hdays hgroups
  obtain ⟨totals, htotals, hall⟩ := exists_mapM_sum days
    (fun day total => (⟨day, total⟩ : DailyUsage))
    (R := fun day t => t.figure =
      (day, sumOf (·.amount) (logs.filter (·.createdAt.date = day)))) fun day => by
        obtain ⟨total, htotal, hsum⟩ := (h day).sum
        refine ⟨total, htotal, Prod.ext rfl ?_⟩
        change total.toRat = _
        rw [hsum, List.map_map]
        rfl
  refine ⟨totals, ?_, ?_⟩
  · rw [dailyTotals, hgroups, List.mapM_map]
    exact htotals
  · rw [map_of_forall₂ hall fun _ _ ht => ht]
    exact IsSeries.of_keys (hdays.imp of_decide_eq_true) fun _ => hmem

theorem monthlyCounts_isMonthly (h : ∀ t ∈ created, t.date.InFourDigits) :
    IsMonthly Instant.date (fun group => (group.length : Int)) created
      ((monthlyCounts created).map MonthlyCount.figure) := by
  obtain ⟨months, hmonths, hmem, hlabels, hgroups⟩ := groupBy_months h
  rw [monthlyCounts, hgroups, List.map_map]
  refine isMonthly_of_forall₂ hmonths hmem hlabels ?_
  exact List.forall₂_map_right_iff.mpr (List.forall₂_same.mpr fun _ _ => rfl)

theorem monthlyRevenues_isMonthly (hyears : ∀ p ∈ paid, p.paidAt.date.InFourDigits)
    (h : ∀ month : Int, Decimal.SumsExactly
      ((paid.filter (·.paidAt.date.monthCount = month)).map (·.amount))) :
    ∃ revenues, monthlyRevenues paid = .ok revenues ∧
      IsMonthly (fun p : PaidInvoice => p.paidAt.date)
        (fun group => Decimal.halfAway 2 (sumOf (·.amount) group)) paid
        (revenues.map MonthlyRevenue.figure) := by
  obtain ⟨months, hmonths, hmem, hlabels, hgroups⟩ := groupBy_months hyears
  obtain ⟨revenues, hrevenues, hall⟩ := exists_mapM_sum months
    (fun month total => (⟨monthLabel month, round2 total⟩ : MonthlyRevenue))
    (R := fun month r => r.figure = (monthLabel month,
      Decimal.halfAway 2 (sumOf (·.amount) (paid.filter (·.paidAt.date.monthCount = month)))))
    fun month => by
      obtain ⟨total, htotal, hsum⟩ := (h month).sum
      refine ⟨total, htotal, Prod.ext rfl ?_⟩
      change (total.roundTo 2).toRat = _
      rw [Decimal.toRat_roundTo_eq_halfAway, hsum, List.map_map]
      rfl
  refine ⟨revenues, ?_, isMonthly_of_forall₂ hmonths hmem hlabels hall⟩
  rw [monthlyRevenues, hgroups, List.mapM_map]
  exact hrevenues

/-- A procedure that asks once, for the rows since a time that it reads off the clock, ends as it
goes on from these rows. -/
theorem hears_since {α : Type} {r : Instant → Request} (hr : Function.Injective r)
    (cutoff : Instant → Instant) (next : ∀ since, (r since).Reply → Procedure α) {since : Instant}
    {reply : (r since).Reply} {o : Outcome α} :
    (Procedure.now >>= fun t => Procedure.request (r (cutoff t)) >>= next (cutoff t)).Hears
        [⟨r since, .ok reply⟩] o ↔
      (∃ t, since = cutoff t) ∧ (next since reply).Hears [] o := by
  constructor
  · rintro ⟨t, hheard⟩
    obtain ⟨e, hcalls, -⟩ | ⟨reply', rest, hcalls, hrest⟩ := Procedure.Hears.request_bind hheard
    · obtain ⟨hcall, -⟩ := List.cons.inj hcalls
      obtain ⟨hsame, hreply⟩ := Call.mk.inj hcall
      obtain rfl := hr hsame
      cases hreply
    · obtain ⟨hcall, rfl⟩ := List.cons.inj hcalls
      obtain ⟨hsame, hreply⟩ := Call.mk.inj hcall
      obtain rfl := hr hsame
      cases hreply
      exact ⟨⟨t, rfl⟩, hrest⟩
  · rintro ⟨⟨t, rfl⟩, h⟩
    exact ⟨t, .ok reply, [], rfl, h⟩

/-- What the three reports end with, whoever replies to them with these rows. -/
structure Reported (logs : List UsageLog) (created : List Instant) (paid : List PaidInvoice)
    (totals : List DailyUsage) (counts : List MonthlyCount) (revenues : List MonthlyRevenue) :
    Prop where
  daily : ∀ (subscription feature : Id) (days : Int) (since : Instant) (o : Outcome _),
    (dailyUsage subscription feature days).Hears
        [⟨.listUsageLogs subscription feature since, .ok logs⟩] o ↔
      (∃ now : Instant, since = now.daysBefore days) ∧ o = .done totals
  growth : ∀ (months : Nat) (since : Instant) (o : Outcome _),
    (subscriptionGrowth months).Hears [⟨.listCreated since, .ok created⟩] o ↔
      (∃ now : Instant, since = now.monthsBackStart months) ∧ o = .done counts
  revenue : ∀ (months : Nat) (since : Instant) (o : Outcome _),
    (revenueByPeriod months).Hears [⟨.listPaid since, .ok paid⟩] o ↔
      (∃ now : Instant, since = now.monthsBackStart months) ∧ o = .done revenues

theorem reported {totals : List DailyUsage} {revenues : List MonthlyRevenue}
    (htotals : dailyTotals logs = .ok totals) (hrevenues : monthlyRevenues paid = .ok revenues) :
    Reported logs created paid totals (monthlyCounts created) revenues where
  daily subscription feature days since o := by
    have hinj : Function.Injective (Request.listUsageLogs subscription feature) :=
      fun _ _ h => (Request.listUsageLogs.inj h).2.2
    refine (hears_since hinj (·.daysBefore days) fun _ logs =>
      Procedure.compute (dailyTotals logs)).trans (and_congr_right' ?_)
    simp [htotals, Procedure.compute, Procedure.Hears]
  growth months since o := by
    have hinj : Function.Injective Request.listCreated := fun _ _ => Request.listCreated.inj
    refine (hears_since hinj (·.monthsBackStart months) fun _ created =>
      Procedure.done (monthlyCounts created)).trans (and_congr_right' ?_)
    simp [Procedure.Hears]
  revenue months since o := by
    have hinj : Function.Injective Request.listPaid := fun _ _ => Request.listPaid.inj
    refine (hears_since hinj (·.monthsBackStart months) fun _ paid =>
      Procedure.compute (monthlyRevenues paid)).trans (and_congr_right' ?_)
    simp [hrevenues, Procedure.compute, Procedure.Hears]

/-- Whether the series have an entry for each day or month that occurs, in order, with what its rows
come to, so that no row is lost. -/
structure Complete (logs : List UsageLog) (created : List Instant) (paid : List PaidInvoice)
    (totals : List DailyUsage) (counts : List MonthlyCount) (revenues : List MonthlyRevenue) :
    Prop where
  daily : IsSeries (fun log : UsageLog => log.createdAt.date) (sumOf (·.amount)) logs
    (totals.map DailyUsage.figure)
  daily_sum : (totals.map (·.total.toRat)).sum = sumOf (·.amount) logs
  growth : IsMonthly Instant.date (fun group => (group.length : Int)) created
    (counts.map MonthlyCount.figure)
  growth_sum : (counts.map (·.count)).sum = created.length
  revenue : IsMonthly (fun p : PaidInvoice => p.paidAt.date)
    (fun group => Decimal.halfAway 2 (sumOf (·.amount) group)) paid
    (revenues.map MonthlyRevenue.figure)

/-- What the reports come to is settled by the rows, whatever their order. -/
theorem Complete.figures_of_perm {logs' : List UsageLog} {created' : List Instant}
    {paid' : List PaidInvoice} {totals totals' : List DailyUsage} {counts counts' : List MonthlyCount}
    {revenues revenues' : List MonthlyRevenue} (h : Complete logs created paid totals counts revenues)
    (h' : Complete logs' created' paid' totals' counts' revenues') (hlogs : logs'.Perm logs)
    (hcreated : created'.Perm created) (hpaid : paid'.Perm paid) :
    totals'.map DailyUsage.figure = totals.map DailyUsage.figure ∧ counts' = counts ∧
      revenues'.map MonthlyRevenue.figure = revenues.map MonthlyRevenue.figure := by
  refine ⟨?_, ?_, ?_⟩
  · exact h'.daily.eq_of_perm h.daily (fun _ _ => sumOf_perm) hlogs
  · refine List.map_injective_iff.mpr MonthlyCount.figure_injective ?_
    exact h'.growth.eq_of_perm h.growth (fun _ _ hgroup => congrArg _ hgroup.length_eq) hcreated
  · exact h'.revenue.eq_of_perm h.revenue (fun _ _ hgroup => congrArg _ (sumOf_perm hgroup)) hpaid

theorem exists_complete (h : SeriesFit logs created paid) :
    ∃ totals revenues, Reported logs created paid totals (monthlyCounts created) revenues ∧
      Complete logs created paid totals (monthlyCounts created) revenues := by
  obtain ⟨totals, htotals, hdaily⟩ := dailyTotals_isSeries h.daily
  obtain ⟨revenues, hrevenues, hrevenue⟩ := monthlyRevenues_isMonthly h.paid_year h.monthly
  have hgrowth := monthlyCounts_isMonthly h.created_year
  refine ⟨totals, revenues, reported htotals hrevenues, hdaily, ?_, hgrowth, ?_, hrevenue⟩
  · have hsum := hdaily.sum_eq
    rwa [List.map_map] at hsum
  · have hones : IsMonthly Instant.date (fun group => (group.map fun _ => (1 : Int)).sum) created
        ((monthlyCounts created).map MonthlyCount.figure) := by simpa using hgrowth
    have hsum := hones.sum_eq
    simpa [Function.comp_def, MonthlyCount.figure] using hsum

/-- Rows that can be added up are all in the series of the three reports, each in the entry of its
own day or month; and in whatever order the storage lists them, the reports say the same. -/
theorem reports_complete (h : SeriesFit logs created paid) :
    ∃ totals counts revenues, Reported logs created paid totals counts revenues ∧
      Complete logs created paid totals counts revenues ∧
      ∀ logs' created' paid', logs'.Perm logs → created'.Perm created → paid'.Perm paid →
        SeriesFit logs' created' paid' →
        ∃ totals' revenues', Reported logs' created' paid' totals' counts revenues' ∧
          totals'.map DailyUsage.figure = totals.map DailyUsage.figure ∧
          revenues'.map MonthlyRevenue.figure = revenues.map MonthlyRevenue.figure := by
  obtain ⟨totals, revenues, hreported, hcomplete⟩ := exists_complete h
  refine ⟨totals, _, revenues, hreported, hcomplete, ?_⟩
  intro logs' created' paid' hlogs hcreated hpaid h'
  obtain ⟨totals', revenues', hreported', hcomplete'⟩ := exists_complete h'
  obtain ⟨hdaily, hgrowth, hrevenue⟩ := hcomplete.figures_of_perm hcomplete' hlogs hcreated hpaid
  exact ⟨totals', revenues', hgrowth ▸ hreported', hdaily, hrevenue⟩

def newYearEve : Instant := ⟨19722 * nanosPerDay + 82800 * nanosPerSecond, by decide, by decide⟩

def newYear : Instant := ⟨19723 * nanosPerDay + 3600 * nanosPerSecond, by decide, by decide⟩

def usedAt (createdAt : Instant) (amount : Decimal) : UsageLog :=
  { subscriptionId := .ofNat 1, featureId := .ofNat 2, amount, description := none, metadata := none
    id := .ofNat 3, createdAt }

/-- Rows on both sides of midnight, and the same rows the other way round. -/
theorem reports_complete_new_year :
    let logs := [usedAt newYear .hundred, usedAt newYearEve 1, usedAt newYear 1]
    let created := [newYear, newYearEve, newYear]
    let paid : List PaidInvoice := [⟨newYear, 1⟩, ⟨newYearEve, .hundred⟩]
    SeriesFit logs created paid ∧ SeriesFit logs.reverse created.reverse paid.reverse ∧
      ∃ totals counts revenues, Reported logs created paid totals counts revenues ∧
        (totals.map (·.total.toRat)).sum = 102 ∧ (counts.map (·.count)).sum = 3 ∧
        ∃ totals' revenues', Reported logs.reverse created.reverse paid.reverse totals' counts
            revenues' ∧ totals'.map DailyUsage.figure = totals.map DailyUsage.figure := by
  intro logs created paid
  have hone : Decimal.toRat 1 = 1 := by
    change ((1 : Int) : ℚ) / 10 ^ 0 = 1
    norm_num
  have hlogs : Decimal.Moderate 0 (logs.map (·.amount)) := by
    refine ⟨by decide, ?_⟩
    norm_num [logs, usedAt, Decimal.toRat_hundred, hone]
    decide
  have hpaid : Decimal.Moderate 0 (paid.map (·.amount)) := by
    refine ⟨by decide, ?_⟩
    norm_num [paid, Decimal.toRat_hundred, hone]
    decide
  have hcreated_year : ∀ t ∈ created, t.date.InFourDigits := by decide +kernel
  have hpaid_year : ∀ p ∈ paid, p.paidAt.date.InFourDigits := by decide +kernel
  have hfit : SeriesFit logs created paid :=
    .of_moderate (by decide) hlogs hpaid hcreated_year hpaid_year
  have hfit' : SeriesFit logs.reverse created.reverse paid.reverse :=
    .of_moderate (by decide) (hlogs.perm (logs.reverse_perm.map _))
      (hpaid.perm (paid.reverse_perm.map _)) (by simpa using hcreated_year)
      (by simpa using hpaid_year)
  obtain ⟨totals, counts, revenues, hreported, hcomplete, hsame⟩ := reports_complete hfit
  obtain ⟨totals', revenues', hreported', hdaily, -⟩ := hsame _ _ _ logs.reverse_perm
    created.reverse_perm paid.reverse_perm hfit'
  refine ⟨hfit, hfit', totals, counts, revenues, hreported, ?_, hcomplete.growth_sum, totals',
    revenues', hreported', hdaily⟩
  rw [hcomplete.daily_sum]
  norm_num [logs, sumOf, usedAt, Decimal.toRat_hundred, hone]

end Reports

end RecurringBilling
