import Mathlib.Data.List.Nodup
import RecurringBilling.Figures.Json
import RecurringBilling.Proofs.Calendar.DateTexts
import RecurringBilling.Proofs.Decimal.Texts
import RecurringBilling.Proofs.Identifiers

/-! Figures survive their JSON form. Of a value only the minus signs of zeros are lost, which are
written and not read; from the first reading of what was written the form stays as it is. -/

namespace RecurringBilling

namespace Json

variable {α : Type} {name : String} {names : List String} {v : Json} {values : List Json}
  {members : List (String × Json)}

theorem find?_name (hnames : (members.map (·.1)).Nodup) (h : (name, v) ∈ members) :
    members.find? (·.1 == name) = some (name, v) := by
  induction members with
  | nil => cases h
  | cons first rest ih =>
    rw [List.map_cons, List.nodup_cons] at hnames
    rcases List.mem_cons.mp h with rfl | hrest
    · simp
    · have hne : first.1 ≠ name := fun heq => hnames.1 (heq ▸ List.mem_map_of_mem hrest)
      rw [List.find?_cons_of_neg (by simpa using hne), ih hnames.2 hrest]

/-- Of members with names of their own, the last of a name is the only one. -/
theorem member?_eq (hnames : (members.map (·.1)).Nodup) (h : (name, v) ∈ members) :
    member? name members = some v := by
  have hreversed : (members.reverse.map (·.1)).Nodup := by
    rwa [List.map_reverse, List.nodup_reverse]
  rw [member?, find?_name hreversed (List.mem_reverse.mpr h), Option.map_some]

theorem mapM_member? (hlength : values.length = names.length)
    (h : ∀ p ∈ names.zip values, member? p.1 members = some p.2) :
    names.mapM (member? · members) = some values := by
  induction names generalizing values with
  | nil => rw [List.eq_nil_of_length_eq_zero hlength]; rfl
  | cons name names ih =>
    obtain ⟨v, values, rfl⟩ := List.exists_cons_of_length_eq_add_one hlength
    rw [List.zip_cons_cons, List.forall_mem_cons] at h
    rw [List.mapM_cons, h.1, ih (by simpa using hlength) h.2]
    rfl

/-- The fields of a record are read from the object that they were put in. -/
theorem bind_record? {f : List Json → Option α} (values : List Json) (hnames : names.Nodup)
    (hlength : values.length = names.length) :
    ((object (names.zip values)).record? names).bind f = f values := by
  have hkeys : (names.zip values).map (·.1) = names :=
    List.map_fst_zip (Nat.le_of_eq hlength.symm)
  have hfields : (object (names.zip values)).record? names = some values := by
    refine mapM_member? hlength fun p hp => member?_eq ?_ hp
    rwa [hkeys]
  rw [hfields, Option.bind_some]

end Json

/-- A count of 64 bits. -/
def IsCount (n : Int) : Prop := -9223372036854775808 ≤ n ∧ n < 9223372036854775808

@[simp] theorem ofJson?_string (s : String) : ofJson? (toJson s) = some s := rfl

@[simp] theorem ofJson?_date (d : Date) : ofJson? (toJson d) = some d := by
  simp [toJson, ofJson?, Json.string?, Date.read?, Date.read_text, Except.toOption]

@[simp] theorem ofJson?_id (id : Id) : ofJson? (toJson id) = some id := by
  simp [toJson, ofJson?, Json.string?, id.ofText?_text]

@[simp] theorem ofJson?_decimal (d : Decimal) : ofJson? (toJson d) = some (d.withZeroSign false) :=
  d.ofText?_text

theorem ofJson?_int {n : Int} (h : IsCount n) : ofJson? (toJson n) = some n := by
  change (Json.int n).int? = some n
  rw [Json.int?]
  exact if_pos h

theorem isCount_of_ofJson? {j : Json} {n : Int} (h : ofJson? j = some n) : IsCount n := by
  change j.int? = some n at h
  unfold Json.int? at h
  split at h
  · split at h
    · rename_i hcount
      cases h
      exact hcount
    · cases h
  · cases h

/-- The numbers that a figure shows. -/
class Figure (α : Type) where
  counts : α → List Int
  decimals : α → List Decimal
  /-- The figure with the minus signs of its zeros dropped. -/
  plainZeros : α → α
  counts_plainZeros (v : α) : counts (plainZeros v) = counts v := by exact fun _ => rfl
  plainZeros_plainZeros (v : α) : plainZeros (plainZeros v) = plainZeros v := by
    exact fun _ => rfl

export Figure (counts decimals plainZeros counts_plainZeros plainZeros_plainZeros)

instance : Figure DailyUsage where
  counts _ := []
  decimals v := [v.total]
  plainZeros v := { v with total := v.total.withZeroSign false }

instance : Figure MonthlyCount where
  counts v := [v.count]
  decimals _ := []
  plainZeros := id

instance : Figure MonthlyRevenue where
  counts _ := []
  decimals v := [v.revenue]
  plainZeros v := { v with revenue := v.revenue.withZeroSign false }

instance : Figure PackageSubscriberCount where
  counts v := [v.count]
  decimals _ := []
  plainZeros := id

instance : Figure PackageRevenue where
  counts _ := []
  decimals v := [v.revenue]
  plainZeros v := { v with revenue := v.revenue.withZeroSign false }

instance : Figure ChurnPoint where
  counts _ := []
  decimals v := [v.churnRate]
  plainZeros v := { v with churnRate := v.churnRate.withZeroSign false }

instance : Figure StatusBreakdown where
  counts v := [v.active, v.onTrial, v.cancelled, v.expired]
  decimals _ := []
  plainZeros := id

instance : Figure DashboardSummary where
  counts v := [v.totalSubscriptions, v.activeSubscriptions, v.pendingInvoices, v.overdueInvoices] ++
    counts v.subscriptionsByStatus
  decimals v := [v.mrr, v.arpu, v.totalRevenue, v.churnRate, v.trialConversionRate]
  plainZeros v := { v with
    mrr := v.mrr.withZeroSign false
    arpu := v.arpu.withZeroSign false
    totalRevenue := v.totalRevenue.withZeroSign false
    churnRate := v.churnRate.withZeroSign false
    trialConversionRate := v.trialConversionRate.withZeroSign false }

instance : Figure PackageAnalytics where
  counts v := [v.totalSubscribers, v.activeSubscribers, v.cancelledCount, v.pendingInvoices,
    v.overdueInvoices]
  decimals v := [v.mrr, v.averageMrr, v.trialConversionRate, v.totalRevenue]
  plainZeros v := { v with
    mrr := v.mrr.withZeroSign false
    averageMrr := v.averageMrr.withZeroSign false
    trialConversionRate := v.trialConversionRate.withZeroSign false
    totalRevenue := v.totalRevenue.withZeroSign false }

/-- The JSON form of a figure as it is written and read. -/
structure LawfulForm (α : Type) [JsonForm α] [Figure α] : Prop where
  read_written {v : α} : (∀ n ∈ counts v, IsCount n) → ofJson? (toJson v) = some (plainZeros v)
  isCount {j : Json} {v : α} : ofJson? j = some v → ∀ n ∈ counts v, IsCount n
  plainZeros_eq_self_iff (v : α) :
    plainZeros v = v ↔ ∀ d ∈ decimals v, d.isNegativeZero = false

theorem DailyUsage.lawfulForm : LawfulForm DailyUsage where
  read_written {v} _ := by
    refine (Json.bind_record? [toJson v.date, toJson v.total] (by decide) rfl).trans ?_
    simp [plainZeros]
  isCount _ := List.forall_mem_nil _
  plainZeros_eq_self_iff v := by
    cases v
    simp [plainZeros, decimals]

theorem MonthlyCount.lawfulForm : LawfulForm MonthlyCount where
  read_written {v} h := by
    have hcount := ofJson?_int (List.forall_mem_singleton.mp h)
    refine (Json.bind_record? [toJson v.month, toJson v.count] (by decide) rfl).trans ?_
    simp [plainZeros, hcount]
  isCount h := by
    obtain ⟨fields, -, hread⟩ := Option.bind_eq_some_iff.mp h
    split at hread
    · simp only [Option.bind_eq_bind, Option.bind_eq_some_iff] at hread
      obtain ⟨month, -, count, hcount, ⟨⟩⟩ := hread
      exact List.forall_mem_singleton.mpr (isCount_of_ofJson? hcount)
    · cases hread
  plainZeros_eq_self_iff _ := iff_of_true rfl (List.forall_mem_nil _)

theorem MonthlyRevenue.lawfulForm : LawfulForm MonthlyRevenue where
  read_written {v} _ := by
    refine (Json.bind_record? [toJson v.month, toJson v.revenue] (by decide) rfl).trans ?_
    simp [plainZeros]
  isCount _ := List.forall_mem_nil _
  plainZeros_eq_self_iff v := by
    cases v
    simp [plainZeros, decimals]

theorem PackageSubscriberCount.lawfulForm : LawfulForm PackageSubscriberCount where
  read_written {v} h := by
    have hcount := ofJson?_int (List.forall_mem_singleton.mp h)
    refine (Json.bind_record? [toJson v.packageId, toJson v.packageName, toJson v.count]
      (by decide) rfl).trans ?_
    simp [plainZeros, hcount]
  isCount h := by
    obtain ⟨fields, -, hread⟩ := Option.bind_eq_some_iff.mp h
    split at hread
    · simp only [Option.bind_eq_bind, Option.bind_eq_some_iff] at hread
      obtain ⟨id, -, name, -, count, hcount, ⟨⟩⟩ := hread
      exact List.forall_mem_singleton.mpr (isCount_of_ofJson? hcount)
    · cases hread
  plainZeros_eq_self_iff _ := iff_of_true rfl (List.forall_mem_nil _)

theorem PackageRevenue.lawfulForm : LawfulForm PackageRevenue where
  read_written {v} _ := by
    refine (Json.bind_record? [toJson v.packageId, toJson v.packageName, toJson v.revenue]
      (by decide) rfl).trans ?_
    simp [plainZeros]
  isCount _ := List.forall_mem_nil _
  plainZeros_eq_self_iff v := by
    cases v
    simp [plainZeros, decimals]

theorem ChurnPoint.lawfulForm : LawfulForm ChurnPoint where
  read_written {v} _ := by
    refine (Json.bind_record? [toJson v.month, toJson v.churnRate] (by decide) rfl).trans ?_
    simp [plainZeros]
  isCount _ := List.forall_mem_nil _
  plainZeros_eq_self_iff v := by
    cases v
    simp [plainZeros, decimals]

theorem StatusBreakdown.lawfulForm : LawfulForm StatusBreakdown where
  read_written {v} h := by
    simp only [counts, List.forall_mem_cons] at h
    obtain ⟨hactive, honTrial, hcancelled, hexpired, -⟩ := h
    refine (Json.bind_record? [toJson v.active, toJson v.onTrial, toJson v.cancelled,
      toJson v.expired] (by decide) rfl).trans ?_
    simp [plainZeros, ofJson?_int hactive, ofJson?_int honTrial, ofJson?_int hcancelled,
      ofJson?_int hexpired]
  isCount h := by
    obtain ⟨fields, -, hread⟩ := Option.bind_eq_some_iff.mp h
    split at hread
    · simp only [Option.bind_eq_bind, Option.bind_eq_some_iff] at hread
      obtain ⟨active, hactive, onTrial, honTrial, cancelled, hcancelled, expired, hexpired, ⟨⟩⟩ :=
        hread
      simp [counts, isCount_of_ofJson? hactive, isCount_of_ofJson? honTrial,
        isCount_of_ofJson? hcancelled, isCount_of_ofJson? hexpired]
    · cases hread
  plainZeros_eq_self_iff _ := iff_of_true rfl (List.forall_mem_nil _)

theorem DashboardSummary.lawfulForm : LawfulForm DashboardSummary where
  read_written {v} h := by
    obtain ⟨hcounts, hstatus⟩ := List.forall_mem_append.mp h
    simp only [List.forall_mem_cons] at hcounts
    obtain ⟨htotal, hactive, hpending, hoverdue, -⟩ := hcounts
    have hbreakdown := StatusBreakdown.lawfulForm.read_written hstatus
    refine (Json.bind_record? [toJson v.totalSubscriptions, toJson v.activeSubscriptions,
      toJson v.subscriptionsByStatus, toJson v.mrr, toJson v.arpu, toJson v.totalRevenue,
      toJson v.churnRate, toJson v.trialConversionRate, toJson v.pendingInvoices,
      toJson v.overdueInvoices] (by decide) rfl).trans ?_
    simp [plainZeros, ofJson?_int htotal, ofJson?_int hactive, hbreakdown, ofJson?_int hpending,
      ofJson?_int hoverdue]
  isCount h := by
    obtain ⟨fields, -, hread⟩ := Option.bind_eq_some_iff.mp h
    split at hread
    · simp only [Option.bind_eq_bind, Option.bind_eq_some_iff] at hread
      obtain ⟨total, htotal, active, hactive, status, hstatus, mrr, -, arpu, -, revenue, -,
        churn, -, conversion, -, pending, hpending, overdue, hoverdue, ⟨⟩⟩ := hread
      refine List.forall_mem_append.mpr ⟨?_, StatusBreakdown.lawfulForm.isCount hstatus⟩
      simp [isCount_of_ofJson? htotal, isCount_of_ofJson? hactive, isCount_of_ofJson? hpending,
        isCount_of_ofJson? hoverdue]
    · cases hread
  plainZeros_eq_self_iff v := by
    cases v
    simp [plainZeros, decimals]

theorem PackageAnalytics.lawfulForm : LawfulForm PackageAnalytics where
  read_written {v} h := by
    simp only [counts, List.forall_mem_cons] at h
    obtain ⟨htotal, hactive, hcancelled, hpending, hoverdue, -⟩ := h
    refine (Json.bind_record? [toJson v.packageId, toJson v.packageName, toJson v.totalSubscribers,
      toJson v.activeSubscribers, toJson v.cancelledCount, toJson v.mrr, toJson v.averageMrr,
      toJson v.trialConversionRate, toJson v.totalRevenue, toJson v.pendingInvoices,
      toJson v.overdueInvoices] (by decide) rfl).trans ?_
    simp [plainZeros, ofJson?_int htotal, ofJson?_int hactive, ofJson?_int hcancelled,
      ofJson?_int hpending, ofJson?_int hoverdue]
  isCount h := by
    obtain ⟨fields, -, hread⟩ := Option.bind_eq_some_iff.mp h
    split at hread
    · simp only [Option.bind_eq_bind, Option.bind_eq_some_iff] at hread
      obtain ⟨id, -, name, -, total, htotal, active, hactive, cancelled, hcancelled, mrr, -,
        average, -, conversion, -, revenue, -, pending, hpending, overdue, hoverdue, ⟨⟩⟩ := hread
      simp [counts, isCount_of_ofJson? htotal, isCount_of_ofJson? hactive,
        isCount_of_ofJson? hcancelled, isCount_of_ofJson? hpending, isCount_of_ofJson? hoverdue]
    · cases hread
  plainZeros_eq_self_iff v := by
    cases v
    simp [plainZeros, decimals]

/-- The JSON that is written of what is read. -/
def Json.rewrite? (α : Type) [JsonForm α] (j : Json) : Option Json :=
  (ofJson? j : Option α).map toJson

/-- Figures survive their JSON form, but for the minus signs of zeros: without them they are read
from what was written, so that a figure comes back exactly if no zero of it has one. What is written
of a figure that was read is read in the same way, and from then on the JSON stays as it is. -/
structure SurvivesJson (α : Type) [JsonForm α] [Figure α] : Prop where
  written (v : α) (hcounts : ∀ n ∈ counts v, IsCount n) :
    ofJson? (toJson v) = some (plainZeros v)
  exactly (v : α) : plainZeros v = v ↔ ∀ d ∈ decimals v, d.isNegativeZero = false
  reread (j : Json) (v : α) (hread : ofJson? j = some v) :
    ofJson? (toJson v) = some (plainZeros v)
  settled (j : Json) (v : α) (hread : ofJson? j = some v) :
    ofJson? (toJson (plainZeros v)) = some (plainZeros v) ∧
      Json.rewrite? α (toJson (plainZeros v)) = some (toJson (plainZeros v))

theorem LawfulForm.survivesJson {α : Type} [JsonForm α] [Figure α] (h : LawfulForm α) :
    SurvivesJson α where
  written _ hcounts := h.read_written hcounts
  exactly := h.plainZeros_eq_self_iff
  reread _ _ hread := h.read_written (h.isCount hread)
  settled _ v hread := by
    have hcounts : ∀ n ∈ counts (plainZeros v), IsCount n := by
      rw [counts_plainZeros]
      exact h.isCount hread
    have hagain : ofJson? (toJson (plainZeros v)) = some (plainZeros v) := by
      rw [h.read_written hcounts, plainZeros_plainZeros]
    exact ⟨hagain, by rw [Json.rewrite?, hagain, Option.map_some]⟩

theorem figures_survive_json :
    SurvivesJson DailyUsage ∧ SurvivesJson MonthlyCount ∧ SurvivesJson MonthlyRevenue ∧
      SurvivesJson PackageSubscriberCount ∧ SurvivesJson PackageRevenue ∧ SurvivesJson ChurnPoint ∧
      SurvivesJson StatusBreakdown ∧ SurvivesJson DashboardSummary ∧
      SurvivesJson PackageAnalytics :=
  ⟨DailyUsage.lawfulForm.survivesJson, MonthlyCount.lawfulForm.survivesJson,
    MonthlyRevenue.lawfulForm.survivesJson, PackageSubscriberCount.lawfulForm.survivesJson,
    PackageRevenue.lawfulForm.survivesJson, ChurnPoint.lawfulForm.survivesJson,
    StatusBreakdown.lawfulForm.survivesJson, DashboardSummary.lawfulForm.survivesJson,
    PackageAnalytics.lawfulForm.survivesJson⟩

/-- A rate of which rounding has left the sign. -/
def vanishedChurn : ChurnPoint where
  month := "2024-01"
  churnRate := {
    units := 0
    scale := 28
    units_lt := by decide
    scale_le := by decide
    isNegativeZero := true
    units_eq_zero := fun _ => rfl }

theorem vanishedChurn_changes :
    ofJson? (.object [("month", .string "2024-01"), ("churn_rate", .string "-0.4e-28")]) =
        some vanishedChurn ∧
      ofJson? (toJson vanishedChurn) ≠ some vanishedChurn ∧
      Json.rewrite? ChurnPoint (toJson vanishedChurn) ≠ some (toJson vanishedChurn) := by
  have hagain : ofJson? (toJson vanishedChurn) = some (plainZeros vanishedChurn) :=
    ChurnPoint.lawfulForm.read_written (List.forall_mem_nil _)
  refine ⟨?_, ?_, ?_⟩
  · have hrate : Decimal.ofText? "-0.4e-28" = some vanishedChurn.churnRate := by decide +kernel
    refine (Json.bind_record? [toJson "2024-01", .string "-0.4e-28"] (by decide) rfl).trans ?_
    simp [ofJson?, hrate]
    rfl
  · rw [hagain]
    intro heq
    have hsign := (ChurnPoint.lawfulForm.plainZeros_eq_self_iff _).mp (Option.some.inj heq)
    exact absurd (hsign _ List.mem_cons_self) (by decide)
  · rw [Json.rewrite?, hagain]
    intro heq
    have htexts : (plainZeros vanishedChurn).month = vanishedChurn.month ∧
        (plainZeros vanishedChurn).churnRate.text = vanishedChurn.churnRate.text := by
      simpa [toJson] using heq
    exact absurd htexts.2 (by decide +kernel)

end RecurringBilling
