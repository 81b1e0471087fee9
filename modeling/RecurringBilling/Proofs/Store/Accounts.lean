import RecurringBilling.Proofs.Calendar.Days
import RecurringBilling.Proofs.Store.Rows

/-! What a store holds of one subscription, and changes that leave the other subscriptions alone. -/

namespace RecurringBilling

/-- The row of a subscription and its invoices, in the order in which they came. -/
structure Account where
  subscription : Option Subscription
  invoices : List Invoice

/-- Whether an invoice that is not deleted waits for its payment. -/
def Account.HasPending (a : Account) : Prop :=
  ∃ i ∈ a.invoices, i.isLive ∧ i.status = InvoiceStatus.pending.word

/-- Whether the subscription is active and ends on a date. -/
def Subscription.EndsOn (date : Date) (r : Subscription) : Prop :=
  r.isLive ∧ r.status = SubscriptionStatus.active.word ∧ ∃ t, r.endsAt = some t ∧ t.date = date

namespace Store

variable {s s' s'' : Store} {id : Id}

def account (s : Store) (id : Id) : Account :=
  ⟨s.subscriptions.find? (·.id == id), s.invoices.filter (·.subscriptionId == id)⟩

/-- Subscriptions keep their places, invoices are only added, and all other tables are the same. -/
structure Extends (s s' : Store) : Prop where
  ids : s'.subscriptions.map (·.id) = s.subscriptions.map (·.id)
  invoices : s.invoices <+: s'.invoices
  others : s' =
    { s with subscriptions := s'.subscriptions, invoices := s'.invoices, created := s'.created }

theorem Extends.refl (s : Store) : s.Extends s := ⟨rfl, List.prefix_rfl, rfl⟩

theorem Extends.trans (h : s.Extends s') (h' : s'.Extends s'') : s.Extends s'' := by
  refine ⟨h'.ids.trans h.ids, h.invoices.trans h'.invoices, ?_⟩
  rw [h'.others, h.others]

theorem Extends.packages (h : s.Extends s') : s'.packages = s.packages := by rw [h.others]

/-- A change in what the store holds of one subscription. -/
structure Touches (id : Id) (s s' : Store) : Prop extends s.Extends s' where
  accounts : ∀ other, other ≠ id → s'.account other = s.account other

theorem Touches.refl (id : Id) (s : Store) : Touches id s s := ⟨.refl s, fun _ _ => rfl⟩

theorem account_of_mem (hs : (s.subscriptions.map (·.id)).Nodup) {r : Subscription}
    (hr : r ∈ s.subscriptions) : (s.account r.id).subscription = some r :=
  find?_of_nodup hs hr

theorem mem_subscriptions_iff (hs : (s.subscriptions.map (·.id)).Nodup) (r : Subscription) :
    r ∈ s.subscriptions ↔ (s.account r.id).subscription = some r :=
  ⟨account_of_mem hs, fun h => List.mem_of_find?_eq_some h⟩

theorem hasPending_iff (s : Store) (id : Id) :
    (s.invoicesWithText .pending).any (·.subscriptionId == id) ↔ (s.account id).HasPending := by
  simp only [invoicesWithText, liveInvoices, account, Account.HasPending, List.any_eq_true,
    List.mem_filter, beq_iff_eq]
  constructor
  · rintro ⟨i, ⟨⟨hi, hl⟩, hp⟩, hid⟩
    exact ⟨i, ⟨hi, hid⟩, hl, hp⟩
  · rintro ⟨i, ⟨hi, hid⟩, hl, hp⟩
    exact ⟨i, ⟨⟨hi, hl⟩, hp⟩, hid⟩

theorem touches_updateSubscription {changes : SubscriptionChanges} {row : Subscription}
    (h : s.updateSubscription id changes = .ok (row, s')) :
    Touches id s s' ∧ ∃ old, (s.account id).subscription = some old ∧
      s'.account id = { s.account id with subscription := some (changes.apply old) } := by
  obtain ⟨rows, hm, rfl⟩ := updated_eq_ok h
  obtain ⟨_, old, _, _, hfind, rfl, _, _⟩ := modifyFirst?_eq_some hm
  have hfound : rows.find? (·.id == id) = some (changes.apply old) :=
    find?_modifyFirst? hm fun _ => rfl
  refine ⟨⟨⟨map_modifyFirst? hm _ fun _ => rfl, List.prefix_rfl, rfl⟩, ?_⟩, old, hfind, ?_⟩
  · intro other hne
    have hother : rows.find? (·.id == other) = s.subscriptions.find? (·.id == other) := by
      refine find?_modifyFirst?_of_not hm ?_ fun _ => rfl
      intro x hx
      simpa [beq_iff_eq.mp hx] using Ne.symm hne
    simp [account, hother]
  · simp [account, hfound]

theorem touches_createInvoice (s : Store) (now : Instant) (row : NewInvoice) :
    Touches row.subscriptionId s (s.createInvoice now row).2 ∧
      (s.createInvoice now row).2.account row.subscriptionId =
        { s.account row.subscriptionId with
          invoices :=
            (s.account row.subscriptionId).invoices ++ [(s.createInvoice now row).1] } := by
  refine ⟨⟨⟨rfl, List.prefix_append _ _, rfl⟩, ?_⟩, ?_⟩
  · intro other hne
    simp [account, createInvoice, Ne.symm hne]
  · simp [account, createInvoice]

theorem expiring_eq_ok {date : Date} {autoRenew : Option Bool} {listed : List Subscription}
    (h : s.expiring date autoRenew = .ok listed) :
    ∃ start fin, date.bounds? = some (start, fin) ∧
      listed = sortedBy endsBefore (s.liveSubscriptions.filter fun r =>
        isTextOf .active r.status && r.endsAt.any (fun t => start ≤ t && t < fin) &&
          autoRenew.all (r.autoRenew == ·)) := by
  cases hb : date.bounds? with
  | none => simp [expiring, hb] at h
  | some bounds => exact ⟨bounds.1, bounds.2, rfl, by simpa [expiring, hb] using h.symm⟩

theorem lt_lastDay_of_expiring {date : Date} {autoRenew : Option Bool}
    {listed : List Subscription} (h : s.expiring date autoRenew = .ok listed) :
    date.day < Calendar.lastDay := by
  obtain ⟨start, fin, hb, _⟩ := expiring_eq_ok h
  by_contra hlast
  simp [Date.bounds?_of_not_lt hlast] at hb

theorem mem_expiring_option_iff {date : Date} {autoRenew : Option Bool}
    {listed : List Subscription} (h : s.expiring date autoRenew = .ok listed) (r : Subscription) :
    r ∈ listed ↔ r ∈ s.subscriptions ∧ r.EndsOn date ∧ ∀ b ∈ autoRenew, r.autoRenew = b := by
  obtain ⟨start, fin, hb, rfl⟩ := expiring_eq_ok h
  have hday : r.endsAt.any (fun t => start ≤ t && t < fin) ↔
      ∃ t, r.endsAt = some t ∧ t.date = date := by
    simp [Option.any_eq_true, Date.mem_bounds?_iff hb]
  simp only [mem_sortedBy, List.mem_filter, liveSubscriptions, Bool.and_eq_true, hday, isTextOf,
    beq_iff_eq, Option.all_eq_true, Subscription.EndsOn]
  constructor
  · rintro ⟨⟨hr, hl⟩, ⟨ha, hd⟩, hn⟩
    exact ⟨hr, ⟨hl, ha, hd⟩, hn⟩
  · rintro ⟨hr, ⟨hl, ha, hd⟩, hn⟩
    exact ⟨⟨hr, hl⟩, ⟨ha, hd⟩, hn⟩

theorem mem_expiring_iff {date : Date} {renews : Bool} {listed : List Subscription}
    (h : s.expiring date (some renews) = .ok listed) (r : Subscription) :
    r ∈ listed ↔ r ∈ s.subscriptions ∧ r.EndsOn date ∧ r.autoRenew = renews := by
  simpa using mem_expiring_option_iff h r

theorem nodup_expiring {date : Date} {autoRenew : Option Bool} {listed : List Subscription}
    (h : s.expiring date autoRenew = .ok listed) (hs : (s.subscriptions.map (·.id)).Nodup) :
    (listed.map (·.id)).Nodup := by
  obtain ⟨start, fin, _, rfl⟩ := expiring_eq_ok h
  rw [((sortedBy_perm _ _).map _).nodup_iff]
  exact hs.sublist ((List.filter_sublist.trans List.filter_sublist).map _)

end Store

end RecurringBilling
