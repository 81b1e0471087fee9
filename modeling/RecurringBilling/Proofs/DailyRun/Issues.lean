import RecurringBilling.Proofs.DailyRun.Expiration
import RecurringBilling.Proofs.DailyRun.Invariants
import RecurringBilling.Proofs.Store.Growth

/-! The invoices of a day: at most one for each subscription, and only for one that ends on the
day. -/

namespace RecurringBilling

namespace DailyRun

/-- Invoices were added, at most one for each subscription that ends on the date. -/
def Issued (date : Date) (s s' : Store) : Prop :=
  ∃ issued, s'.invoices = s.invoices ++ issued ∧ ∀ id,
    issued.filter (·.subscriptionId == id) = [] ∨
      ∃ i, issued.filter (·.subscriptionId == id) = [i] ∧
        ∃ r ∈ s.subscriptions, r.id = id ∧ r.EndsOn date

/-- Nothing was done but to expire subscriptions. -/
structure OnlyExpired (s s' : Store) : Prop where
  ids : s'.subscriptions.map (·.id) = s.subscriptions.map (·.id)
  invoices : s'.invoices = s.invoices
  rows : ∀ r ∈ s'.subscriptions, r ∈ s.subscriptions ∨ r.status = SubscriptionStatus.expired.word

variable {date : Date} {s s' s'' : Store}

theorem OnlyExpired.refl (s : Store) : OnlyExpired s s := ⟨rfl, rfl, fun _ => .inl⟩

theorem OnlyExpired.of_eq (h : s' = s) : OnlyExpired s s' := h ▸ .refl s

theorem OnlyExpired.trans (h : OnlyExpired s s') (h' : OnlyExpired s' s'') : OnlyExpired s s'' := by
  refine ⟨h'.ids.trans h.ids, h'.invoices.trans h.invoices, ?_⟩
  intro r hr
  rcases h'.rows r hr with hr | hexpired
  · exact h.rows r hr
  · exact .inr hexpired

theorem OnlyExpired.of_endsOn (h : OnlyExpired s s') {r : Subscription} (hr : r ∈ s'.subscriptions)
    (hends : r.EndsOn date) : r ∈ s.subscriptions := by
  rcases h.rows r hr with hr | hexpired
  · exact hr
  · have hactive := hends.2.1
    simp [hexpired, SubscriptionStatus.word] at hactive

theorem OnlyExpired.issued (h : OnlyExpired s s') (h' : Issued date s' s'') : Issued date s s'' := by
  obtain ⟨issued, hinvoices, hone⟩ := h'
  refine ⟨issued, by rw [hinvoices, h.invoices], ?_⟩
  intro id
  rcases hone id with hnone | ⟨i, hi, r, hr, hid, hends⟩
  · exact .inl hnone
  · exact .inr ⟨i, hi, r, h.of_endsOn hr hends, hid, hends⟩

theorem keeps_onlyExpired (s : Store) : KeepsExpiry (OnlyExpired s) := by
  refine ⟨?_⟩
  intro _ _ _ _ _ r _ s₁ s₂ row now hs₁ h
  obtain ⟨hstore, hids, hrows⟩ := Store.updateSubscription_eq_ok h
  refine ⟨hids.trans hs₁.ids, ?_, ?_⟩
  · rw [hstore]
    exact hs₁.invoices
  · intro x hx
    rcases hrows x hx with hx | ⟨old, _, _, rfl⟩
    · exact hs₁.rows x hx
    · exact .inr rfl

theorem Renewed.invoices {r : Subscription} {calls : List Call} {before after : Account}
    (h : Renewed s r calls before after) :
    after.invoices = before.invoices ∨ ∃ i, after.invoices = before.invoices ++ [i] := by
  rcases h.cases with rfl | ⟨now, rfl⟩ | ⟨i, rfl⟩
  · exact .inl rfl
  · exact .inl rfl
  · exact .inr ⟨i, rfl⟩

theorem Worked.issued {listed : List Subscription} {own : Id → List Call}
    (h : Worked (renewalEffect s) listed own s s')
    (hlisted : ∀ r ∈ listed, r ∈ s.subscriptions ∧ r.EndsOn date) : Issued date s s' := by
  obtain ⟨issued, hissued⟩ := h.store.invoices
  have haccount : ∀ id, (s'.account id).invoices =
      (s.account id).invoices ++ issued.filter (·.subscriptionId == id) := by
    intro id
    simp [Store.account, ← hissued]
  refine ⟨issued, hissued.symm, ?_⟩
  intro id
  by_cases hid : id ∈ listed.map (·.id)
  · obtain ⟨r, hr, rfl⟩ := List.mem_map.mp hid
    obtain ⟨hrs, hends⟩ := hlisted r hr
    rcases (h.accounts r hr).2.invoices with hsame | ⟨i, hi⟩
    · exact .inl (by simpa only [haccount, List.append_right_eq_self] using hsame)
    · rw [haccount, List.append_cancel_left_eq] at hi
      exact .inr ⟨i, hi, r, hrs, rfl, hends⟩
  · have hsame := congrArg Account.invoices (h.others id hid)
    exact .inl (by simpa only [haccount, List.append_right_eq_self] using hsame)

theorem issued_of_run (env : Chances) (dueDays : Nat) {report : RunReport} {w w' : World}
    (hids : (w.store.subscriptions.map (·.id)).Nodup)
    (hrun : env.run (run dueDays date) w = (.done report, w')) : Issued date w.store w'.store := by
  rcases (works_renewOne env dueDays w.store).run_listed hids date true
      (fun listed => { renewalsScanned := listed.length }) with
    ⟨e, w₁, hrenewals, _⟩ | ⟨_, fault, hrenewals⟩ | ⟨listed, r, w₁, own, hrenewals, hl, _, _, hworked⟩
  · change env.run (renewals dueDays date {}) w = _ at hrenewals
    simp [run, hrenewals] at hrun
  · change env.run (renewals dueDays date {}) w = _ at hrenewals
    simp [run, hrenewals] at hrun
  · change env.run (renewals dueDays date {}) w = _ at hrenewals
    have hissued : Issued date w.store w₁.store := by
      refine hworked.issued fun r hr => ?_
      obtain ⟨hrs, hends, _⟩ := (Store.mem_expiring_iff hl r).mp hr
      exact ⟨hrs, hends⟩
    have hexpired := ((keeps_onlyExpired w₁.store).expirationsOrIncomplete date r).run env
      (OnlyExpired.refl w₁.store)
    simp only [run, Chances.run_bind, Chances.run_log, Chances.run_pure, hrenewals,
      Outcome.andThen_done, Outcome.andThen_pure] at hrun
    rw [hrun] at hexpired
    obtain ⟨issued, hinvoices, hone⟩ := hissued
    exact ⟨issued, hexpired.invoices.trans hinvoices, hone⟩

end DailyRun

end RecurringBilling
