import RecurringBilling.Proofs.DailyRun.Parts
import RecurringBilling.Proofs.Lifecycle

/-! The renewals of a day: what becomes of each listed subscription and of its invoices. -/

namespace RecurringBilling

open Procedure

namespace Call

/-- Every renewal begins with the question whether an invoice is pending. -/
def beginsRenewal (id : Id) (c : Call) : Bool :=
  match c.request with
  | .hasPendingInvoice other => other == id
  | _ => false

/-- A renewal ends where the next one or a listing begins. -/
def endsRenewal (c : Call) : Bool :=
  match c.request with
  | .hasPendingInvoice _ => true
  | .listExpiring .. => true
  | _ => false

/-- The calls that a run made for the renewal of one subscription. -/
def renewalCalls (id : Id) (calls : List Call) : List Call :=
  match calls.dropWhile (!beginsRenewal id ·) with
  | [] => []
  | c :: rest => c :: rest.takeWhile (!endsRenewal ·)

def UpdateRefused (id : Id) (calls : List Call) : Prop :=
  ∃ c ∈ calls, c.isRefused ∧ ∃ changes, c.request = .updateSubscription id changes

/-- The calls of one renewal, and no others. -/
structure IsRenewal (id : Id) (calls : List Call) : Prop where
  begins : ∃ c rest, calls = c :: rest ∧ c.beginsRenewal id ∧ ∀ x ∈ rest, x.endsRenewal = false
  updates : ∀ c ∈ calls, ∀ other changes, c.request = .updateSubscription other changes → other = id

theorem IsRenewal.cons {id : Id} (reply : Except StorageError Bool) {rest : List Call}
    (h : ∀ c ∈ rest, c.endsRenewal = false ∧
      ∀ other changes, c.request = .updateSubscription other changes → other = id) :
    IsRenewal id (⟨.hasPendingInvoice id, reply⟩ :: rest) := by
  refine ⟨⟨_, rest, rfl, by simp [beginsRenewal], fun c hc => (h c hc).1⟩, ?_⟩
  intro c hc other changes hreq
  rcases List.mem_cons.mp hc with rfl | hc
  · simp at hreq
  · exact (h c hc).2 other changes hreq

theorem beginsRenewal_of_not_ends {id : Id} {c : Call} (h : c.endsRenewal = false) :
    c.beginsRenewal id = false := by
  obtain ⟨r, reply⟩ := c
  cases r <;> simp_all [beginsRenewal, endsRenewal]

theorem IsRenewal.not_begins {id other : Id} {calls : List Call} (h : IsRenewal id calls)
    (hne : id ≠ other) : ∀ c ∈ calls, c.beginsRenewal other = false := by
  obtain ⟨c, rest, rfl, hc, hrest⟩ := h.begins
  intro x hx
  rcases List.mem_cons.mp hx with rfl | hx
  · obtain ⟨r, reply⟩ := x
    cases r <;> simp_all [beginsRenewal]
  · exact beginsRenewal_of_not_ends (hrest x hx)

theorem renewalCalls_append {id : Id} {before own after : List Call}
    (hbefore : ∀ c ∈ before, c.beginsRenewal id = false) (hown : IsRenewal id own)
    (hafter : ∀ c ∈ after.head?, c.endsRenewal = true) :
    renewalCalls id (before ++ (own ++ after)) = own := by
  obtain ⟨c, rest, rfl, hc, hrest⟩ := hown.begins
  have hdrop : (before ++ (c :: rest ++ after)).dropWhile (!beginsRenewal id ·) =
      c :: (rest ++ after) := by
    rw [List.dropWhile_append_of_pos (by simpa using hbefore)]
    simp [hc]
  have htake : (rest ++ after).takeWhile (!endsRenewal ·) = rest := by
    rw [List.takeWhile_append_of_pos (by simpa using hrest)]
    cases after with
    | nil => simp
    | cons x _ => simp [hafter x (by simp)]
  simp only [renewalCalls, hdrop, htake]

theorem renewalCalls_flatMap {listed : List Subscription} {own : Id → List Call}
    {before after : List Call} (hids : (listed.map (·.id)).Nodup)
    (hown : ∀ r ∈ listed, IsRenewal r.id (own r.id))
    (hbefore : ∀ c ∈ before, ∀ id, c.beginsRenewal id = false)
    (hafter : ∀ c ∈ after.head?, c.endsRenewal = true) {r : Subscription} (hr : r ∈ listed) :
    renewalCalls r.id (before ++ listed.flatMap (fun r => own r.id) ++ after) = own r.id := by
  -- the calls of the renewals before it are dropped, and those of the next one end it
  obtain ⟨first, last, rfl⟩ := List.append_of_mem hr
  have hne : ∀ x ∈ first, x.id ≠ r.id := by
    simp only [List.map_append, List.map_cons, List.nodup_append] at hids
    exact fun x hx => hids.2.2 x.id (List.mem_map_of_mem hx) r.id (by simp)
  have hsplit : before ++ (first ++ r :: last).flatMap (fun r => own r.id) ++ after =
      (before ++ first.flatMap fun r => own r.id) ++
        (own r.id ++ ((last.flatMap fun r => own r.id) ++ after)) := by
    simp
  rw [hsplit]
  refine renewalCalls_append ?_ (hown r hr) ?_
  · intro c hc
    rcases List.mem_append.mp hc with hc | hc
    · exact hbefore c hc r.id
    · obtain ⟨x, hx, hc⟩ := List.mem_flatMap.mp hc
      exact (hown x (by simp [hx])).not_begins (hne x hx) c hc
  · cases last with
    | nil => simpa using hafter
    | cons x _ =>
      obtain ⟨c, rest, hc, hbegins, _⟩ := (hown x (by simp)).begins
      have hends : c.endsRenewal = true := by
        by_contra h
        simp [beginsRenewal_of_not_ends (Bool.not_eq_true _ ▸ h)] at hbegins
      simpa [hc] using hends

end Call

namespace DailyRun

def cancelledRow (now : Instant) (r : Subscription) : Subscription :=
  { r with
    status := SubscriptionStatus.cancelled.word
    cancelledAt := some now
    cancellationReason := some pendingInvoiceReason
    autoRenew := false
    updatedAt := now }

/-- Whether an invoice is what a renewal issues: pending, over the package's price and in its
currency. -/
structure IsRenewalInvoice (r : Subscription) (package : Package) (i : Invoice) : Prop where
  live : i.isLive
  subscriptionId : i.subscriptionId = r.id
  status : i.status = InvoiceStatus.pending.word
  amount : i.amount = package.price
  currency : i.currency = package.currency

/-- What a renewal does to the account of a subscription, the packages being those of a store. -/
structure Renewed (s : Store) (r : Subscription) (calls : List Call) (before after : Account) :
    Prop where
  refused : (∃ c ∈ calls, c.isRefused) → after = before
  cancelled : (∀ c ∈ calls, c.isRefused = false) → before.HasPending →
    ∃ now, after = { before with subscription := some (cancelledRow now r) }
  invoiced : (∀ c ∈ calls, c.isRefused = false) → ¬ before.HasPending →
    ∀ package, s.findPackage r.packageId = some package →
      ∃ i, IsRenewalInvoice r package i ∧
        after = { before with invoices := before.invoices ++ [i] }
  packageMissing : (∀ c ∈ calls, c.isRefused = false) → ¬ before.HasPending →
    s.findPackage r.packageId = none → after = before

namespace Renewed

variable {s : Store} {r : Subscription} {calls : List Call} {before after : Account}

theorem of_refused (h : ∃ c ∈ calls, c.isRefused) : Renewed s r calls before before := by
  obtain ⟨c, hc, hr⟩ := h
  refine ⟨fun _ => rfl, ?_, ?_, fun _ _ _ => rfl⟩
  · intro hno
    simp [hno c hc] at hr
  · intro hno
    simp [hno c hc] at hr

theorem of_pending (hno : ∀ c ∈ calls, c.isRefused = false) (hp : before.HasPending)
    {now : Instant} (h : after = { before with subscription := some (cancelledRow now r) }) :
    Renewed s r calls before after := by
  refine ⟨?_, fun _ _ => ⟨now, h⟩, fun _ hn => absurd hp hn, fun _ hn => absurd hp hn⟩
  rintro ⟨c, hc, hr⟩
  simp [hno c hc] at hr

theorem of_package (hno : ∀ c ∈ calls, c.isRefused = false) (hn : ¬ before.HasPending)
    {package : Package} (hf : s.findPackage r.packageId = some package) {i : Invoice}
    (hi : IsRenewalInvoice r package i)
    (h : after = { before with invoices := before.invoices ++ [i] }) :
    Renewed s r calls before after := by
  refine ⟨?_, fun _ hp => absurd hp hn, ?_, ?_⟩
  · rintro ⟨c, hc, hr⟩
    simp [hno c hc] at hr
  · intro _ _ other ho
    obtain rfl : package = other := Option.some.inj (hf.symm.trans ho)
    exact ⟨i, hi, h⟩
  · intro _ _ hnone
    simp [hf] at hnone

theorem of_no_package (hn : ¬ before.HasPending)
    (hf : s.findPackage r.packageId = none) : Renewed s r calls before before := by
  refine ⟨fun _ => rfl, fun _ hp => absurd hp hn, ?_, fun _ _ _ => rfl⟩
  intro _ _ package hp
  simp [hf] at hp

/-- An account is left as it was, or its row is cancelled, or it gets an invoice. -/
theorem cases (h : Renewed s r calls before after) :
    after = before ∨ (∃ now, after = { before with subscription := some (cancelledRow now r) }) ∨
      ∃ i, after = { before with invoices := before.invoices ++ [i] } := by
  by_cases hrefused : ∃ c ∈ calls, c.isRefused
  · exact .inl (h.refused hrefused)
  have hno : ∀ c ∈ calls, c.isRefused = false := by simpa using hrefused
  by_cases hp : before.HasPending
  · exact .inr (.inl (h.cancelled hno hp))
  · cases hf : s.findPackage r.packageId with
    | none => exact .inl (h.packageMissing hno hp hf)
    | some package =>
      obtain ⟨i, -, hafter⟩ := h.invoiced hno hp package hf
      exact .inr (.inr ⟨i, hafter⟩)

end Renewed

variable (env : Chances)

theorem run_cancel_listed {r : Subscription} {w : World}
    (hr : (w.store.account r.id).subscription = some r) :
    ∃ outcome w' c changes, c.request = .updateSubscription r.id changes ∧
      env.run (Subscribing.cancel r false (some pendingInvoiceReason)) w = (outcome, w') ∧
      (∀ fault, outcome ≠ .halted fault) ∧ w'.calls = w.calls ++ [c] ∧
      (c.isRefused = true ∧ w'.store = w.store ∨
        c.isRefused = false ∧ Store.Touches r.id w.store w'.store ∧
          ∃ now, w'.store.account r.id =
            { w.store.account r.id with subscription := some (cancelledRow now r) }) := by
  rw [Subscribing.run_cancel]
  generalize hc : Subscribing.cancellation (env w).now false (some pendingInvoiceReason) = changes
  rcases w.answer_cases_of_ne_fault (env w) (.updateSubscription r.id changes)
      fun _ => Store.updated_ne_fault with ⟨e, w', ha, hs, hw⟩ | ⟨row, w', ha, hs, hw⟩
  · rw [ha]
    exact ⟨.failed (.storage e), w', _, changes, rfl, rfl, by simp, hw, .inl ⟨rfl, hs⟩⟩
  · rw [ha]
    obtain ⟨htouch, old, hold, haccount⟩ := Store.touches_updateSubscription hs
    obtain rfl : r = old := Option.some.inj (hr.symm.trans hold)
    subst hc
    exact ⟨.done row, w', _, _, rfl, rfl, by simp, hw, .inr ⟨rfl, htouch, _, haccount⟩⟩

theorem run_generate_listed (dueDays : Nat) (r : Subscription) (w : World) :
    ∃ outcome w' calls, env.run (Invoicing.generate dueDays r none) w = (outcome, w') ∧
      (∀ fault, outcome ≠ .halted fault) ∧ w'.calls = w.calls ++ calls ∧
      (∀ c ∈ calls, c.endsRenewal = false ∧ ∀ other changes,
        c.request ≠ .updateSubscription other changes) ∧
      ((∃ c ∈ calls, c.isRefused) ∧ w'.store = w.store ∨
        (∀ c ∈ calls, c.isRefused = false) ∧
          (w.store.findPackage r.packageId = none ∧ w'.store = w.store ∨
            ∃ package i, w.store.findPackage r.packageId = some package ∧
              IsRenewalInvoice r package i ∧ Store.Touches r.id w.store w'.store ∧
              w'.store.account r.id =
                { w.store.account r.id with
                  invoices := (w.store.account r.id).invoices ++ [i] })) := by
  rw [Invoicing.run_generate]
  rcases w.answer_cases_of_ne_fault (env w) (.findPackage r.packageId)
      (by simp [Store.answer]) with ⟨e, w₁, ha, hs, hw⟩ | ⟨found, w₁, ha, hs, hw⟩
  · rw [ha]
    exact ⟨.failed (.storage e), w₁, _, rfl, by simp, hw, by simp [Call.endsRenewal],
      .inl ⟨by simp, hs⟩⟩
  rw [ha, Outcome.ofReply_ok, Outcome.andThen_done]
  simp only [Store.answer, Except.ok.injEq, Prod.mk.injEq] at hs
  obtain ⟨hfound, hs⟩ := hs
  cases found with
  | none =>
    exact ⟨.failed _, w₁, _, rfl, by simp, hw, by simp [Call.endsRenewal],
      .inr ⟨by simp, .inl ⟨hfound, hs.symm⟩⟩⟩
  | some package =>
    simp only
    generalize hrow : Invoicing.issuedRow _ _ = row
    rcases w₁.answer_cases_of_ne_fault (env w₁) (.createInvoice row)
        (by simp [Store.answer]) with ⟨e, w₂, ha₂, hs₂, hw₂⟩ | ⟨i, w₂, ha₂, hs₂, hw₂⟩
    · rw [ha₂]
      refine ⟨.failed (.storage e), w₂, _, rfl, by simp, by rw [hw₂, hw, List.append_assoc],
        by simp [Call.endsRenewal], .inl ⟨by simp, hs₂.trans hs.symm⟩⟩
    · rw [ha₂]
      refine ⟨.done i, w₂, _, rfl, by simp, by rw [hw₂, hw, List.append_assoc],
        by simp [Call.endsRenewal], .inr ⟨by simp, .inr ⟨package, i, hfound, ?_⟩⟩⟩
      simp only [Store.answer, Except.ok.injEq, ← hs] at hs₂
      have h := w.store.touches_createInvoice (env w₁).now row
      rw [hs₂] at h
      subst hrow
      refine ⟨?_, h⟩
      simp only [Store.createInvoice, Prod.mk.injEq] at hs₂
      obtain ⟨rfl, -⟩ := hs₂
      exact ⟨rfl, rfl, rfl, rfl, rfl⟩

/-- A renewal fails or not; what it has done by then is one of the cases. -/
theorem run_renew (dueDays : Nat) {s : Store} {r : Subscription} {w : World}
    (hp : w.store.packages = s.packages) (hr : (w.store.account r.id).subscription = some r) :
    ∃ outcome w' calls, env.run (renew dueDays r) w = (outcome, w') ∧
      (∀ fault, outcome ≠ .halted fault) ∧ w'.calls = w.calls ++ calls ∧
      Store.Touches r.id w.store w'.store ∧ Call.IsRenewal r.id calls ∧
      Renewed s r calls (w.store.account r.id) (w'.store.account r.id) := by
  rcases w.answer_cases_of_ne_fault (env w) (.hasPendingInvoice r.id)
      (by simp [Store.answer]) with ⟨e, w₁, ha, hs, hw⟩ | ⟨pending, w₁, ha, hs, hw⟩
  · refine ⟨.failed (.storage e), w₁, _, by simp [renew, Invoicing.hasPending, ha], by simp, hw,
      hs ▸ .refl _ _, .cons _ (by simp), ?_⟩
    rw [hs]
    exact .of_refused (by simp)
  simp only [Store.answer, Except.ok.injEq, Prod.mk.injEq] at hs
  obtain ⟨hpending, hs⟩ := hs
  rw [hs] at hp hr hpending ⊢
  have hiff : pending = true ↔ (w₁.store.account r.id).HasPending := by
    rw [← hpending]
    exact w₁.store.hasPending_iff r.id
  cases pending with
  | true =>
    obtain ⟨outcome, w₂, c, changes, hreq, hrun, hhalt, hw₂, hcase⟩ := run_cancel_listed env hr
    have hown : Call.IsRenewal r.id [⟨.hasPendingInvoice r.id, .ok true⟩, c] :=
      .cons _ (by simp [Call.endsRenewal, hreq])
    have hcalls : w₂.calls = w.calls ++ [⟨.hasPendingInvoice r.id, .ok true⟩, c] := by
      rw [hw₂, hw, List.append_assoc]
      rfl
    have hrenew : env.run (renew dueDays r) w = (outcome.map fun _ => .cancelled, w₂) := by
      rw [← Outcome.andThen_map]
      simp [renew, Invoicing.hasPending, ha, hrun]
    rcases hcase with ⟨hc, hsame⟩ | ⟨hc, htouch, now, haccount⟩
    · refine ⟨_, w₂, _, hrenew, Outcome.map_ne_halted hhalt, hcalls, hsame ▸ .refl _ _, hown, ?_⟩
      rw [hsame]
      exact .of_refused ⟨c, by simp, hc⟩
    · exact ⟨_, w₂, _, hrenew, Outcome.map_ne_halted hhalt, hcalls, htouch, hown,
        .of_pending (by simp [hc]) (hiff.mp rfl) haccount⟩
  | false =>
    have hno : ¬ (w₁.store.account r.id).HasPending := fun h => by simpa using hiff.mpr h
    have hfind : w₁.store.findPackage r.packageId = s.findPackage r.packageId := by
      simp [Store.findPackage, hp]
    obtain ⟨outcome, w₂, calls, hrun, hhalt, hw₂, hkind, hcase⟩ :=
      run_generate_listed env dueDays r w₁
    have hown : Call.IsRenewal r.id (⟨.hasPendingInvoice r.id, .ok false⟩ :: calls) :=
      .cons _ fun c hc => ⟨(hkind c hc).1, fun other changes h => absurd h ((hkind c hc).2 _ _)⟩
    have hcalls : w₂.calls = w.calls ++ ⟨.hasPendingInvoice r.id, .ok false⟩ :: calls := by
      rw [hw₂, hw, List.append_assoc]
      rfl
    have hrenew : env.run (renew dueDays r) w = (outcome.map fun _ => .invoiced, w₂) := by
      rw [← Outcome.andThen_map]
      simp [renew, Invoicing.hasPending, ha, hrun]
    refine ⟨_, w₂, _, hrenew, Outcome.map_ne_halted hhalt, hcalls, ?_⟩
    rcases hcase with ⟨⟨c, hc, hrefused⟩, hsame⟩ | ⟨hanswered, hcase⟩
    · rw [hsame]
      exact ⟨.refl _ _, hown, .of_refused ⟨c, by simp [hc], hrefused⟩⟩
    · have hanswered' : ∀ c ∈ (⟨.hasPendingInvoice r.id, .ok false⟩ : Call) :: calls,
          c.isRefused = false := by simpa using hanswered
      rcases hcase with ⟨hnone, hsame⟩ | ⟨package, i, hsome, hi, htouch, haccount⟩
      · rw [hsame]
        exact ⟨.refl _ _, hown, .of_no_package hno (hfind ▸ hnone)⟩
      · exact ⟨htouch, hown, .of_package hanswered' hno (hfind ▸ hsome) hi haccount⟩

theorem run_renewOne {dueDays : Nat} {r : Subscription} {w w' : World}
    {outcome : Outcome RenewalOutcome} (hrun : env.run (renew dueDays r) w = (outcome, w'))
    (hhalt : ∀ fault, outcome ≠ .halted fault) (report : RunReport) :
    ∃ report', env.run (renewOne dueDays report r) w = (.done report', w') ∧
      report'.expirationsIncomplete = report.expirationsIncomplete := by
  cases outcome with
  | halted fault => exact absurd rfl (hhalt fault)
  | failed e =>
    refine ⟨_, by simp [renewOne, hrun]; rfl, ?_⟩
    rfl
  | done outcome =>
    cases outcome with
    | invoiced =>
      refine ⟨_, by simp [renewOne, hrun]; rfl, ?_⟩
      rfl
    | cancelled =>
      refine ⟨_, by simp [renewOne, hrun]; rfl, ?_⟩
      rfl

def renewalEffect (s : Store) : Effect := fun r calls before after =>
  Call.IsRenewal r.id calls ∧ Renewed s r calls before after

theorem works_renewOne (dueDays : Nat) (s : Store) :
    Works env (renewalEffect s) s.packages (renewOne dueDays) := by
  intro report r w hp hr
  obtain ⟨outcome, w', calls, hrun, hhalt, hcalls, htouch, hown, heffect⟩ :=
    run_renew env dueDays hp hr
  obtain ⟨report', hrun', hreport⟩ := run_renewOne env hrun hhalt report
  exact ⟨report', w', calls, hrun', hreport, hcalls, htouch, hown, heffect⟩

end DailyRun

end RecurringBilling
