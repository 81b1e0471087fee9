import RecurringBilling.Proofs.DailyRun.Invariants
import RecurringBilling.Proofs.Transcripts

/-! What a run asks for each listed subscription, and how that ends, whatever is replied. The report
of a loop over a listing is what its parts count, one after the other. -/

namespace RecurringBilling

namespace DailyRun

open Procedure RunReport

inductive RenewalEnd where
  | invoiced
  | cancelled
  | failed
  deriving DecidableEq

inductive ExpirationEnd where
  | alreadyExpired
  | expired
  | failed
  deriving DecidableEq

/-- A listed subscription, the calls made for it, and how these ended. -/
structure Handled (ω : Type) where
  row : Subscription
  calls : List Call
  outcome : ω

/-- The changes that cancel a subscription whose invoice is still pending. -/
def pendingCancellation (now : Instant) : SubscriptionChanges :=
  Subscribing.cancellation now false (some pendingInvoiceReason)

/-- The calls of a renewal, with the only ends that they can have. -/
inductive Renews (r : Subscription) : List Call → RenewalEnd → Prop where
  | pendingUnknown (e : StorageError) :
      Renews r [⟨.hasPendingInvoice r.id, .error e⟩] .failed
  | cancelled (now : Instant) (row : Subscription) :
      Renews r [⟨.hasPendingInvoice r.id, .ok true⟩,
        ⟨.updateSubscription r.id (pendingCancellation now), .ok row⟩] .cancelled
  | cancelRefused (now : Instant) (e : StorageError) :
      Renews r [⟨.hasPendingInvoice r.id, .ok true⟩,
        ⟨.updateSubscription r.id (pendingCancellation now), .error e⟩] .failed
  | packageUnknown (e : StorageError) :
      Renews r [⟨.hasPendingInvoice r.id, .ok false⟩, ⟨.findPackage r.packageId, .error e⟩] .failed
  | packageMissing :
      Renews r [⟨.hasPendingInvoice r.id, .ok false⟩, ⟨.findPackage r.packageId, .ok none⟩] .failed
  | invoiced (package : Package) {row : NewInvoice} (hrow : row.subscriptionId = r.id)
      (invoice : Invoice) :
      Renews r [⟨.hasPendingInvoice r.id, .ok false⟩,
        ⟨.findPackage r.packageId, .ok (some package)⟩, ⟨.createInvoice row, .ok invoice⟩] .invoiced
  | invoiceRefused (package : Package) {row : NewInvoice} (hrow : row.subscriptionId = r.id)
      (e : StorageError) :
      Renews r [⟨.hasPendingInvoice r.id, .ok false⟩,
        ⟨.findPackage r.packageId, .ok (some package)⟩, ⟨.createInvoice row, .error e⟩] .failed

inductive Expires (r : Subscription) : List Call → ExpirationEnd → Prop where
  | alreadyExpired (h : r.statusOf = .expired) : Expires r [] .alreadyExpired
  | expired (h : r.statusOf ≠ .expired) (now : Instant) (row : Subscription) :
      Expires r [⟨.updateSubscription r.id (expiry now), .ok row⟩] .expired
  | refused (h : r.statusOf ≠ .expired) (now : Instant) (e : StorageError) :
      Expires r [⟨.updateSubscription r.id (expiry now), .error e⟩] .failed

def tallyRenewal (report : RunReport) (x : Handled RenewalEnd) : RunReport :=
  match x.outcome with
  | .invoiced => { report with
      invoicesGenerated := report.invoicesGenerated + 1
      invoicedIds := remember report.invoicedIds x.row.id }
  | .cancelled => { report with
      cancelledPendingInvoice := report.cancelledPendingInvoice + 1
      cancelledIds := remember report.cancelledIds x.row.id }
  | .failed => { report with
      renewalFailures := report.renewalFailures + 1
      failedIds := remember report.failedIds x.row.id }

def tallyExpiration (report : RunReport) (x : Handled ExpirationEnd) : RunReport :=
  match x.outcome with
  | .alreadyExpired => report
  | .expired => { report with
      expired := report.expired + 1
      expiredIds := remember report.expiredIds x.row.id }
  | .failed => { report with
      expirationFailures := report.expirationFailures + 1
      failedIds := remember report.failedIds x.row.id }

variable {dueDays : Nat} {r : Subscription} {calls : List Call} {report : RunReport}
  {o : Outcome RunReport}

theorem hears_cancel {cancelled : Outcome Subscription}
    (h : (Subscribing.cancel r false (some pendingInvoiceReason)).Hears calls cancelled) :
    ∃ now,
      (∃ e, calls = [⟨.updateSubscription r.id (pendingCancellation now), .error e⟩] ∧
        cancelled = .failed (.storage e)) ∨
      ∃ row, calls = [⟨.updateSubscription r.id (pendingCancellation now), .ok row⟩] ∧
        cancelled = .done row := by
  obtain ⟨now, h⟩ := h
  exact ⟨now, Hears.requestOr_log h⟩

theorem hears_create {draft : InvoiceDraft} {issued : Outcome Invoice}
    (h : (Invoicing.create draft).Hears calls issued) :
    ∃ row : NewInvoice, row.subscriptionId = draft.subscriptionId ∧
      ((∃ e, calls = [⟨.createInvoice row, .error e⟩] ∧ issued = .failed (.storage e)) ∨
        ∃ invoice, calls = [⟨.createInvoice row, .ok invoice⟩] ∧ issued = .done invoice) := by
  unfold Invoicing.create at h
  split at h
  · exact ⟨_, rfl, Hears.requestOr_log h⟩
  · obtain ⟨number, h⟩ := h
    exact ⟨_, rfl, Hears.requestOr_log h⟩

theorem hears_generate {issued : Outcome Invoice}
    (h : (Invoicing.generate dueDays r none).Hears calls issued) :
    (∃ e, calls = [⟨.findPackage r.packageId, .error e⟩] ∧ issued = .failed (.storage e)) ∨
      (∃ e, calls = [⟨.findPackage r.packageId, .ok none⟩] ∧ issued = .failed e) ∨
      ∃ package, ∃ row : NewInvoice, row.subscriptionId = r.id ∧
        ((∃ e, calls = [⟨.findPackage r.packageId, .ok (some package)⟩,
            ⟨.createInvoice row, .error e⟩] ∧ issued = .failed (.storage e)) ∨
          ∃ invoice, calls = [⟨.findPackage r.packageId, .ok (some package)⟩,
            ⟨.createInvoice row, .ok invoice⟩] ∧ issued = .done invoice) := by
  rcases Hears.request_bind h with h | ⟨found, rest, rfl, hrest⟩
  · exact .inl h
  cases found with
  | none =>
    obtain ⟨rfl, rfl⟩ := hrest
    exact .inr (.inl ⟨_, rfl, rfl⟩)
  | some package =>
    obtain ⟨now, hcreate⟩ := hrest
    have hcreate : (Invoicing.create (Invoicing.draftOf dueDays r none package now)).Hears rest
      issued := hcreate
    obtain ⟨row, hrow, ⟨e, rfl, rfl⟩ | ⟨invoice, rfl, rfl⟩⟩ := hears_create hcreate
    · exact .inr (.inr ⟨package, row, hrow, .inl ⟨e, rfl, rfl⟩⟩)
    · exact .inr (.inr ⟨package, row, hrow, .inr ⟨invoice, rfl, rfl⟩⟩)

theorem hears_renew {o : Outcome RenewalOutcome} (h : (renew dueDays r).Hears calls o) :
    (Renews r calls .invoiced ∧ o = .done .invoiced) ∨
      (Renews r calls .cancelled ∧ o = .done .cancelled) ∨
      ∃ e, Renews r calls .failed ∧ o = .failed e := by
  rcases Hears.request_bind h with ⟨e, rfl, rfl⟩ | ⟨pending, rest, rfl, hrest⟩
  · exact .inr (.inr ⟨_, .pendingUnknown e, rfl⟩)
  cases pending with
  | true =>
    obtain ⟨early, late, between, rfl, hcancel, hlate⟩ := Hears.bind hrest
    obtain ⟨now, ⟨e, rfl, rfl⟩ | ⟨row, rfl, rfl⟩⟩ := hears_cancel hcancel
    all_goals obtain ⟨rfl, rfl⟩ := hlate
    · exact .inr (.inr ⟨_, .cancelRefused now e, rfl⟩)
    · exact .inr (.inl ⟨.cancelled now row, rfl⟩)
  | false =>
    obtain ⟨early, late, between, rfl, hgenerate, hlate⟩ := Hears.bind hrest
    rcases hears_generate hgenerate with ⟨e, rfl, rfl⟩ | ⟨e, rfl, rfl⟩ |
      ⟨package, row, hrow, ⟨e, rfl, rfl⟩ | ⟨invoice, rfl, rfl⟩⟩
    all_goals obtain ⟨rfl, rfl⟩ := hlate
    · exact .inr (.inr ⟨_, .packageUnknown e, rfl⟩)
    · exact .inr (.inr ⟨_, .packageMissing, rfl⟩)
    · exact .inr (.inr ⟨_, .invoiceRefused package hrow e, rfl⟩)
    · exact .inl ⟨.invoiced package hrow invoice, rfl⟩

/-- A renewal ends somehow, and the run goes on with what is counted for it. -/
theorem hears_renewOne (h : (renewOne dueDays report r).Hears calls o) :
    ∃ outcome, Renews r calls outcome ∧ o = .done (tallyRenewal report ⟨r, calls, outcome⟩) := by
  obtain ⟨early, late, between, rfl, hrenew, h⟩ := Hears.attempt_bind h
  rcases hears_renew hrenew with ⟨hcalls, rfl⟩ | ⟨hcalls, rfl⟩ | ⟨e, hcalls, rfl⟩
  all_goals
    obtain ⟨rfl, rfl⟩ := h
    rw [List.append_nil]
    exact ⟨_, hcalls, rfl⟩

theorem hears_expireOne (h : (expireOne report r).Hears calls o) :
    ∃ outcome, Expires r calls outcome ∧
      o = .done (tallyExpiration report ⟨r, calls, outcome⟩) := by
  unfold expireOne at h
  by_cases hexpired : r.statusOf = .expired
  · rw [if_pos hexpired] at h
    obtain ⟨rfl, rfl⟩ := h
    exact ⟨_, .alreadyExpired hexpired, rfl⟩
  · rw [if_neg hexpired] at h
    obtain ⟨now, h⟩ := h
    obtain ⟨early, late, between, rfl, hupdate, h⟩ := Hears.attempt_bind h
    obtain ⟨reply, rest, rfl, hreply⟩ := hupdate
    cases reply with
    | ok row =>
      obtain ⟨rfl, rfl⟩ := hreply
      obtain ⟨rfl, rfl⟩ := h
      exact ⟨_, .expired hexpired now row, rfl⟩
    | error e =>
      obtain ⟨rfl, rfl⟩ := hreply
      obtain ⟨rfl, rfl⟩ := h
      exact ⟨_, .refused hexpired now e, rfl⟩

section

variable {ω : Type} {part : RunReport → Subscription → Procedure RunReport}
  {Part : Subscription → List Call → ω → Prop} {tally : RunReport → Handled ω → RunReport}

theorem hears_foldlM
    (hpart : ∀ {report r calls o}, (part report r).Hears calls o →
      ∃ outcome, Part r calls outcome ∧ o = .done (tally report ⟨r, calls, outcome⟩))
    {listed : List Subscription} (h : (listed.foldlM part report).Hears calls o) :
    ∃ handled : List (Handled ω), handled.map (·.row) = listed ∧
      (∀ x ∈ handled, Part x.row x.calls x.outcome) ∧ calls = handled.flatMap (·.calls) ∧
      o = .done (handled.foldl tally report) := by
  induction listed generalizing report calls with
  | nil => exact ⟨[], rfl, by simp, h.1, h.2⟩
  | cons r rest ih =>
    rw [List.foldlM_cons] at h
    obtain ⟨early, late, between, rfl, hr, h⟩ := Hears.bind h
    obtain ⟨outcome, hearly, rfl⟩ := hpart hr
    obtain ⟨handled, rfl, hall, rfl, rfl⟩ := ih h
    exact ⟨⟨r, early, outcome⟩ :: handled, rfl, List.forall_mem_cons.mpr ⟨hearly, hall⟩, rfl, rfl⟩

/-- A listing with its loop: the listing is refused, or every row that it gives is handled. -/
theorem hears_listed
    (hpart : ∀ {report r calls o}, (part report r).Hears calls o →
      ∃ outcome, Part r calls outcome ∧ o = .done (tally report ⟨r, calls, outcome⟩))
    {date : Date} {renews : Bool} {start : List Subscription → RunReport}
    (h : Hears (do
      let listed ← request (.listExpiring date (some renews))
      listed.foldlM part (start listed)) calls o) :
    (∃ e, calls = [⟨.listExpiring date (some renews), .error e⟩] ∧ o = .failed (.storage e)) ∨
      ∃ handled : List (Handled ω), (∀ x ∈ handled, Part x.row x.calls x.outcome) ∧
        calls = ⟨.listExpiring date (some renews), .ok (handled.map (·.row))⟩ ::
          handled.flatMap (·.calls) ∧
        o = .done (handled.foldl tally (start (handled.map (·.row)))) := by
  rcases Hears.request_bind h with h | ⟨listed, rest, rfl, hrest⟩
  · exact .inl h
  · obtain ⟨handled, rfl, hall, rfl, rfl⟩ := hears_foldlM hpart hrest
    exact .inr ⟨handled, hall, rfl, rfl⟩

end

end DailyRun

end RecurringBilling
