import RecurringBilling.DailyRun
import RecurringBilling.Proofs.Interleaving
import RecurringBilling.Proofs.Lifecycle

/-! What the runs of a day keep, told by what they write: a cancelled or an expired subscription, or
an invoice. -/

namespace RecurringBilling

open Procedure

namespace Invoicing

variable {inv : Store → Prop}

theorem keeps_create (h : ∀ s now row, inv s → inv (s.createInvoice now row).2)
    (draft : InvoiceDraft) : (create draft).Keeps inv fun _ => True := by
  have hcreate : ∀ (row : NewInvoice) now (s : Store) i s', inv s →
      s.answer now (.createInvoice row) = .ok (i, s') → inv s' ∧ True := by
    intro row now s i s' hs ha
    obtain rfl : (s.createInvoice now row).2 = s' := by
      simpa [Store.answer] using congrArg Prod.snd (Except.ok.inj ha)
    exact ⟨h s now row hs, trivial⟩
  unfold create
  split
  · refine (keeps_requestOr _ (fun _ => keeps_log) (hcreate _)).bind fun _ _ => ?_
    exact keeps_log.bind fun _ _ => trivial
  · intro number
    refine (keeps_requestOr _ (fun _ => keeps_log) (hcreate _)).bind fun _ _ => ?_
    exact keeps_log.bind fun _ _ => trivial

theorem keeps_generate (h : ∀ s now row, inv s → inv (s.createInvoice now row).2) (dueDays : Nat)
    (r : Subscription) (amount : Option Decimal) :
    (generate dueDays r amount).Keeps inv fun _ => True := by
  refine (keeps_request (fun _ => True) ?_).bind fun found _ => ?_
  · rintro now s found s' hs ⟨⟩
    exact ⟨hs, trivial⟩
  · cases found with
    | none => trivial
    | some package => exact fun now => keeps_create h (draftOf dueDays r amount package now)

end Invoicing

theorem Subscribing.keeps_cancel {inv : Store → Prop} {r : Subscription} {immediate : Bool}
    {reason : Option String} (h : ∀ {s s' : Store} {row : Subscription} (now : Instant), inv s →
      s.updateSubscription r.id (cancellation now immediate reason) = .ok (row, s') → inv s') :
    (cancel r immediate reason).Keeps inv fun _ => True := by
  refine keeps_log.bind fun _ _ => ?_
  intro now
  refine (keeps_requestOr (fun _ => True) (fun _ => keeps_log) ?_).bind fun _ _ =>
    keeps_log.bind fun _ _ => trivial
  exact fun _ s row s' hs ha => ⟨h now hs ha, trivial⟩

namespace DailyRun

/-- The changes that expire a subscription. -/
def expiry (now : Instant) : SubscriptionChanges :=
  { status := .set SubscriptionStatus.expired.word, updatedAt := now }

/-- To expire what was listed keeps the invariant. -/
structure KeepsExpiry (inv : Store → Prop) : Prop where
  expire : ∀ {s : Store} {date : Date} {listed : List Subscription}, inv s →
    s.expiring date (some false) = .ok listed → ∀ r ∈ listed, ∀ {s₁ s₂ : Store} {row : Subscription}
      (now : Instant), inv s₁ → s₁.updateSubscription r.id (expiry now) = .ok (row, s₂) → inv s₂

/-- All that a run writes keeps the invariant. -/
structure Keeps (inv : Store → Prop) : Prop extends KeepsExpiry inv where
  cancel : ∀ {s s' : Store} {id : Id} {row : Subscription} (now : Instant), inv s →
    s.updateSubscription id
      (Subscribing.cancellation now false (some pendingInvoiceReason)) = .ok (row, s') → inv s'
  invoice : ∀ (s : Store) (now : Instant) (row : NewInvoice), inv s → inv (s.createInvoice now row).2

variable {inv : Store → Prop}

theorem keeps_listing (date : Date) (renews : Option Bool) :
    (request (.listExpiring date renews)).Keeps inv fun listed =>
      ∃ s, inv s ∧ s.expiring date renews = .ok listed := by
  refine keeps_request _ ?_
  intro now s listed s' hs ha
  cases hl : s.expiring date renews with
  | error refusal => simp [Store.answer, hl, Except.map] at ha
  | ok rows =>
    simp only [Store.answer, hl, Except.map, Except.ok.injEq, Prod.mk.injEq] at ha
    obtain ⟨rfl, rfl⟩ := ha
    exact ⟨hs, s, hs, hl⟩

theorem KeepsExpiry.expirations (h : KeepsExpiry inv) (date : Date) (report : RunReport) :
    (expirations date report).Keeps inv fun _ => True := by
  refine (keeps_listing date (some false)).bind ?_
  rintro listed ⟨s, hs, hl⟩
  refine Procedure.Keeps.foldlM ?_ _
  intro report r hr
  unfold expireOne
  split
  · trivial
  · intro now
    refine (keeps_request (fun _ => True) ?_).attempt.bind fun result _ => ?_
    · exact fun _ s₁ row s₂ hs₁ ha => ⟨h.expire hs hl r hr now hs₁ ha, trivial⟩
    · split
      · exact keeps_log.bind fun _ _ => trivial
      · exact keeps_log.bind fun _ _ => trivial

theorem KeepsExpiry.expirationsOrIncomplete (h : KeepsExpiry inv) (date : Date)
    (report : RunReport) :
    (expirationsOrIncomplete date report).Keeps inv fun _ => True := by
  refine (h.expirations date report).attempt.bind fun result _ => ?_
  split
  · trivial
  · exact keeps_log.bind fun _ _ => trivial

theorem KeepsExpiry.runExpirations (h : KeepsExpiry inv) (date : Date) :
    (runExpirations date).Keeps inv fun _ => True :=
  (h.expirations date {}).bind fun _ _ => keeps_log.bind fun _ _ => trivial

variable (h : Keeps inv)

include h

theorem Keeps.renew (dueDays : Nat) (r : Subscription) :
    (renew dueDays r).Keeps inv fun _ => True := by
  refine (keeps_request (fun _ => True) ?_).bind fun pending _ => ?_
  · rintro now s pending s' hs ⟨⟩
    exact ⟨hs, trivial⟩
  split
  · exact (Subscribing.keeps_cancel h.cancel).bind fun _ _ => keeps_log.bind fun _ _ => trivial
  · exact (Invoicing.keeps_generate h.invoice dueDays r none).bind fun _ _ =>
      keeps_log.bind fun _ _ => trivial

theorem Keeps.renewOne (dueDays : Nat) (report : RunReport) (r : Subscription) :
    (renewOne dueDays report r).Keeps inv fun _ => True := by
  refine (h.renew dueDays r).attempt.bind fun result _ => ?_
  split
  · trivial
  · trivial
  · exact keeps_log.bind fun _ _ => trivial

theorem Keeps.renewals (dueDays : Nat) (date : Date) (report : RunReport) :
    (renewals dueDays date report).Keeps inv fun _ => True :=
  (keeps_listing date (some true)).bind fun _ _ =>
    Procedure.Keeps.foldlM (fun report r _ => h.renewOne dueDays report r) _

theorem Keeps.run (dueDays : Nat) (date : Date) : (run dueDays date).Keeps inv fun _ => True := by
  refine keeps_log.bind fun _ _ => ?_
  refine (h.renewals dueDays date {}).bind fun report _ => ?_
  exact (h.expirationsOrIncomplete date report).bind fun _ _ => keeps_log.bind fun _ _ => trivial

end DailyRun

end RecurringBilling
