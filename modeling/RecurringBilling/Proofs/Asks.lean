import RecurringBilling.Proofs.Lifecycle

/-! What a procedure asks of the storage, whatever is answered, given the times that the clock may
show. What each of its requests keeps is then kept by every run of it. -/

namespace RecurringBilling

/-- Whether the time is one that the clock may show. -/
def Chances.Shows (env : Chances) (t : Instant) : Prop := ∃ w, t = (env w).now

theorem Chances.shows_now (env : Chances) (w : World) : env.Shows (env w).now := ⟨w, rfl⟩

namespace Procedure

variable {α β : Type} {times : Instant → Prop} {ok : Request → Prop} {r : Request}

/-- Every request that the procedure comes to is one of those, if the clock shows only such
times. -/
def Asks (times : Instant → Prop) (ok : Request → Prop) : Procedure α → Prop
  | done _ => True
  | fail _ => True
  | halt _ => True
  | ask r next => ok r ∧ ∀ reply, (next reply).Asks times ok
  | note _ next => next.Asks times ok
  | announce _ next => next.Asks times ok
  | clock next => ∀ now, times now → (next now).Asks times ok
  | drawNumber next => ∀ number, (next number).Asks times ok

theorem Asks.bind {p : Procedure α} {f : α → Procedure β} (hp : p.Asks times ok)
    (hf : ∀ a, (f a).Asks times ok) : (p >>= f).Asks times ok := by
  change (p.bind f).Asks times ok
  induction p with
  | done a => exact hf a
  | fail e => trivial
  | halt fault => trivial
  | ask r next ih => exact ⟨hp.1, fun reply => ih reply (hp.2 reply)⟩
  | note record next ih => exact ih hp
  | announce event next ih => exact ih hp
  | clock next ih => exact fun now hnow => ih now (hp now hnow)
  | drawNumber next ih => exact fun number => ih number (hp number)

theorem Asks.attempt {p : Procedure α} (hp : p.Asks times ok) : p.attempt.Asks times ok := by
  induction p with
  | done a => trivial
  | fail e => trivial
  | halt fault => trivial
  | ask r next ih => exact ⟨hp.1, fun reply => ih reply (hp.2 reply)⟩
  | note record next ih => exact ih hp
  | announce event next ih => exact ih hp
  | clock next ih => exact fun now hnow => ih now (hp now hnow)
  | drawNumber next ih => exact fun number => ih number (hp number)

theorem Asks.foldlM {f : β → α → Procedure β} (hf : ∀ b a, (f b a).Asks times ok) (rows : List α)
    (b : β) : (rows.foldlM f b).Asks times ok := by
  induction rows generalizing b with
  | nil => trivial
  | cons a rest ih => exact (hf b a).bind ih

theorem asks_log {level : LogLevel} {target message : String}
    {fields : List (String × LogValue)} : (log level target message fields).Asks times ok := trivial

theorem asks_request (h : ok r) : (request r).Asks times ok := by
  refine ⟨h, fun reply => ?_⟩
  cases reply <;> trivial

theorem asks_requestOr {level : LogLevel} {target message : String}
    {fields : StorageError → List (String × LogValue)} (h : ok r) :
    (requestOr r fun e => log level target message (fields e)).Asks times ok := by
  refine ⟨h, fun reply => ?_⟩
  cases reply <;> trivial

theorem asks_any (times : Instant → Prop) (p : Procedure α) : p.Asks times fun _ => True := by
  induction p with
  | done a => trivial
  | fail e => trivial
  | halt fault => trivial
  | ask r next ih => exact ⟨trivial, ih⟩
  | note record next ih => exact ih
  | announce event next ih => exact ih
  | clock next ih => exact fun now _ => ih now
  | drawNumber next ih => exact ih

/-- What those requests keep at those times is kept by a run. -/
theorem Asks.run {p : Procedure α} (hp : p.Asks times ok) {env : Chances}
    (htimes : ∀ w, times (env w).now) (inv : Store → Prop)
    (hstep : ∀ {s now r reply s'}, times now → ok r → inv s →
      s.answer now r = .ok (reply, s') → inv s') {w : World} (hw : inv w.store) :
    inv (env.run p w).2.store := by
  induction p generalizing w with
  | done a => exact hw
  | fail e => exact hw
  | halt fault => exact hw
  | ask r next ih =>
    rw [env.run_ask]
    rcases w.answer_cases (env w) r with ⟨e, ha⟩ | ⟨reply, s, _, hs, ha⟩ | ⟨fault, _, ha⟩
    · rw [ha]
      exact ih _ (hp.2 _) hw
    · rw [ha]
      exact ih _ (hp.2 _) (hstep (htimes w) hp.1 hw hs)
    · rw [ha]
      exact hw
  | note record next ih => exact ih hp hw
  | announce event next ih => exact ih hp (w := w.announced event) hw
  | clock next ih => exact ih _ (hp _ (htimes w)) hw
  | drawNumber next ih => exact ih _ (hp _) hw

end Procedure

open Procedure

namespace Invoicing

variable {times : Instant → Prop} {ok : Request → Prop}

theorem asks_create (draft : InvoiceDraft)
    (h : ∀ number, ok (.createInvoice { issuedRow draft number with invoiceNumber := number })) :
    (create draft).Asks times ok := by
  unfold create
  split
  · exact (asks_requestOr (h _)).bind fun _ => asks_log.bind fun _ => trivial
  · intro number
    exact (asks_requestOr (h number)).bind fun _ => asks_log.bind fun _ => trivial

theorem asks_generate (dueDays : Nat) (r : Subscription) (amount : Option Decimal)
    (hfind : ok (.findPackage r.packageId))
    (h : ∀ row : NewInvoice, row.status = InvoiceStatus.pending.word → ok (.createInvoice row)) :
    (generate dueDays r amount).Asks times ok := by
  refine (asks_request hfind).bind fun found => ?_
  cases found with
  | none => trivial
  | some package =>
    exact fun now _ => asks_create (draftOf dueDays r amount package now) fun _ => h _ rfl

end Invoicing

end RecurringBilling
