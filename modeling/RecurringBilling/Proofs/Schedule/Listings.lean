import RecurringBilling.Proofs.DailyRun.Parts
import RecurringBilling.Proofs.Lifecycle

/-! The listings that a run makes. Only they can halt a run of a day, and everything between two of
them always comes to its end. -/

namespace RecurringBilling

/-- A listing of the subscriptions that end on a date, refused or answered. -/
structure Listing where
  date : Date
  autoRenew : Option Bool
  isRefused : Bool
  deriving DecidableEq

namespace Call

def listing? (c : Call) : Option Listing :=
  match c.request with
  | .listExpiring date autoRenew => some ⟨date, autoRenew, c.isRefused⟩
  | _ => none

def listings (calls : List Call) : List Listing := calls.filterMap listing?

@[simp] theorem listings_append (calls calls' : List Call) :
    listings (calls ++ calls') = listings calls ++ listings calls' := List.filterMap_append

theorem listing?_eq_some {c : Call} {l : Listing} :
    c.listing? = some l ↔
      c.request = .listExpiring l.date l.autoRenew ∧ c.isRefused = l.isRefused := by
  obtain ⟨date, autoRenew, refused⟩ := l
  unfold listing?
  split
  · rename_i hreq
    simp [hreq, and_assoc]
  · rename_i hreq
    simp only [reduceCtorEq, false_iff]
    exact fun h => hreq _ _ h.1

theorem answered_iff (calls : List Call) (date : Date) (autoRenew : Option Bool) :
    Answered calls (.listExpiring date autoRenew) ↔ ⟨date, autoRenew, false⟩ ∈ listings calls := by
  simp [Answered, listings, listing?_eq_some]

theorem refused_iff (calls : List Call) (date : Date) (autoRenew : Option Bool) :
    Refused calls (.listExpiring date autoRenew) ↔ ⟨date, autoRenew, true⟩ ∈ listings calls := by
  simp [Refused, listings, listing?_eq_some]

end Call

namespace Store

variable {s : Store} {now : Instant} {fault : ArithmeticFault}

/-- Arithmetic halts a listing alone; where another request overflows, the storage refuses it. -/
theorem answer_fault {r : Request} (h : s.answer now r = .error (.fault fault)) :
    ∃ date autoRenew, r = .listExpiring date autoRenew := by
  cases r with
  | listExpiring date autoRenew => exact ⟨date, autoRenew, rfl⟩
  | updateSubscription id changes => exact absurd h updated_ne_fault
  | setInvoiceStatus id status => exact absurd h updated_ne_fault
  | markInvoicePaid id paidAt => exact absurd h updated_ne_fault
  | setTransactionStatus id status response => exact absurd h updated_ne_fault
  | recordRefund id amount reason refundedAt => exact absurd h updated_ne_fault
  | switchPlan id changes row items =>
    simp only [answer, switchPlan] at h
    split at h
    · rename_i refusal hu
      obtain rfl : refusal = .fault fault := by simpa using h
      exact absurd hu updated_ne_fault
    · simp at h
  | incrementUsage id amount limit =>
    simp only [answer, incrementUsage] at h
    repeat' split at h
    all_goals simp at h
  | resetUsage id =>
    simp only [answer, resetUsage] at h
    split at h <;> simp at h
  | totalRevenue =>
    simp only [answer, totalRevenue] at h
    split at h <;> simp [Except.map] at h
  | _ => simp [answer] at h

end Store

namespace Procedure

variable {α β : Type} {mayFail : Prop}

/-- A procedure that lists nothing and does not halt. What it gives meets the condition, and it
fails only if it may. -/
def ListsNothing (mayFail : Prop) (post : α → Prop) : Procedure α → Prop
  | done a => post a
  | fail _ => mayFail
  | halt _ => False
  | ask r next => (∀ date autoRenew, r ≠ .listExpiring date autoRenew) ∧
      ∀ reply, (next reply).ListsNothing mayFail post
  | note _ next => next.ListsNothing mayFail post
  | announce _ next => next.ListsNothing mayFail post
  | clock next => ∀ now, (next now).ListsNothing mayFail post
  | drawNumber next => ∀ number, (next number).ListsNothing mayFail post

namespace ListsNothing

theorem bind {mid : α → Prop} {post : β → Prop} {p : Procedure α} {f : α → Procedure β}
    (hp : p.ListsNothing mayFail mid) (hf : ∀ a, mid a → (f a).ListsNothing mayFail post) :
    (p >>= f).ListsNothing mayFail post := by
  change (p.bind f).ListsNothing mayFail post
  induction p with
  | done a => exact hf a hp
  | fail e => exact hp
  | halt fault => exact hp
  | ask r next ih => exact ⟨hp.1, fun reply => ih reply (hp.2 reply)⟩
  | note record next ih => exact ih hp
  | announce event next ih => exact ih hp
  | clock next ih => exact fun now => ih now (hp now)
  | drawNumber next ih => exact fun number => ih number (hp number)

theorem attempt {post : α → Prop} {p : Procedure α} (hp : p.ListsNothing mayFail post) :
    p.attempt.ListsNothing False fun _ => True := by
  induction p with
  | done a => trivial
  | fail e => trivial
  | halt fault => exact hp
  | ask r next ih => exact ⟨hp.1, fun reply => ih reply (hp.2 reply)⟩
  | note record next ih => exact ih hp
  | announce event next ih => exact ih hp
  | clock next ih => exact fun now => ih now (hp now)
  | drawNumber next ih => exact fun number => ih number (hp number)

theorem log {level : LogLevel} {target message : String} {fields : List (String × LogValue)} :
    (Procedure.log level target message fields).ListsNothing mayFail fun _ => True := trivial

theorem request {r : Request} (h : ∀ date autoRenew, r ≠ .listExpiring date autoRenew) :
    (Procedure.request r).ListsNothing True fun _ => True := by
  refine ⟨h, fun reply => ?_⟩
  cases reply <;> trivial

theorem requestOr {r : Request} (h : ∀ date autoRenew, r ≠ .listExpiring date autoRenew)
    {complain : StorageError → Procedure Unit}
    (hc : ∀ e, (complain e).ListsNothing True fun _ => True) :
    (Procedure.requestOr r complain).ListsNothing True fun _ => True := by
  refine ⟨h, fun reply => ?_⟩
  cases reply with
  | ok reply => trivial
  | error e => exact (hc e).bind fun _ _ => trivial

theorem foldlM {inv : β → Prop} {f : β → α → Procedure β}
    (hf : ∀ b a, inv b → (f b a).ListsNothing mayFail inv) (rows : List α) {b : β} (hb : inv b) :
    (rows.foldlM f b).ListsNothing mayFail inv := by
  induction rows generalizing b with
  | nil => exact hb
  | cons a rest ih => exact (hf b a hb).bind fun b hb => ih hb

theorem run {post : α → Prop} {p : Procedure α} (hp : p.ListsNothing mayFail post)
    (env : Chances) (w : World) :
    ∃ outcome w' calls, env.run p w = (outcome, w') ∧ w'.calls = w.calls ++ calls ∧
      Call.listings calls = [] ∧
      ((∃ a, outcome = .done a ∧ post a) ∨ mayFail ∧ ∃ e, outcome = .failed e) := by
  unfold Chances.run
  induction p generalizing w with
  | done a => exact ⟨.done a, w, [], rfl, by simp, rfl, .inl ⟨a, rfl, hp⟩⟩
  | fail e => exact ⟨.failed e, w, [], rfl, by simp, rfl, .inr ⟨hp, e, rfl⟩⟩
  | halt fault => exact hp.elim
  | ask r next ih =>
    have hfault : ∀ fault, w.store.answer (env w).now r ≠ .error (.fault fault) := by
      intro fault h
      obtain ⟨date, autoRenew, hr⟩ := Store.answer_fault h
      exact hp.1 date autoRenew hr
    have hcall : ∃ reply w₁, w.answer (env w) r = (.ok reply, w₁) ∧
        w₁.calls = w.calls ++ [⟨r, reply⟩] := by
      rcases w.answer_cases_of_ne_fault (env w) r hfault with
        ⟨e, w₁, ha, _, hw⟩ | ⟨a, w₁, ha, _, hw⟩
      · exact ⟨.error e, w₁, ha, hw⟩
      · exact ⟨.ok a, w₁, ha, hw⟩
    obtain ⟨reply, w₁, ha, hw₁⟩ := hcall
    obtain ⟨outcome, w', calls, hrun, hw', hcalls, hpost⟩ := ih reply (hp.2 reply) w₁
    refine ⟨outcome, w', ⟨r, reply⟩ :: calls, ?_, ?_, ?_, hpost⟩
    · simp only [Procedure.run, Chances.backend, ha]
      exact hrun
    · rw [hw', hw₁, List.append_assoc]
      rfl
    · have hnone : Call.listing? ⟨r, reply⟩ = none := by
        rw [Option.eq_none_iff_forall_ne_some]
        intro l hl
        exact hp.1 _ _ (Call.listing?_eq_some.mp hl).1
      rw [Call.listings, List.filterMap_cons_none hnone]
      exact hcalls
  | note record next ih => exact ih hp w
  | announce event next ih =>
    obtain ⟨outcome, w', calls, h⟩ := ih hp (w.announced event)
    exact ⟨outcome, w', calls, h⟩
  | clock next ih => exact ih _ (hp _) w
  | drawNumber next ih => exact ih _ (hp _) w

end ListsNothing

end Procedure

/-- However a procedure is run, if arithmetic does not halt it, then its result and the listings
that it made meet the condition. -/
def Chances.Lists {α : Type} (env : Chances) (p : Procedure α)
    (post : Except BillingError α → List Listing → Prop) : Prop :=
  ∀ w, ∃ outcome w' calls, env.run p w = (outcome, w') ∧ w'.calls = w.calls ++ calls ∧
    ((∃ fault, outcome = .halted fault) ∨
      (∃ a, outcome = .done a ∧ post (.ok a) (Call.listings calls)) ∨
      ∃ e, outcome = .failed e ∧ post (.error e) (Call.listings calls))

namespace Chances.Lists

variable {α β : Type} {env : Chances}

theorem of_run {post : Except BillingError α → List Listing → Prop} {p : Procedure α}
    (hp : env.Lists p post) {w w' : World} {outcome : Outcome α}
    (hrun : env.run p w = (outcome, w')) :
    ∃ calls, w'.calls = w.calls ++ calls ∧
      ((∃ fault, outcome = .halted fault) ∨
        (∃ a, outcome = .done a ∧ post (.ok a) (Call.listings calls)) ∨
        ∃ e, outcome = .failed e ∧ post (.error e) (Call.listings calls)) := by
  obtain ⟨_, _, calls, hrun', hw, hcase⟩ := hp w
  cases hrun.symm.trans hrun'
  exact ⟨calls, hw, hcase⟩

theorem calls_of_done {post : Except BillingError α → List Listing → Prop} {p : Procedure α}
    (hp : env.Lists p post) {w w' : World} {a : α} (hrun : env.run p w = (.done a, w')) :
    ∃ calls, w'.calls = w.calls ++ calls ∧ post (.ok a) (Call.listings calls) := by
  obtain ⟨calls, hw, hcase⟩ := hp.of_run hrun
  exact ⟨calls, hw, by simpa using hcase⟩

theorem of_done {post : Except BillingError α → List Listing → Prop} {p : Procedure α}
    (hp : env.Lists p post) {w w' : World} {a : α} (hrun : env.run p w = (.done a, w')) :
    ∃ listings, Call.listings w'.calls = Call.listings w.calls ++ listings ∧
      post (.ok a) listings := by
  obtain ⟨calls, hw, hlisted⟩ := hp.calls_of_done hrun
  exact ⟨_, by rw [hw, Call.listings_append], hlisted⟩

theorem of_failed {post : Except BillingError α → List Listing → Prop} {p : Procedure α}
    (hp : env.Lists p post) {w w' : World} {e : BillingError}
    (hrun : env.run p w = (.failed e, w')) :
    ∃ listings, Call.listings w'.calls = Call.listings w.calls ++ listings ∧
      post (.error e) listings := by
  obtain ⟨calls, hw, hcase⟩ := hp.of_run hrun
  exact ⟨Call.listings calls, by rw [hw, Call.listings_append], by simpa using hcase⟩

theorem pure {post : Except BillingError α → List Listing → Prop} {a : α} (h : post (.ok a) []) :
    env.Lists (Pure.pure a) post :=
  fun w => ⟨.done a, w, [], rfl, by simp, .inr (.inl ⟨a, rfl, h⟩)⟩

theorem mono {post post' : Except BillingError α → List Listing → Prop} {p : Procedure α}
    (hp : env.Lists p post) (h : ∀ r listings, post r listings → post' r listings) :
    env.Lists p post' := by
  intro w
  obtain ⟨outcome, w', calls, hrun, hw', hcase⟩ := hp w
  refine ⟨outcome, w', calls, hrun, hw', ?_⟩
  rcases hcase with hhalted | ⟨a, rfl, ha⟩ | ⟨e, rfl, he⟩
  · exact .inl hhalted
  · exact .inr (.inl ⟨a, rfl, h _ _ ha⟩)
  · exact .inr (.inr ⟨e, rfl, h _ _ he⟩)

theorem bind {mid : Except BillingError α → List Listing → Prop}
    {post : Except BillingError β → List Listing → Prop} {p : Procedure α} {f : α → Procedure β}
    (hp : env.Lists p mid)
    (hf : ∀ a listings, mid (.ok a) listings →
      env.Lists (f a) fun r more => post r (listings ++ more))
    (he : ∀ e listings, mid (.error e) listings → post (.error e) listings) :
    env.Lists (p >>= f) post := by
  intro w
  obtain ⟨outcome, w₁, calls₁, hrun₁, hw₁, hcase⟩ := hp w
  rcases hcase with ⟨fault, rfl⟩ | ⟨a, rfl, ha⟩ | ⟨e, rfl, hfailed⟩
  · exact ⟨.halted fault, w₁, calls₁, by simp [hrun₁], hw₁, .inl ⟨fault, rfl⟩⟩
  · obtain ⟨outcome, w₂, calls₂, hrun₂, hw₂, hcase⟩ := hf a _ ha w₁
    refine ⟨outcome, w₂, calls₁ ++ calls₂, by simp [hrun₁, hrun₂], by simp [hw₂, hw₁], ?_⟩
    simpa using hcase
  · exact ⟨.failed e, w₁, calls₁, by simp [hrun₁], hw₁, .inr (.inr ⟨e, rfl, he e _ hfailed⟩)⟩

theorem attempt {post : Except BillingError α → List Listing → Prop} {p : Procedure α}
    (hp : env.Lists p post) :
    env.Lists p.attempt fun result listings => ∃ r, result = .ok r ∧ post r listings := by
  intro w
  obtain ⟨outcome, w', calls, hrun, hw', hcase⟩ := hp w
  rcases hcase with ⟨fault, rfl⟩ | ⟨a, rfl, ha⟩ | ⟨e, rfl, hfailed⟩
  · exact ⟨.halted fault, w', calls, by simp [hrun], hw', .inl ⟨fault, rfl⟩⟩
  · exact ⟨.done (.ok a), w', calls, by simp [hrun], hw', .inr (.inl ⟨_, rfl, _, rfl, ha⟩)⟩
  · exact ⟨.done (.error e), w', calls, by simp [hrun], hw', .inr (.inl ⟨_, rfl, _, rfl, hfailed⟩)⟩

theorem after_log {post : Except BillingError α → List Listing → Prop} {level : LogLevel}
    {target message : String} {fields : List (String × LogValue)} {p : Procedure α}
    (hp : env.Lists p post) :
    env.Lists (Procedure.log level target message fields >>= fun _ => p) post := hp

theorem andThen {mid : Except BillingError α → List Listing → Prop}
    {post : Except BillingError β → List Listing → Prop} {p : Procedure α} {f : α → Procedure β}
    (hp : env.Lists p mid) (last : α → β → Prop) (hf : ∀ a, (f a).ListsNothing False (last a))
    (hok : ∀ a b listings, mid (.ok a) listings → last a b → post (.ok b) listings)
    (he : ∀ e listings, mid (.error e) listings → post (.error e) listings) :
    env.Lists (p >>= f) post := by
  refine hp.bind (fun a listings ha w => ?_) he
  obtain ⟨outcome, w', calls, hrun, hw', hcalls, hpost⟩ := (hf a).run env w
  rcases hpost with ⟨b, rfl, hb⟩ | ⟨hmay, _⟩
  · refine ⟨.done b, w', calls, hrun, hw', .inr (.inl ⟨b, rfl, ?_⟩)⟩
    change post (.ok b) (listings ++ Call.listings calls)
    rw [hcalls, List.append_nil]
    exact hok a b listings ha hb
  · exact hmay.elim

/-- After an attempt, whether it was done or refused, what goes on without a listing leads to a
result that fits what was listed. -/
theorem andThen_attempt {mid : Except BillingError α → List Listing → Prop}
    {post : Except BillingError β → List Listing → Prop} {p : Procedure α}
    {f : Except BillingError α → Procedure β} (hp : env.Lists p mid)
    (hf : ∀ r, (f r).ListsNothing False fun b => ∀ listings, mid r listings →
      post (.ok b) listings) :
    env.Lists (p.attempt >>= f) post := by
  refine hp.attempt.andThen _ hf ?_ ?_
  · rintro r b listings ⟨_, hresult, hlisted⟩ hb
    cases hresult
    exact hb listings hlisted
  · rintro e listings ⟨_, hresult, _⟩
    cases hresult

theorem listExpiring (date : Date) (autoRenew : Option Bool) :
    env.Lists (Procedure.request (.listExpiring date autoRenew)) fun result listings =>
      listings = [⟨date, autoRenew, !result.isOk⟩] := by
  intro w
  rcases DailyRun.answer_listExpiring (env w) date autoRenew w with
    ⟨e, w', ha, _, hw⟩ | ⟨_, fault, ha⟩ | ⟨listed, w', ha, _, _, hw⟩
  · exact ⟨.failed (.storage e), w', _, by simp [ha], hw, .inr (.inr ⟨_, rfl, rfl⟩)⟩
  · exact ⟨.halted fault, w, [], by simp [ha], by simp, .inl ⟨fault, rfl⟩⟩
  · exact ⟨.done listed, w', _, by simp [ha], hw, .inr (.inl ⟨_, rfl, rfl⟩)⟩

end Chances.Lists

namespace DailyRun

open Procedure

theorem cancel_listsNothing (r : Subscription) (immediate : Bool) (reason : Option String) :
    (Subscribing.cancel r immediate reason).ListsNothing True fun _ => True :=
  ListsNothing.log.bind fun _ _ _ =>
    (ListsNothing.requestOr (by simp) fun _ => .log).bind fun _ _ =>
      ListsNothing.log.bind fun _ _ => trivial

theorem create_listsNothing (draft : InvoiceDraft) :
    (Invoicing.create draft).ListsNothing True fun _ => True := by
  unfold Invoicing.create
  split
  · refine (ListsNothing.requestOr (by simp) fun _ => .log).bind fun invoice _ => ?_
    exact ListsNothing.log.bind fun _ _ => trivial
  · intro drawn
    refine (ListsNothing.requestOr (by simp) fun _ => .log).bind fun invoice _ => ?_
    exact ListsNothing.log.bind fun _ _ => trivial

theorem generate_listsNothing (dueDays : Nat) (r : Subscription) (amount : Option Decimal) :
    (Invoicing.generate dueDays r amount).ListsNothing True fun _ => True := by
  refine (ListsNothing.request (by simp)).bind fun found _ => ?_
  cases found with
  | none => trivial
  | some package =>
    exact fun now => create_listsNothing (Invoicing.draftOf dueDays r amount package now)

theorem renew_listsNothing (dueDays : Nat) (r : Subscription) :
    (renew dueDays r).ListsNothing True fun _ => True := by
  refine (ListsNothing.request (by simp)).bind fun pending _ => ?_
  split
  · exact (cancel_listsNothing r false _).bind fun _ _ => ListsNothing.log.bind fun _ _ => trivial
  · exact (generate_listsNothing dueDays r none).bind fun _ _ =>
      ListsNothing.log.bind fun _ _ => trivial

theorem renewOne_listsNothing (dueDays : Nat) {incomplete : Bool} (report : RunReport)
    (r : Subscription) (h : report.expirationsIncomplete = incomplete) :
    (renewOne dueDays report r).ListsNothing False (·.expirationsIncomplete = incomplete) := by
  refine (renew_listsNothing dueDays r).attempt.bind fun result _ => ?_
  split
  · exact h
  · exact h
  · exact ListsNothing.log.bind fun _ _ => h

theorem expireOne_listsNothing {incomplete : Bool} (report : RunReport) (r : Subscription)
    (h : report.expirationsIncomplete = incomplete) :
    (expireOne report r).ListsNothing False (·.expirationsIncomplete = incomplete) := by
  unfold expireOne
  split
  · exact h
  · intro now
    refine (ListsNothing.request (by simp)).attempt.bind fun result _ => ?_
    split
    · exact ListsNothing.log.bind fun _ _ => h
    · exact ListsNothing.log.bind fun _ _ => h

/-- One listing, which is refused if the run fails. -/
def ListedOnce (date : Date) (renews : Bool) (inv : RunReport → Prop) :
    Except BillingError RunReport → List Listing → Prop
  | .ok r, listings => inv r ∧ listings = [⟨date, some renews, false⟩]
  | .error _, listings => listings = [⟨date, some renews, true⟩]

/-- Both listings of a day. The run fails if the first is refused; whether the second was is put
down in the report. -/
def ListedDay (date : Date) : Except BillingError RunReport → List Listing → Prop
  | .ok r, listings =>
    listings = [⟨date, some true, false⟩, ⟨date, some false, r.expirationsIncomplete⟩]
  | .error _, listings => listings = [⟨date, some true, true⟩]

variable (env : Chances)

/-- A loop over the rows of a listing. -/
theorem lists_each (start : List Subscription → RunReport)
    {each : RunReport → Subscription → Procedure RunReport} {inv : RunReport → Prop}
    (heach : ∀ report r, inv report → (each report r).ListsNothing False inv)
    (hstart : ∀ listed, inv (start listed)) (date : Date) (renews : Bool) :
    env.Lists (do
      let listed ← request (.listExpiring date (some renews))
      listed.foldlM each (start listed)) (ListedOnce date renews inv) := by
  refine (Chances.Lists.listExpiring date (some renews)).andThen (fun _ => inv) (fun listed => ?_)
    ?_ ?_
  · exact ListsNothing.foldlM heach listed (hstart listed)
  · exact fun listed r listings hl hr => ⟨hr, hl⟩
  · exact fun e listings hl => hl

theorem lists_renewals (dueDays : Nat) (date : Date) {report : RunReport}
    (h : report.expirationsIncomplete = false) :
    env.Lists (renewals dueDays date report)
      (ListedOnce date true (·.expirationsIncomplete = false)) :=
  lists_each env (fun listed => { report with renewalsScanned := listed.length })
    (renewOne_listsNothing dueDays) (fun _ => h) date true

theorem lists_expirations (date : Date) {report : RunReport}
    (h : report.expirationsIncomplete = false) :
    env.Lists (expirations date report)
      (ListedOnce date false (·.expirationsIncomplete = false)) :=
  lists_each env (fun listed => { report with expirationsScanned := listed.length })
    expireOne_listsNothing (fun _ => h) date false

theorem lists_expirationsOrIncomplete (date : Date) {report : RunReport}
    (h : report.expirationsIncomplete = false) :
    env.Lists (expirationsOrIncomplete date report) fun result listings =>
      ∃ r, result = .ok r ∧ listings = [⟨date, some false, r.expirationsIncomplete⟩] := by
  refine (lists_expirations env date h).andThen_attempt fun result => ?_
  cases result with
  | ok r =>
    rintro listings ⟨hcomplete, rfl⟩
    exact ⟨r, rfl, by rw [hcomplete]⟩
  | error e =>
    refine ListsNothing.log.bind fun _ _ => ?_
    rintro listings hlisted
    exact ⟨_, rfl, hlisted⟩

theorem lists_run (dueDays : Nat) (date : Date) :
    env.Lists (run dueDays date) (ListedDay date) := by
  refine (lists_renewals env dueDays date rfl).after_log.bind ?_ fun e listings hl => hl
  rintro report listings ⟨hreport, rfl⟩
  refine (lists_expirationsOrIncomplete env date hreport).andThen (fun r r' => r' = r)
    (fun r => ListsNothing.log.bind fun _ _ => rfl) ?_ ?_
  · rintro _ r listings ⟨_, hresult, rfl⟩ rfl
    cases hresult
    rfl
  · rintro e listings ⟨_, hresult, _⟩
    cases hresult

theorem lists_runExpirations (date : Date) :
    env.Lists (runExpirations date) (ListedOnce date false fun _ => True) := by
  refine (lists_expirations env date rfl).andThen (fun r r' => r' = r)
    (fun r => ListsNothing.log.bind fun _ _ => rfl) ?_ fun e listings hl => hl
  exact fun r r' listings hl _ => ⟨trivial, hl.2⟩

end DailyRun

end RecurringBilling
