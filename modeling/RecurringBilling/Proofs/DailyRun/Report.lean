import RecurringBilling.Proofs.DailyRun.Handled

/-! The report of a run adds up. Its counters and the subscriptions that it names are those of the
rows that were handled, and each counter is the number of writes of its kind that were answered. -/

namespace RecurringBilling

namespace Call

/-- Whether the call has stored an invoice. -/
def issues : Call → Bool
  | ⟨.createInvoice _, .ok _⟩ => true
  | _ => false

/-- Whether the call has given a subscription that status. -/
def gives (status : SubscriptionStatus) : Call → Bool
  | ⟨.updateSubscription _ { status := .set word, .. }, .ok _⟩ => word == status.word
  | _ => false

end Call

namespace DailyRun

open Procedure RunReport

section

variable {ω : Type} [DecidableEq ω] {e : ω} {x : Handled ω} {handled : List (Handled ω)}

/-- The subscriptions that ended so, in the order in which they were handled. -/
def idsOf (e : ω) (handled : List (Handled ω)) : List Id :=
  (handled.filter (·.outcome = e)).map (·.row.id)

@[simp] theorem idsOf_nil : idsOf e [] = [] := rfl

@[simp] theorem idsOf_cons : idsOf e (x :: handled) =
    (if x.outcome = e then [x.row.id] else []) ++ idsOf e handled := by
  by_cases hx : x.outcome = e <;> simp [idsOf, hx]

theorem idsOf_eq_flatMap (e : ω) (handled : List (Handled ω)) :
    idsOf e handled = handled.flatMap fun x => if x.outcome = e then [x.row.id] else [] :=
  (flatMap_ite (fun x : Handled ω => x.outcome = e) (fun x => x.row.id) handled).symm

theorem idsOf_sublist (e : ω) (handled : List (Handled ω)) :
    (idsOf e handled).Sublist ((handled.map (·.row)).map (·.id)) := by
  rw [List.map_map]
  exact List.filter_sublist.map _

theorem countP_calls {p : Call → Bool}
    (h : ∀ x ∈ handled, x.calls.countP p = if x.outcome = e then 1 else 0) :
    (handled.flatMap (·.calls)).countP p = (idsOf e handled).length := by
  induction handled with
  | nil => rfl
  | cons x rest ih =>
    obtain ⟨hx, hrest⟩ := List.forall_mem_cons.mp h
    rw [List.flatMap_cons, List.countP_append, hx, ih hrest, idsOf_cons]
    split <;> simp [Nat.add_comm]

omit [DecidableEq ω] in
theorem countP_calls_eq_zero {p : Call → Bool} (h : ∀ x ∈ handled, x.calls.countP p = 0) :
    (handled.flatMap (·.calls)).countP p = 0 := by
  refine List.countP_eq_zero.mpr fun c hc => ?_
  obtain ⟨x, hx, hc⟩ := List.mem_flatMap.mp hc
  exact List.countP_eq_zero.mp (h x hx) c hc

end

theorem remember_take (ids : List Id) (id : Id) :
    remember (ids.take 20) id = (ids ++ [id]).take 20 := by
  by_cases hlen : ids.length < 20
  · rw [List.take_of_length_le (by omega), List.take_of_length_le (by simp; omega)]
    exact if_pos hlen
  · have hfull : (ids.take 20).length = 20 := by simp; omega
    rw [List.take_append_of_le_length (by omega), remember, hfull]
    rfl

theorem foldl_remember (ids later : List Id) :
    later.foldl remember (ids.take 20) = (ids ++ later).take 20 := by
  induction later generalizing ids with
  | nil => simp
  | cons id rest ih => simp [remember_take, ih]

theorem foldl_remember_nil (ids : List Id) : ids.foldl remember [] = ids.take 20 := by
  simpa using foldl_remember [] ids

theorem foldl_tallyRenewal (handled : List (Handled RenewalEnd)) (report : RunReport) :
    handled.foldl tallyRenewal report = { report with
      invoicesGenerated := report.invoicesGenerated + (idsOf .invoiced handled).length
      cancelledPendingInvoice :=
        report.cancelledPendingInvoice + (idsOf .cancelled handled).length
      renewalFailures := report.renewalFailures + (idsOf .failed handled).length
      invoicedIds := (idsOf .invoiced handled).foldl remember report.invoicedIds
      cancelledIds := (idsOf .cancelled handled).foldl remember report.cancelledIds
      failedIds := (idsOf .failed handled).foldl remember report.failedIds } := by
  induction handled generalizing report with
  | nil => rfl
  | cons x rest ih =>
    rw [List.foldl_cons, ih]
    obtain ⟨row, calls, outcome⟩ := x
    cases outcome <;> simp [tallyRenewal, Nat.add_assoc, Nat.add_comm 1]

theorem foldl_tallyExpiration (handled : List (Handled ExpirationEnd)) (report : RunReport) :
    handled.foldl tallyExpiration report = { report with
      expired := report.expired + (idsOf .expired handled).length
      expirationFailures := report.expirationFailures + (idsOf .failed handled).length
      expiredIds := (idsOf .expired handled).foldl remember report.expiredIds
      failedIds := (idsOf .failed handled).foldl remember report.failedIds } := by
  induction handled generalizing report with
  | nil => rfl
  | cons x rest ih =>
    rw [List.foldl_cons, ih]
    obtain ⟨row, calls, outcome⟩ := x
    cases outcome <;> simp [tallyExpiration, Nat.add_assoc, Nat.add_comm 1]

theorem length_renewals (handled : List (Handled RenewalEnd)) :
    handled.length = (idsOf .invoiced handled).length + (idsOf .cancelled handled).length +
      (idsOf .failed handled).length := by
  induction handled with
  | nil => rfl
  | cons x rest ih =>
    obtain ⟨row, calls, outcome⟩ := x
    cases outcome <;> simp <;> omega

theorem Expires.already_iff {r : Subscription} {calls : List Call} {outcome : ExpirationEnd}
    (h : Expires r calls outcome) : outcome = .alreadyExpired ↔ r.statusOf = .expired := by
  cases h with
  | alreadyExpired h => simp [h]
  | expired h now row => simp [h]
  | refused h now e => simp [h]

theorem length_expirations {handled : List (Handled ExpirationEnd)}
    (h : ∀ x ∈ handled, Expires x.row x.calls x.outcome) :
    handled.length = (idsOf .expired handled).length + (idsOf .failed handled).length +
      handled.countP (·.row.statusOf = .expired) := by
  induction handled with
  | nil => rfl
  | cons x rest ih =>
    obtain ⟨hx, hrest⟩ := List.forall_mem_cons.mp h
    have hiff := hx.already_iff
    have ih := ih hrest
    obtain ⟨row, calls, outcome⟩ := x
    by_cases hrow : row.statusOf = .expired
    · obtain rfl := hiff.mpr hrow
      simp [hrow]
      omega
    · cases outcome with
      | alreadyExpired => exact absurd (hiff.mp rfl) hrow
      | expired => simp [hrow]; omega
      | failed => simp [hrow]; omega

/-- The writes that are answered in a renewal are those that its end speaks of. -/
theorem Renews.writes {r : Subscription} {calls : List Call} {outcome : RenewalEnd}
    (h : Renews r calls outcome) :
    (calls.countP Call.issues = if outcome = .invoiced then 1 else 0) ∧
      (calls.countP (Call.gives .cancelled) = if outcome = .cancelled then 1 else 0) ∧
      calls.countP (Call.gives .expired) = 0 := by
  cases h <;> exact ⟨rfl, rfl, rfl⟩

theorem Expires.writes {r : Subscription} {calls : List Call} {outcome : ExpirationEnd}
    (h : Expires r calls outcome) :
    calls.countP Call.issues = 0 ∧ calls.countP (Call.gives .cancelled) = 0 ∧
      calls.countP (Call.gives .expired) = if outcome = .expired then 1 else 0 := by
  cases h <;> exact ⟨rfl, rfl, rfl⟩

/-- What a run of a day handled. The second listing may be refused. -/
structure DayLog where
  renewals : List (Handled RenewalEnd)
  listing : Except StorageError (List (Handled ExpirationEnd))

namespace DayLog

def expirations (log : DayLog) : List (Handled ExpirationEnd) :=
  match log.listing with
  | .ok handled => handled
  | .error _ => []

def calls (date : Date) (log : DayLog) : List Call :=
  ⟨.listExpiring date (some true), .ok (log.renewals.map (·.row))⟩ ::
      log.renewals.flatMap (·.calls) ++
    ⟨.listExpiring date (some false), log.listing.map (·.map (·.row))⟩ ::
      log.expirations.flatMap (·.calls)

/-- Each row was handled as the program handles one. -/
structure WellFormed (log : DayLog) : Prop where
  renewals : ∀ x ∈ log.renewals, Renews x.row x.calls x.outcome
  expirations : ∀ x ∈ log.expirations, Expires x.row x.calls x.outcome

/-- The report of what was handled, as the two loops count it. -/
def report (log : DayLog) : RunReport :=
  let renewed := log.renewals.foldl tallyRenewal { renewalsScanned := log.renewals.length }
  match log.listing with
  | .ok handled =>
    handled.foldl tallyExpiration { renewed with expirationsScanned := handled.length }
  | .error _ => { renewed with expirationsIncomplete := true }

theorem report_eq (log : DayLog) : log.report =
    { renewalsScanned := log.renewals.length
      invoicesGenerated := (idsOf .invoiced log.renewals).length
      cancelledPendingInvoice := (idsOf .cancelled log.renewals).length
      renewalFailures := (idsOf .failed log.renewals).length
      expirationsScanned := log.expirations.length
      expired := (idsOf .expired log.expirations).length
      expirationFailures := (idsOf .failed log.expirations).length
      invoicedIds := (idsOf .invoiced log.renewals).take 20
      cancelledIds := (idsOf .cancelled log.renewals).take 20
      expiredIds := (idsOf .expired log.expirations).take 20
      failedIds := (idsOf .failed log.renewals ++ idsOf .failed log.expirations).take 20
      expirationsIncomplete := !log.listing.isOk } := by
  obtain ⟨renewals, listing⟩ := log
  cases listing with
  | error e =>
    simp [report, expirations, foldl_tallyRenewal, foldl_remember_nil, Except.isOk, Except.toBool]
  | ok handled =>
    simp [report, expirations, foldl_tallyRenewal, foldl_tallyExpiration, foldl_remember_nil,
      foldl_remember, Except.isOk, Except.toBool]

theorem countP_calls (log : DayLog) (date : Date) {p : Call → Bool}
    (hp : ∀ renews reply, p ⟨.listExpiring date renews, reply⟩ = false) :
    (log.calls date).countP p = (log.renewals.flatMap (·.calls)).countP p +
      (log.expirations.flatMap (·.calls)).countP p := by
  simp [calls, hp]

end DayLog

/-- A report against what was handled and the calls that were made. -/
structure AddsUp (log : DayLog) (calls : List Call) (report : RunReport) : Prop where
  renewalsScanned : report.renewalsScanned = log.renewals.length
  renewalsSum : report.renewalsScanned =
    report.invoicesGenerated + report.cancelledPendingInvoice + report.renewalFailures
  expirationsScanned : report.expirationsScanned = log.expirations.length
  expirationsSum : report.expirationsScanned =
    report.expired + report.expirationFailures +
      log.expirations.countP (·.row.statusOf = .expired)
  incomplete : report.expirationsIncomplete = true ↔ ∃ e, log.listing = .error e
  incompleteScan : report.expirationsIncomplete = true → report.expirationsScanned = 0
  invoices : report.invoicesGenerated = calls.countP Call.issues
  cancellations : report.cancelledPendingInvoice = calls.countP (Call.gives .cancelled)
  expiries : report.expired = calls.countP (Call.gives .expired)
  invoiced : report.invoicesGenerated = (idsOf .invoiced log.renewals).length
  cancelled : report.cancelledPendingInvoice = (idsOf .cancelled log.renewals).length
  expired : report.expired = (idsOf .expired log.expirations).length
  renewalFailures : report.renewalFailures = (idsOf .failed log.renewals).length
  expirationFailures : report.expirationFailures = (idsOf .failed log.expirations).length
  invoicedIds : report.invoicedIds = (idsOf .invoiced log.renewals).take 20
  cancelledIds : report.cancelledIds = (idsOf .cancelled log.renewals).take 20
  expiredIds : report.expiredIds = (idsOf .expired log.expirations).take 20
  failedIds : report.failedIds =
    (idsOf .failed log.renewals ++ idsOf .failed log.expirations).take 20

theorem DayLog.addsUp {log : DayLog} (h : log.WellFormed) (date : Date) :
    AddsUp log (log.calls date) log.report := by
  have hinvoices : (log.calls date).countP Call.issues = (idsOf .invoiced log.renewals).length := by
    rw [log.countP_calls date fun _ _ => rfl,
      DailyRun.countP_calls fun x hx => (h.renewals x hx).writes.1,
      countP_calls_eq_zero fun x hx => (h.expirations x hx).writes.1, Nat.add_zero]
  have hcancelled : (log.calls date).countP (Call.gives .cancelled) =
      (idsOf .cancelled log.renewals).length := by
    rw [log.countP_calls date fun _ _ => rfl,
      DailyRun.countP_calls fun x hx => (h.renewals x hx).writes.2.1,
      countP_calls_eq_zero fun x hx => (h.expirations x hx).writes.2.1, Nat.add_zero]
  have hexpired : (log.calls date).countP (Call.gives .expired) =
      (idsOf .expired log.expirations).length := by
    rw [log.countP_calls date fun _ _ => rfl,
      DailyRun.countP_calls fun x hx => (h.expirations x hx).writes.2.2,
      countP_calls_eq_zero fun x hx => (h.renewals x hx).writes.2.2, Nat.zero_add]
  have hincomplete : (!log.listing.isOk) = true ↔ ∃ e, log.listing = .error e := by
    cases log.listing <;> simp [Except.isOk, Except.toBool]
  have hscan : (!log.listing.isOk) = true → log.expirations.length = 0 := by
    intro hrefused
    obtain ⟨e, he⟩ := hincomplete.mp hrefused
    simp [expirations, he]
  rw [log.report_eq]
  exact
    { renewalsScanned := rfl
      renewalsSum := length_renewals log.renewals
      expirationsScanned := rfl
      expirationsSum := length_expirations h.expirations
      incomplete := hincomplete
      incompleteScan := hscan
      invoices := hinvoices.symm
      cancellations := hcancelled.symm
      expiries := hexpired.symm
      invoiced := rfl
      cancelled := rfl
      expired := rfl
      renewalFailures := rfl
      expirationFailures := rfl
      invoicedIds := rfl
      cancelledIds := rfl
      expiredIds := rfl
      failedIds := rfl }

theorem hears_expirationsOrIncomplete {date : Date} {report : RunReport} {calls : List Call}
    {o : Outcome RunReport} (h : (expirationsOrIncomplete date report).Hears calls o) :
    (∃ e, calls = [⟨.listExpiring date (some false), .error e⟩] ∧
        o = .done { report with expirationsIncomplete := true }) ∨
      ∃ handled : List (Handled ExpirationEnd), (∀ x ∈ handled, Expires x.row x.calls x.outcome) ∧
        calls = ⟨.listExpiring date (some false), .ok (handled.map (·.row))⟩ ::
          handled.flatMap (·.calls) ∧
        o = .done (handled.foldl tallyExpiration
          { report with expirationsScanned := handled.length }) := by
  obtain ⟨early, late, between, rfl, hlisted, hlate⟩ := Hears.attempt_bind h
  rcases hears_listed hears_expireOne hlisted with ⟨e, rfl, rfl⟩ | ⟨handled, hall, rfl, rfl⟩
  · obtain ⟨rfl, rfl⟩ := hlate
    exact .inl ⟨e, rfl, rfl⟩
  · obtain ⟨rfl, rfl⟩ := hlate
    exact .inr ⟨handled, hall, by simp, by simp⟩

/-- A run fails at its first listing and has done nothing, or its report is that of what it has
handled. -/
theorem hears_run_day {dueDays : Nat} {date : Date} {calls : List Call} {o : Outcome RunReport}
    (h : (run dueDays date).Hears calls o) :
    (∃ e, calls = [⟨.listExpiring date (some true), .error e⟩] ∧ o = .failed (.storage e)) ∨
      ∃ log : DayLog, log.WellFormed ∧ calls = log.calls date ∧ o = .done log.report := by
  obtain ⟨early, late, between, rfl, hrenewals, hlate⟩ := Hears.bind (Hears.log_bind h)
  rcases hears_listed hears_renewOne hrenewals with ⟨e, rfl, rfl⟩ | ⟨handled, hall, rfl, rfl⟩
  · obtain ⟨rfl, rfl⟩ := hlate
    exact .inl ⟨e, rfl, rfl⟩
  · right
    obtain ⟨early, late, between, rfl, hexpirations, hend⟩ := Hears.bind (Hears.done_bind hlate)
    rcases hears_expirationsOrIncomplete hexpirations with
      ⟨e, rfl, rfl⟩ | ⟨expired, hexpired, rfl, rfl⟩
    · obtain ⟨rfl, rfl⟩ := hend
      refine ⟨⟨handled, .error e⟩, ⟨hall, by simp [DayLog.expirations]⟩, ?_, ?_⟩
      · simp [DayLog.calls, DayLog.expirations, Except.map]
      · simp [DayLog.report]
    · obtain ⟨rfl, rfl⟩ := hend
      refine ⟨⟨handled, .ok expired⟩, ⟨hall, hexpired⟩, ?_, ?_⟩
      · simp [DayLog.calls, DayLog.expirations, Except.map]
      · simp [DayLog.report]

end DailyRun

end RecurringBilling
