import RecurringBilling.Proofs.DailyRun.DayEffect
import RecurringBilling.Proofs.DailyRun.Report
import RecurringBilling.Proofs.Store.Growth

/-! The counters of a report against the store: as many invoices were added, and as many
subscriptions came to be cancelled or expired. -/

namespace RecurringBilling

namespace Store

variable {s s' s'' : Store} {status : SubscriptionStatus} {ids ids' issued issued' : List Id}

def status? (s : Store) (id : Id) : Option SubscriptionStatus :=
  (s.account id).subscription.map (·.statusOf)

/-- How many subscriptions have a status that they did not have before. -/
def turned (status : SubscriptionStatus) (s s' : Store) : Nat :=
  s.subscriptions.countP fun r => r.statusOf ≠ status ∧ s'.status? r.id = some status

/-- Some subscriptions are given a status, and invoices are added for some subscriptions. -/
structure Turns (status : SubscriptionStatus) (ids issued : List Id) (s s' : Store) : Prop where
  rows : s'.subscriptions.map (·.id) = s.subscriptions.map (·.id)
  statuses : ∀ id, s'.status? id = if id ∈ ids then some status else s.status? id
  invoices : ∃ created,
    s'.invoices = s.invoices ++ created ∧ created.map (·.subscriptionId) = issued

theorem Turns.refl (status : SubscriptionStatus) (s : Store) : Turns status [] [] s s :=
  ⟨rfl, by simp, [], by simp, rfl⟩

theorem Turns.trans (h : Turns status ids issued s s') (h' : Turns status ids' issued' s' s'') :
    Turns status (ids ++ ids') (issued ++ issued') s s'' := by
  obtain ⟨created, hcreated, hissued⟩ := h.invoices
  obtain ⟨created', hcreated', hissued'⟩ := h'.invoices
  refine ⟨h'.rows.trans h.rows, ?_, created ++ created', ?_, ?_⟩
  · intro id
    rw [h'.statuses id, h.statuses id]
    by_cases hlate : id ∈ ids'
    · rw [if_pos hlate, if_pos (List.mem_append_right ids hlate)]
    · by_cases hearly : id ∈ ids <;> simp [hlate, hearly]
  · rw [hcreated', hcreated, List.append_assoc]
  · rw [List.map_append, hissued, hissued']

theorem turns_updateSubscription {id : Id} {changes : SubscriptionChanges} {row : Subscription}
    (hstatus : ∀ old, (changes.apply old).statusOf = status)
    (h : s.updateSubscription id changes = .ok (row, s')) : Turns status [id] [] s s' := by
  obtain ⟨htouch, old, _, hnew⟩ := touches_updateSubscription h
  have hinvoices : s'.invoices = s.invoices := by rw [(updateSubscription_eq_ok h).1]
  refine ⟨htouch.ids, ?_, [], by simp [hinvoices], rfl⟩
  intro other
  by_cases hother : other = id
  · simp [hother, status?, hnew, hstatus]
  · simp [hother, status?, htouch.accounts other hother]

theorem turns_createInvoice (status : SubscriptionStatus) (s : Store) (now : Instant)
    (row : NewInvoice) :
    Turns status [] [row.subscriptionId] s (s.createInvoice now row).2 :=
  ⟨rfl, by simp [status?, account, createInvoice], [(s.createInvoice now row).1], rfl, rfl⟩

theorem status?_of_mem (hs : (s.subscriptions.map (·.id)).Nodup) {r : Subscription}
    (hr : r ∈ s.subscriptions) : s.status? r.id = some r.statusOf := by
  rw [status?, account_of_mem hs hr]
  rfl

theorem turned_eq_length (hs : (s.subscriptions.map (·.id)).Nodup) (hids : ids.Nodup)
    (hmem : ∀ id ∈ ids, ∃ r ∈ s.subscriptions, r.id = id ∧ r.statusOf ≠ status)
    (hstatus : ∀ r ∈ s.subscriptions, r.statusOf ≠ status →
      (s'.status? r.id = some status ↔ r.id ∈ ids)) : turned status s s' = ids.length := by
  rw [turned, List.countP_eq_length_filter, ← List.length_map (·.id)]
  refine List.Perm.length_eq <|
    (List.perm_ext_iff_of_nodup (hs.sublist (List.filter_sublist.map _)) hids).mpr ?_
  intro id
  simp only [List.mem_map, List.mem_filter, decide_eq_true_eq]
  constructor
  · rintro ⟨r, ⟨hr, hne, hturned⟩, rfl⟩
    exact (hstatus r hr hne).mp hturned
  · intro hid
    obtain ⟨r, hr, rfl, hne⟩ := hmem id hid
    exact ⟨r, ⟨hr, hne, (hstatus r hr hne).mpr hid⟩, rfl⟩

end Store

namespace Call

variable {s s' : Store}

theorem Answers.exists_answer {r : Request} {reply : r.Reply} (h : Answers ⟨r, .ok reply⟩ s s') :
    ∃ now, s.answer now r = .ok (reply, s') := by
  cases h with
  | answered h => exact ⟨_, h⟩

theorem Answers.same_of_refused {r : Request} {e : StorageError}
    (h : Answers ⟨r, .error e⟩ s s') : s' = s := by
  cases h with
  | refused h => exact h

theorem Answers.same_of_reads {r : Request} {reply : Except StorageError r.Reply}
    (hr : ∀ now reply s', s.answer now r = .ok (reply, s') → s' = s)
    (h : Answers ⟨r, reply⟩ s s') : s' = s := by
  cases h with
  | answered h => exact hr _ _ _ h
  | refused h => exact h

theorem Answers.pending_same {id : Id} {reply : Except StorageError Bool}
    (h : Answers ⟨.hasPendingInvoice id, reply⟩ s s') : s' = s := by
  refine h.same_of_reads fun now reply s' ha => ?_
  exact (congrArg Prod.snd (Except.ok.inj ha)).symm

theorem Answers.package_same {id : Id} {reply : Except StorageError (Option Package)}
    (h : Answers ⟨.findPackage id, reply⟩ s s') : s' = s := by
  refine h.same_of_reads fun now reply s' ha => ?_
  exact (congrArg Prod.snd (Except.ok.inj ha)).symm

theorem Answers.listing {date : Date} {renews : Bool} {listed : List Subscription}
    (h : Answers ⟨.listExpiring date (some renews), .ok listed⟩ s s') :
    s' = s ∧ s.expiring date (some renews) = .ok listed := by
  obtain ⟨now, ha⟩ := h.exists_answer
  cases hl : s.expiring date (some renews) with
  | error refusal => simp [Store.answer, hl, Except.map] at ha
  | ok rows =>
    simp only [Store.answer, hl, Except.map, Except.ok.injEq, Prod.mk.injEq] at ha
    exact ⟨ha.2.symm, by rw [ha.1]⟩

end Call

namespace DailyRun

open Procedure Store

variable {s s' : Store} {date : Date} {r : Subscription} {calls : List Call}

theorem Renews.turns {outcome : RenewalEnd} (h : Renews r calls outcome)
    (hs : s.Replies calls s') :
    Turns .cancelled (if outcome = .cancelled then [r.id] else [])
      (if outcome = .invoiced then [r.id] else []) s s' := by
  cases h with
  | pendingUnknown e =>
    obtain ⟨s₁, h₁, rfl⟩ := hs
    obtain rfl := h₁.pending_same
    exact .refl _ _
  | cancelled now row =>
    obtain ⟨s₁, h₁, s₂, h₂, rfl⟩ := hs
    obtain rfl := h₁.pending_same
    obtain ⟨_, ha⟩ := h₂.exists_answer
    exact turns_updateSubscription (fun _ => rfl) ha
  | cancelRefused now e =>
    obtain ⟨s₁, h₁, s₂, h₂, rfl⟩ := hs
    obtain rfl := h₁.pending_same
    obtain rfl := h₂.same_of_refused
    exact .refl _ _
  | packageUnknown e =>
    obtain ⟨s₁, h₁, s₂, h₂, rfl⟩ := hs
    obtain rfl := h₁.pending_same
    obtain rfl := h₂.package_same
    exact .refl _ _
  | packageMissing =>
    obtain ⟨s₁, h₁, s₂, h₂, rfl⟩ := hs
    obtain rfl := h₁.pending_same
    obtain rfl := h₂.package_same
    exact .refl _ _
  | @invoiced package row hrow invoice =>
    obtain ⟨s₁, h₁, s₂, h₂, s₃, h₃, rfl⟩ := hs
    obtain rfl := h₁.pending_same
    obtain rfl := h₂.package_same
    obtain ⟨now, ha⟩ := h₃.exists_answer
    obtain rfl : (s₂.createInvoice now row).2 = s' := congrArg Prod.snd (Except.ok.inj ha)
    simpa [hrow] using turns_createInvoice .cancelled s₂ now row
  | invoiceRefused package hrow e =>
    obtain ⟨s₁, h₁, s₂, h₂, s₃, h₃, rfl⟩ := hs
    obtain rfl := h₁.pending_same
    obtain rfl := h₂.package_same
    obtain rfl := h₃.same_of_refused
    exact .refl _ _

theorem Expires.turns {outcome : ExpirationEnd} (h : Expires r calls outcome)
    (hs : s.Replies calls s') :
    Turns .expired (if outcome = .expired then [r.id] else []) [] s s' := by
  cases h with
  | alreadyExpired h =>
    obtain rfl := hs
    exact .refl _ _
  | expired h now row =>
    obtain ⟨s₁, h₁, rfl⟩ := hs
    obtain ⟨_, ha⟩ := h₁.exists_answer
    exact turns_updateSubscription (fun _ => rfl) ha
  | refused h now e =>
    obtain ⟨s₁, h₁, rfl⟩ := hs
    obtain rfl := h₁.same_of_refused
    exact .refl _ _

/-- What the parts of a loop do to the store adds up to what the loop does. -/
theorem turns_of_parts {ω : Type} {status : SubscriptionStatus}
    {turned issued : Handled ω → List Id} {handled : List (Handled ω)}
    (hpart : ∀ x ∈ handled, ∀ {s s'}, s.Replies x.calls s' →
      Turns status (turned x) (issued x) s s')
    (hs : s.Replies (handled.flatMap (·.calls)) s') :
    Turns status (handled.flatMap turned) (handled.flatMap issued) s s' := by
  induction handled generalizing s with
  | nil =>
    obtain rfl := hs
    exact .refl _ _
  | cons x rest ih =>
    obtain ⟨hx, hrest⟩ := List.forall_mem_cons.mp hpart
    obtain ⟨between, hcalls, hlate⟩ := replies_append.mp hs
    exact (hx hcalls).trans (ih hrest hlate)

/-- The store of a day in the middle, where the expirations are listed. -/
structure Midday (log : DayLog) (date : Date) (s between s' : Store) : Prop where
  listed : s.expiring date (some true) = .ok (log.renewals.map (·.row))
  renewals : Turns .cancelled (idsOf .cancelled log.renewals) (idsOf .invoiced log.renewals) s
    between
  listedAgain : ∀ x ∈ log.expirations,
    between.expiring date (some false) = .ok (log.expirations.map (·.row))
  expirations : Turns .expired (idsOf .expired log.expirations) [] between s'

theorem DayLog.midday {log : DayLog} (h : log.WellFormed)
    (hs : s.Replies (log.calls date) s') : ∃ between, Midday log date s between s' := by
  obtain ⟨between, ⟨s₁, hlisting, hrenewals⟩, s₂, hlisting₂, hexpirations⟩ :=
    replies_append.mp hs
  obtain ⟨rfl, hlisted⟩ := hlisting.listing
  refine ⟨between, hlisted, ?_, ?_, ?_⟩
  · rw [idsOf_eq_flatMap, idsOf_eq_flatMap]
    exact turns_of_parts (fun x hx _ _ hcalls => (h.renewals x hx).turns hcalls) hrenewals
  · intro x hx
    obtain ⟨renewals, listing⟩ := log
    cases listing with
    | error e => cases hx
    | ok handled => exact hlisting₂.listing.2
  · obtain rfl : s₂ = between := by
      obtain ⟨renewals, listing⟩ := log
      cases listing with
      | error e => exact hlisting₂.same_of_refused
      | ok handled => exact hlisting₂.listing.1
    have hturns := turns_of_parts (fun x hx _ _ hcalls => (h.expirations x hx).turns hcalls)
      hexpirations
    have hnone : (log.expirations.flatMap fun _ => ([] : List Id)) = [] :=
      List.flatMap_eq_nil_iff.mpr fun _ _ => rfl
    rw [hnone] at hturns
    rw [idsOf_eq_flatMap]
    exact hturns

theorem active_of_listed {renews : Bool} {listed : List Subscription} {id : Id}
    (hs : (s.subscriptions.map (·.id)).Nodup) (hl : s.expiring date (some renews) = .ok listed)
    (hid : id ∈ listed.map (·.id)) :
    s.status? id = some .active ∧ ∃ r ∈ s.subscriptions, r.id = id := by
  obtain ⟨r, hr, rfl⟩ := List.mem_map.mp hid
  obtain ⟨hmem, ⟨_, hactive, _⟩, _⟩ := (mem_expiring_iff hl r).mp hr
  refine ⟨?_, r, hmem, rfl⟩
  rw [status?_of_mem hs hmem, Subscription.statusOf, hactive]
  rfl

namespace Midday

variable {log : DayLog} {between : Store}

theorem active_of_expired (h : Midday log date s between s')
    (hs : (s.subscriptions.map (·.id)).Nodup) {id : Id}
    (hid : id ∈ idsOf .expired log.expirations) :
    id ∉ idsOf .cancelled log.renewals ∧ s.status? id = some .active ∧
      ∃ r ∈ s.subscriptions, r.id = id := by
  have hbetween : (between.subscriptions.map (·.id)).Nodup := h.renewals.rows ▸ hs
  have hlisted : between.expiring date (some false) = .ok (log.expirations.map (·.row)) := by
    obtain ⟨x, hx, _⟩ := List.mem_map.mp hid
    exact h.listedAgain x (List.mem_filter.mp hx).1
  obtain ⟨hactive, r, hr, hrid⟩ :=
    active_of_listed hbetween hlisted ((idsOf_sublist _ _).subset hid)
  have hrow : id ∈ s.subscriptions.map (·.id) := by
    rw [← h.renewals.rows]
    exact List.mem_map.mpr ⟨r, hr, hrid⟩
  rw [h.renewals.statuses id] at hactive
  by_cases hcancelled : id ∈ idsOf .cancelled log.renewals
  · simp [hcancelled] at hactive
  · rw [if_neg hcancelled] at hactive
    exact ⟨hcancelled, hactive, List.mem_map.mp hrow⟩

theorem status?_after (h : Midday log date s between s')
    (hs : (s.subscriptions.map (·.id)).Nodup) {r : Subscription} (hr : r ∈ s.subscriptions) :
    s'.status? r.id = if r.id ∈ idsOf .expired log.expirations then some .expired else
      if r.id ∈ idsOf .cancelled log.renewals then some .cancelled else some r.statusOf := by
  rw [h.expirations.statuses, h.renewals.statuses, status?_of_mem hs hr]

theorem turned_cancelled (h : Midday log date s between s')
    (hs : (s.subscriptions.map (·.id)).Nodup) :
    turned .cancelled s s' = (idsOf .cancelled log.renewals).length := by
  have hlisted := nodup_expiring h.listed hs
  refine turned_eq_length hs (hlisted.sublist (idsOf_sublist _ _)) ?_ ?_
  · intro id hid
    obtain ⟨hactive, r, hr, rfl⟩ := active_of_listed hs h.listed ((idsOf_sublist _ _).subset hid)
    rw [status?_of_mem hs hr, Option.some.injEq] at hactive
    exact ⟨r, hr, rfl, by simp [hactive]⟩
  · intro r hr hne
    rw [h.status?_after hs hr]
    by_cases hexpired : r.id ∈ idsOf .expired log.expirations
    · simp [hexpired, (h.active_of_expired hs hexpired).1]
    · by_cases hcancelled : r.id ∈ idsOf .cancelled log.renewals <;>
        simp [hexpired, hcancelled, hne]

theorem turned_expired (h : Midday log date s between s')
    (hs : (s.subscriptions.map (·.id)).Nodup) :
    turned .expired s s' = (idsOf .expired log.expirations).length := by
  have hids : (idsOf .expired log.expirations).Nodup := by
    by_cases hnil : log.expirations = []
    · simp [hnil]
    · obtain ⟨x, hx⟩ := List.exists_mem_of_ne_nil _ hnil
      have hbetween : (between.subscriptions.map (·.id)).Nodup := h.renewals.rows ▸ hs
      exact (nodup_expiring (h.listedAgain x hx) hbetween).sublist (idsOf_sublist _ _)
  refine turned_eq_length hs hids ?_ ?_
  · intro id hid
    obtain ⟨_, hactive, r, hr, rfl⟩ := h.active_of_expired hs hid
    rw [status?_of_mem hs hr, Option.some.injEq] at hactive
    exact ⟨r, hr, rfl, by simp [hactive]⟩
  · intro r hr hne
    rw [h.status?_after hs hr]
    by_cases hexpired : r.id ∈ idsOf .expired log.expirations
    · simp [hexpired]
    · by_cases hcancelled : r.id ∈ idsOf .cancelled log.renewals <;>
        simp [hexpired, hcancelled, hne]

end Midday

/-- A report against the stores before and after the run. -/
structure Matches (report : RunReport) (s s' : Store) : Prop where
  invoices : ∃ created, s'.invoices = s.invoices ++ created ∧
    created.length = report.invoicesGenerated ∧
    (created.map (·.subscriptionId)).take 20 = report.invoicedIds
  cancelled : Store.turned .cancelled s s' = report.cancelledPendingInvoice
  expired : Store.turned .expired s s' = report.expired

theorem DayLog.matches_of_replies {log : DayLog} (h : log.WellFormed)
    (hs : (s.subscriptions.map (·.id)).Nodup) (hreplies : s.Replies (log.calls date) s') :
    Matches log.report s s' := by
  obtain ⟨between, hday⟩ := DayLog.midday h hreplies
  obtain ⟨created, hcreated, hissued⟩ := hday.renewals.invoices
  obtain ⟨later, hlater, hnone⟩ := hday.expirations.invoices
  obtain rfl : later = [] := List.map_eq_nil_iff.mp hnone
  rw [log.report_eq]
  refine ⟨⟨created, ?_, ?_, ?_⟩, hday.turned_cancelled hs, hday.turned_expired hs⟩
  · rw [hlater, hcreated, List.append_nil]
  · show created.length = (idsOf .invoiced log.renewals).length
    rw [← hissued, List.length_map]
  · rw [hissued]

/-- However the storage lists and whatever it refuses, the report of a run adds up: a run that is
not halted fails at its first listing, or reports what it has handled. Carried out alone on a store,
the run has added the invoices and changed the subscriptions that it counts. -/
theorem run_report_addsUp (dueDays : Nat) (date : Date) :
    (∀ {σ : Type} (b : Backend σ) (s : σ),
      match ((run dueDays date).run b s).1 with
      | .done report => ∃ log : DayLog, log.WellFormed ∧
        (run dueDays date).transcript b s = log.calls date ∧
        AddsUp log (log.calls date) report
      | .failed error => ∃ e, error = .storage e ∧
        (run dueDays date).transcript b s = [⟨.listExpiring date (some true), .error e⟩]
      | .halted fault => ∃ r s', (b.answer r s').1 = .error fault) ∧
    ∀ (env : Chances) (w w' : World) (report : RunReport),
      (w.store.subscriptions.map (·.id)).Nodup →
      env.run (run dueDays date) w = (.done report, w') → Matches report w.store w'.store := by
  constructor
  · intro σ b s
    rcases hears_run b (run dueDays date) s with hears | ⟨fault, hhalted, hanswer⟩
    · rcases hears_run_day hears with ⟨e, hcalls, ho⟩ | ⟨log, hlog, hcalls, ho⟩
      · rw [ho]
        exact ⟨e, rfl, hcalls⟩
      · rw [ho]
        exact ⟨log, hlog, hcalls, DayLog.addsUp hlog date⟩
    · rw [hhalted]
      exact hanswer
  · intro env w w' report hids hrun
    have hreplies := env.replies_run (run dueDays date) w
    rw [hrun] at hreplies
    have hdone : ((run dueDays date).run env.backend w).1 = .done report := congrArg Prod.fst hrun
    rcases hears_run env.backend (run dueDays date) w with hears | ⟨fault, hhalted, _⟩
    · rw [hdone] at hears
      rcases hears_run_day hears with ⟨e, _, ho⟩ | ⟨log, hlog, hcalls, ho⟩
      · cases ho
      · obtain rfl := Outcome.done.inj ho
        rw [hcalls] at hreplies
        exact DayLog.matches_of_replies hlog hids hreplies
    · rw [hdone] at hhalted
      cases hhalted

/-- What was computed, if it came to its end. -/
def value? {α : Type} : Outcome α → Option α
  | .done a => some a
  | .failed _ => none
  | .halted _ => none

theorem eq_done_of_value? {α : Type} {o : Outcome α} {a : α} (h : value? o = some a) :
    o = .done a := by
  cases o with
  | done b => exact congrArg Outcome.done (Option.some.inj h)
  | failed e => cases h
  | halted fault => cases h

theorem run_report_addsUp_plainDate :
    ∃ report w, plainChances.run (run 14 plainDate) { store := plainStore } = (.done report, w) ∧
      report.invoicedIds = [.ofNat 1] ∧ report.expiredIds = [.ofNat 2] ∧
      Matches report plainStore w.store := by
  have hids : (value? (plainChances.run (run 14 plainDate) { store := plainStore }).1).map
      (fun report => (report.invoicedIds, report.expiredIds)) =
        some ([.ofNat 1], [.ofNat 2]) := by decide +kernel
  obtain ⟨report, hreport, hids⟩ := Option.map_eq_some_iff.mp hids
  obtain ⟨w, hended⟩ : ∃ w, plainChances.run (run 14 plainDate) { store := plainStore } =
      (.done report, w) := ⟨_, Prod.ext (eq_done_of_value? hreport) rfl⟩
  exact ⟨report, w, hended, congrArg Prod.fst hids, congrArg Prod.snd hids,
    (run_report_addsUp 14 plainDate).2 plainChances _ _ _ (by decide) hended⟩

end DailyRun

end RecurringBilling
