import RecurringBilling.Proofs.Asks
import RecurringBilling.Proofs.Lifecycle.Soundness

/-! When subscriptions were stored and when they were cancelled. Both times are read from the clock,
so that, as long as it does not go back, none was cancelled before it was stored. -/

namespace RecurringBilling

open Procedure

/-- Whether the request stores no subscription, and cancels one only at such a time. -/
def Request.EndsAt (times : Instant → Prop) : Request → Prop
  | createSubscription .. => False
  | switchPlan .. => False
  | updateSubscription _ changes =>
    changes.cancelledAt = .keep ∨ ∃ t, times t ∧ changes.cancelledAt = .set (some t)
  | _ => True

namespace DailyRun

variable {times : Instant → Prop}

theorem asks_cancel (r : Subscription) (immediate : Bool) (reason : Option String) :
    (Subscribing.cancel r immediate reason).Asks times (Request.EndsAt times) := by
  refine asks_log.bind fun _ => ?_
  intro now hnow
  exact (asks_requestOr (.inr ⟨now, hnow, rfl⟩)).bind fun _ => asks_log.bind fun _ => trivial

theorem asks_renewOne (dueDays : Nat) (report : RunReport) (r : Subscription) :
    (renewOne dueDays report r).Asks times (Request.EndsAt times) := by
  have hrenew : (renew dueDays r).Asks times (Request.EndsAt times) := by
    refine (asks_request trivial).bind fun pending => ?_
    split
    · exact (asks_cancel r false _).bind fun _ => asks_log.bind fun _ => trivial
    · exact (Invoicing.asks_generate dueDays r none trivial fun _ _ => trivial).bind fun _ =>
        asks_log.bind fun _ => trivial
  refine hrenew.attempt.bind fun result => ?_
  split
  · trivial
  · trivial
  · exact asks_log.bind fun _ => trivial

theorem asks_expireOne (report : RunReport) (r : Subscription) :
    (expireOne report r).Asks times (Request.EndsAt times) := by
  unfold expireOne
  split
  · trivial
  · intro now _
    refine (asks_request (.inl rfl)).attempt.bind fun result => ?_
    split
    · exact asks_log.bind fun _ => trivial
    · exact asks_log.bind fun _ => trivial

theorem asks_expirations (date : Date) (report : RunReport) :
    (expirations date report).Asks times (Request.EndsAt times) :=
  (asks_request trivial).bind fun _ => Asks.foldlM asks_expireOne _ _

theorem asks_runExpirations (date : Date) :
    (runExpirations date).Asks times (Request.EndsAt times) :=
  (asks_expirations date {}).bind fun _ => asks_log.bind fun _ => trivial

theorem asks_run (dueDays : Nat) (date : Date) :
    (run dueDays date).Asks times (Request.EndsAt times) := by
  have hexpirations : ∀ report, (expirationsOrIncomplete date report).Asks times
      (Request.EndsAt times) := by
    refine fun report => (asks_expirations date report).attempt.bind fun result => ?_
    split
    · trivial
    · exact asks_log.bind fun _ => trivial
  refine asks_log.bind fun _ => ?_
  refine Asks.bind ((asks_request trivial).bind fun _ => Asks.foldlM (asks_renewOne dueDays) _ _)
    fun report => ?_
  exact (hexpirations report).bind fun _ => asks_log.bind fun _ => trivial

end DailyRun

namespace Store

variable {stored stored' cancelled cancelled' times : Instant → Prop} {s s' : Store} {now : Instant}

/-- Every subscription was stored and cancelled at such times, and not cancelled before it was
stored. -/
def Dated (stored cancelled : Instant → Prop) (s : Store) : Prop :=
  ∀ r ∈ s.subscriptions, stored r.createdAt ∧
    ∀ t, r.cancelledAt = some t → cancelled t ∧ r.createdAt ≤ t

theorem Dated.mono (hs : s.Dated stored cancelled) (hstored : ∀ t, stored t → stored' t)
    (hcancelled : ∀ t, cancelled t → cancelled' t) : s.Dated stored' cancelled' := by
  intro r hr
  obtain ⟨hcreated, hdates⟩ := hs r hr
  exact ⟨hstored _ hcreated, fun t ht => (hdates t ht).imp_left (hcancelled t)⟩

/-- The rows there are keep the time at which they were stored, and the others are stored now. -/
theorem createdAt_of_answer {r : Request} {reply : r.Reply}
    (h : s.answer now r = .ok (reply, s')) (x : Subscription) (hx : x ∈ s'.subscriptions) :
    x.createdAt = now ∨ ∃ y ∈ s.subscriptions, x.createdAt = y.createdAt := by
  have hcreate : ∀ (s : Store) (row : NewSubscription) (items : List ItemSeed),
      x ∈ (s.createSubscription now row items).2.subscriptions →
        x.createdAt = now ∨ x ∈ s.subscriptions := by
    intro s row items hx
    rw [subscriptions_createSubscription] at hx
    rcases List.mem_append.mp hx with hx | hx
    · exact .inr hx
    · obtain rfl := List.mem_singleton.mp hx
      exact .inl rfl
  have hupdate : ∀ {s s' : Store} {id : Id} {changes : SubscriptionChanges} {row : Subscription},
      s.updateSubscription id changes = .ok (row, s') → x ∈ s'.subscriptions →
        ∃ y ∈ s.subscriptions, x.createdAt = y.createdAt := by
    intro s s' id changes row hu hx
    rcases (updateSubscription_eq_ok hu).2.2 x hx with hx | ⟨old, hold, _, rfl⟩
    · exact ⟨x, hx, rfl⟩
    · exact ⟨old, hold, rfl⟩
  cases r with
  | createSubscription row items =>
    obtain rfl : (s.createSubscription now row items).2 = s' :=
      congrArg Prod.snd (Except.ok.inj h)
    exact (hcreate s row items hx).imp_right fun hx => ⟨x, hx, rfl⟩
  | switchPlan id changes row items =>
    obtain ⟨between, hu, hcreated⟩ := switchPlan_eq_ok h
    obtain rfl : (between.createSubscription now row items).2 = s' := congrArg Prod.snd hcreated
    exact (hcreate between row items hx).imp_right (hupdate hu)
  | updateSubscription id changes => exact .inr (hupdate h hx)
  | _ =>
    rw [(answer_of_not_writes rfl h).1] at hx
    exact .inr ⟨x, hx, rfl⟩

theorem mem_createSubscription {instant : Instant} {row : NewSubscription} {items : List ItemSeed}
    {x : Subscription} (hx : x ∈ (s.createSubscription instant row items).2.subscriptions) :
    x ∈ s.subscriptions ∨ x.cancelledAt = row.cancelledAt := by
  rw [subscriptions_createSubscription] at hx
  rcases List.mem_append.mp hx with hx | hx
  · exact .inl hx
  · obtain rfl := List.mem_singleton.mp hx
    exact .inr rfl

theorem Dated.endsAt (hs : s.Dated stored cancelled) (htimes : ∀ t, times t → cancelled t)
    (hlater : ∀ t t', stored t → times t' → t ≤ t') {r : Request} {reply : r.Reply}
    (hr : r.EndsAt times) (h : s.answer now r = .ok (reply, s')) : s'.Dated stored cancelled := by
  cases r with
  | createSubscription row items => exact hr.elim
  | switchPlan id changes row items => exact hr.elim
  | updateSubscription id changes =>
    intro x hx
    rcases (updateSubscription_eq_ok h).2.2 x hx with hx | ⟨old, hold, _, rfl⟩
    · exact hs x hx
    · obtain ⟨hcreated, hdates⟩ := hs old hold
      refine ⟨hcreated, fun t ht => ?_⟩
      change changes.cancelledAt.apply old.cancelledAt = some t at ht
      rcases hr with hkeep | ⟨now, hnow, hset⟩
      · rw [hkeep] at ht
        exact hdates t ht
      · rw [hset] at ht
        obtain rfl : now = t := Option.some.inj ht
        exact ⟨htimes _ hnow, hlater _ _ hcreated hnow⟩
  | _ =>
    unfold Dated
    rw [(answer_of_not_writes rfl h).1]
    exact hs

end Store

/-- Whatever an operation writes, it cancels at its own time what was stored before. -/
theorem Subscribing.Written.cancelledAt {before : Instant → Prop} {s s' : Store} {now : Instant}
    (h : Written now s s') (hs : s.Dated before before) (hnow : ∀ t, before t → t ≤ now)
    (x : Subscription) (hx : x ∈ s'.subscriptions) (t : Instant) (ht : x.cancelledAt = some t) :
    (before t ∨ t = now) ∧ x.createdAt ≤ t := by
  have hkeep (hx : x ∈ s.subscriptions) : (before t ∨ t = now) ∧ x.createdAt ≤ t :=
    ((hs x hx).2 t ht).imp_left .inl
  have hcancel {s₁ : Store} {id : Id} {immediate : Bool} {reason : Option String}
      {row : Subscription}
      (hu : s.updateSubscription id (cancellation now immediate reason) = .ok (row, s₁))
      (hx : x ∈ s₁.subscriptions) : (before t ∨ t = now) ∧ x.createdAt ≤ t := by
    rcases (Store.updateSubscription_eq_ok hu).2.2 x hx with hx | ⟨old, hold, _, rfl⟩
    · exact hkeep hx
    · obtain rfl : now = t := Option.some.inj ht
      exact ⟨.inr rfl, hnow _ (hs old hold).1⟩
  have hnew {subscriber : Subscriber} {package : Package} {withTrial : Bool} :
      x.cancelledAt ≠ (newSubscription subscriber package withTrial now).cancelledAt := by
    rw [ht]
    exact Option.some_ne_none t
  cases h with
  | nothing => exact hkeep hx
  | subscribed subscriber package withTrial items stored =>
    exact (Store.mem_createSubscription hx).elim hkeep fun hx => absurd hx hnew
  | cancelled hu => exact hcancel hu hx
  | resumed _ _ hu =>
    rcases (Store.updateSubscription_eq_ok hu).2.2 x hx with hx | ⟨old, hold, _, rfl⟩
    · exact hkeep hx
    · cases ht
  | switched subscriber package items stored hu =>
    exact (Store.mem_createSubscription hx).elim (hcancel hu) fun hx => absurd hx hnew

namespace Occurrence

variable {before : Instant → Prop} {w : World}

/-- The times that the clock shows join those that the store shows. -/
theorem dated_applyTo (dueDays : Nat) (env : Chances) (occurrence : Occurrence)
    (hw : w.store.Dated before before) (hnow : ∀ t t', before t → env.Shows t' → t ≤ t') :
    ((applyTo dueDays w (env, occurrence)).store).Dated (fun t => before t ∨ env.Shows t)
      fun t => before t ∨ env.Shows t := by
  have hrun {p : Procedure RunReport} (hp : p.Asks env.Shows (Request.EndsAt env.Shows)) :
      ((env.run p w).2.store).Dated (fun t => before t ∨ env.Shows t)
        fun t => before t ∨ env.Shows t := by
    have hkept := hp.run env.shows_now (Store.Dated before fun t => before t ∨ env.Shows t)
      (fun _ hr hs h => hs.endsAt (fun _ => .inr) hnow hr h)
      (hw.mono (fun _ ht => ht) fun _ => .inl)
    exact hkept.mono (fun _ => .inl) fun _ ht => ht
  cases occurrence with
  | operation op =>
    have hstored := (asks_any env.Shows op.procedure).run env.shows_now
      (fun s => ∀ x ∈ s.subscriptions, before x.createdAt ∨ env.Shows x.createdAt)
      (fun hnow _ hs h x hx => (Store.createdAt_of_answer h x hx).elim (fun hx => .inr (hx ▸ hnow))
        fun ⟨y, hy, hxy⟩ => hxy ▸ hs y hy)
      (w := w) fun x hx => .inl (hw x hx).1
    obtain ⟨w', hwritten⟩ := Subscribing.written_operation env op w
    intro x hx
    refine ⟨hstored x hx, fun t ht => ?_⟩
    obtain ⟨htime, hle⟩ :=
      hwritten.cancelledAt hw (fun t ht => hnow t _ ht (env.shows_now w')) x hx t ht
    exact ⟨htime.imp_right fun (h : t = (env w').now) => ⟨w', h⟩, hle⟩
  | run date => exact hrun (DailyRun.asks_run dueDays date)
  | runExpirations date => exact hrun (DailyRun.asks_runExpirations date)

/-- If the clock does not go back, all times that a store shows are before any later one. -/
theorem dated_foldl (dueDays : Nat) (occurrences : List (Chances × Occurrence)) {now : Instant}
    (hw : w.store.Dated before before)
    (hbefore : ∀ t, before t → t ≤ now ∧ ∀ o ∈ occurrences, ∀ t', o.1.Shows t' → t ≤ t')
    (hclock : occurrences.Pairwise fun o later => Chances.NotAfter o.1 later.1)
    (hnow : ∀ o ∈ occurrences, ∀ t, o.1.Shows t → t ≤ now) :
    ((occurrences.foldl (applyTo dueDays) w).store).Dated (· ≤ now) (· ≤ now) := by
  induction occurrences generalizing w before with
  | nil => exact hw.mono (fun t ht => (hbefore t ht).1) fun t ht => (hbefore t ht).1
  | cons o rest ih =>
    obtain ⟨hfirst, hrest⟩ := List.pairwise_cons.mp hclock
    obtain ⟨hnow, hnow'⟩ := List.forall_mem_cons.mp hnow
    have hstep := dated_applyTo dueDays o.1 o.2 hw fun t t' ht => (hbefore t ht).2 o (by simp) t'
    refine ih hstep ?_ hrest hnow'
    rintro t (ht | ⟨w', rfl⟩)
    · exact ⟨(hbefore t ht).1, fun later hlater =>
        (hbefore t ht).2 later (List.mem_cons_of_mem o hlater)⟩
    · refine ⟨hnow _ (o.1.shows_now w'), ?_⟩
      rintro later hlater _ ⟨w'', rfl⟩
      exact hfirst later hlater w' w''

end Occurrence

end RecurringBilling
