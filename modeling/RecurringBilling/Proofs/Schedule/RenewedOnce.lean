import RecurringBilling.Proofs.DailyRun.DayEffect
import RecurringBilling.Proofs.Schedule.Effects
import RecurringBilling.Proofs.Schedule.History

/-! How often a subscription is invoiced by the renewals. The end of an active subscription is the
one that it was created with, and its date is run once. -/

namespace RecurringBilling

/-- Whether a subscription has the end that it was created with. If not, it was ended before all that
is still to come, and is not active. -/
def Subscription.Follows (later : Instant → Prop) (r o : Subscription) : Prop :=
  r.endsAt = o.endsAt ∨
    r.status ≠ SubscriptionStatus.active.word ∧ ∃ t, r.endsAt = some t ∧ ∀ t', later t' → t < t'

namespace Subscription.Follows

variable {later later' : Instant → Prop} {o r : Subscription} {now : Instant}

theorem mono (h : r.Follows later o) (hlater : ∀ t, later' t → later t) : r.Follows later' o := by
  rcases h with hsame | ⟨hstatus, t, ht, hended⟩
  · exact .inl hsame
  · exact .inr ⟨hstatus, t, ht, fun t' ht' => hended t' (hlater t' ht')⟩

theorem cancellation (h : r.Follows later o) {immediate : Bool} (reason : Option String)
    (hnow : immediate = true → ∀ t, later t → now < t) :
    ((Subscribing.cancellation now immediate reason).apply r).Follows later o := by
  have hcancelled : SubscriptionStatus.cancelled.word ≠ SubscriptionStatus.active.word := by
    simp [SubscriptionStatus.word]
  cases immediate with
  | true => exact .inr ⟨hcancelled, now, rfl, hnow rfl⟩
  | false =>
    rcases h with hsame | ⟨_, hended⟩
    · exact .inl hsame
    · exact .inr ⟨hcancelled, hended⟩

theorem expiry (h : r.Follows later o) : ((DailyRun.expiry now).apply r).Follows later o := by
  rcases h with hsame | ⟨_, hended⟩
  · exact .inl hsame
  · refine .inr ⟨?_, hended⟩
    simp [DailyRun.expiry, SubscriptionChanges.apply, Change.apply, SubscriptionStatus.word]

/-- What was ended cannot be taken up again. -/
theorem resumption (h : r.Follows later o) (hresumable : r.isResumableAt now = true)
    (hnow : later now) : ((Subscribing.resumption now).apply r).Follows later o := by
  rcases h with hsame | ⟨_, t, ht, hended⟩
  · exact .inl hsame
  · have hlt : t < now := hended now hnow
    have hle : now ≤ t := by
      simp only [isResumableAt, ht, Option.all_some, Bool.and_eq_true, decide_eq_true_eq] at hresumable
      exact hresumable.2
    exact absurd hlt (Int.not_lt.mpr hle)

theorem endsAt_eq (h : r.Follows later o) {date : Date} (hends : r.EndsOn date) :
    r.endsAt = o.endsAt := by
  rcases h with hsame | ⟨hstatus, _⟩
  · exact hsame
  · exact absurd hends.2.1 hstatus

end Subscription.Follows

namespace Store

/-- Every subscription follows the one of these with its identifier. -/
def Follows (origins : List Subscription) (later : Instant → Prop) (s : Store) : Prop :=
  ∀ r ∈ s.subscriptions, ∃ o ∈ origins, o.id = r.id ∧ r.Follows later o

namespace Follows

variable {origins : List Subscription} {later later' : Instant → Prop} {s s' : Store}
  {now : Instant}

theorem mono (hs : s.Follows origins later) (hlater : ∀ t, later' t → later t) :
    s.Follows origins later' := by
  intro r hr
  obtain ⟨o, ho, hid, hfollows⟩ := hs r hr
  exact ⟨o, ho, hid, hfollows.mono hlater⟩

theorem append (hs : s.Follows origins later) (more : List Subscription) :
    s.Follows (origins ++ more) later := by
  intro r hr
  obtain ⟨o, ho, h⟩ := hs r hr
  exact ⟨o, List.mem_append_left _ ho, h⟩

theorem update (hs : s.Follows origins later) {id : Id} {changes : SubscriptionChanges}
    {row : Subscription} (h : s.updateSubscription id changes = .ok (row, s'))
    (hc : ∀ r ∈ s.subscriptions, r.id = id → ∀ o, r.Follows later o →
      (changes.apply r).Follows later o) : s'.Follows origins later := by
  intro r hr
  rcases (updateSubscription_eq_ok h).2.2 r hr with hr | ⟨old, hold, hid, rfl⟩
  · exact hs r hr
  · obtain ⟨o, ho, hoid, hfollows⟩ := hs old hold
    exact ⟨o, ho, hoid, hc old hold hid o hfollows⟩

theorem create (hs : s.Follows origins later) (stored : Instant) (row : NewSubscription)
    (seeds : List ItemSeed) :
    (s.createSubscription stored row seeds).2.Follows
      (origins ++ [(s.createSubscription stored row seeds).1]) later := by
  intro r hr
  rw [subscriptions_createSubscription] at hr
  rcases List.mem_append.mp hr with hr | hr
  · exact hs.append _ r hr
  · exact ⟨r, List.mem_append_right _ hr, rfl, .inl rfl⟩

theorem keeps (origins : List Subscription) (later : Instant → Prop) :
    DailyRun.Keeps (Store.Follows origins later) where
  expire _ _ _ _ _ _ _ _ hs h := hs.update h fun _ _ _ _ hr => hr.expiry
  cancel _ hs h := hs.update h fun _ _ _ _ hr => hr.cancellation _ (by simp)
  invoice _ _ _ hs := hs

end Follows

theorem length_updateSubscription {s s' : Store} {id : Id} {changes : SubscriptionChanges}
    {row : Subscription} (h : s.updateSubscription id changes = .ok (row, s')) :
    s'.subscriptions.length = s.subscriptions.length := by
  have hids := congrArg List.length (updateSubscription_eq_ok h).2.1
  simpa using hids

theorem drop_createSubscription (s : Store) (stored : Instant) (row : NewSubscription)
    (seeds : List ItemSeed) :
    (s.createSubscription stored row seeds).2.subscriptions.drop s.subscriptions.length =
      [(s.createSubscription stored row seeds).1] := by
  rw [subscriptions_createSubscription, List.drop_left]

end Store

namespace Subscribing

theorem Written.follows {origins : List Subscription} {later later' : Instant → Prop}
    {s s' : Store} {now : Instant} (h : Written now s s') (hs : s.Follows origins later)
    (hids : (s.subscriptions.map (·.id)).Nodup) (hnow : later now)
    (hlater : ∀ t, later' t → later t ∧ now < t) :
    s'.Follows (origins ++ s'.subscriptions.drop s.subscriptions.length) later' := by
  have hs' : s.Follows origins later' := hs.mono fun t ht => (hlater t ht).1
  cases h with
  | nothing => exact hs'.append _
  | subscribed subscriber package withTrial items stored =>
    rw [Store.drop_createSubscription]
    exact hs'.create stored _ items
  | cancelled h =>
    refine (hs'.update h ?_).append _
    exact fun _ _ _ _ hr => hr.cancellation _ fun _ t ht => (hlater t ht).2
  | @resumed r row s' hfound hresumable h =>
    refine ((hs.update h ?_).mono fun t ht => (hlater t ht).1).append _
    intro old hold hid o hfollows
    obtain rfl : old = r := List.inj_on_of_nodup_map hids hold hfound hid
    exact hfollows.resumption hresumable hnow
  | @switched id old s₁ subscriber package items stored h =>
    have hs₁ : s₁.Follows origins later' := by
      refine hs'.update h ?_
      exact fun _ _ _ _ hr => hr.cancellation _ fun _ t ht => (hlater t ht).2
    rw [← Store.length_updateSubscription h, Store.drop_createSubscription]
    exact hs₁.create stored _ items

end Subscribing

namespace Site

/-- What is known of a site from its past: no subscription was invoiced twice, the date was that of
the end that it was created with, and the schedule remembers it. -/
structure Renews (later : Instant → Prop) (past : List Moment) (site : Site) : Prop where
  ids : site.world.store.subscriptions.map (·.id) = (past.flatMap Moment.created).map (·.id)
  rows : site.world.store.Follows (past.flatMap Moment.created) later
  once : ∀ id, (past.flatMap (Moment.renewals id)).length ≤ 1
  origin : ∀ id, ∀ p ∈ past.flatMap (Moment.renewals id),
    ∃ o ∈ past.flatMap Moment.created, o.id = id ∧ ∃ t, o.endsAt = some t ∧ t.date = p.1
  last : ∀ schedule, site.schedule = some schedule →
    ∀ id, ∀ p ∈ past.flatMap (Moment.renewals id),
      ∃ last, schedule.lastProcessed = some last ∧ p.1 ≤ last

variable {later later' : Instant → Prop} {past : List Moment} {site next : Site} {dueDays : Nat}

theorem Renews.origin_unique (h : site.Renews later past)
    (hids : (site.world.store.subscriptions.map (·.id)).Nodup) {o o' : Subscription}
    (ho : o ∈ past.flatMap Moment.created) (ho' : o' ∈ past.flatMap Moment.created)
    (heq : o.id = o'.id) : o = o' := by
  rw [h.ids] at hids
  exact List.inj_on_of_nodup_map hids ho ho' heq

/-- A step that issues no renewals. -/
theorem Renews.quiet (h : site.Renews later past) {p : Chances × Action}
    (hrows : (site.step dueDays p).world.store.Follows
      (past.flatMap Moment.created ++ (site.moment dueDays p).created) later')
    (hnone : ∀ id, (site.moment dueDays p).renewals id = [])
    (hlast : ∀ schedule', (site.step dueDays p).schedule = some schedule' →
      ∃ schedule, site.schedule = some schedule ∧
        schedule'.lastProcessed = schedule.lastProcessed) :
    (site.step dueDays p).Renews later' (past ++ [site.moment dueDays p]) := by
  have hcreated : (past ++ [site.moment dueDays p]).flatMap Moment.created =
      past.flatMap Moment.created ++ (site.moment dueDays p).created := by simp
  have hrenewals : ∀ id, (past ++ [site.moment dueDays p]).flatMap (Moment.renewals id) =
      past.flatMap (Moment.renewals id) := fun id => by simp [hnone]
  refine ⟨?_, ?_, ?_, ?_, ?_⟩
  · rw [ids_created, h.ids, hcreated, List.map_append]
  · rw [hcreated]
    exact hrows
  · intro id
    rw [hrenewals]
    exact h.once id
  · intro id renewal hrenewal
    rw [hrenewals] at hrenewal
    obtain ⟨o, ho, horigin⟩ := h.origin id renewal hrenewal
    rw [hcreated]
    exact ⟨o, List.mem_append_left _ ho, horigin⟩
  · intro schedule' hs' id renewal hrenewal
    rw [hrenewals] at hrenewal
    obtain ⟨schedule, hs, hsame⟩ := hlast schedule' hs'
    rw [hsame]
    exact h.last schedule hs id renewal hrenewal

theorem Renews.origin_of_endsOn (h : site.Renews later past) {r : Subscription}
    (hr : r ∈ site.world.store.subscriptions) {date : Date} (hends : r.EndsOn date) :
    ∃ o ∈ past.flatMap Moment.created, o.id = r.id ∧ ∃ t, o.endsAt = some t ∧ t.date = date := by
  obtain ⟨o, ho, hid, hfollows⟩ := h.rows r hr
  obtain ⟨t, ht, hdate⟩ := hends.2.2
  exact ⟨o, ho, hid, t, (hfollows.endsAt_eq hends).symm.trans ht, hdate⟩

theorem Renews.lt_of_isDue (h : site.Renews later past) {schedule : Schedule}
    (hs : site.schedule = some schedule) {today : Date}
    (hdue : Schedule.isDue schedule.lastProcessed today = true) {id : Id} {p : Date × Invoice}
    (hp : p ∈ past.flatMap (Moment.renewals id)) : p.1 < today := by
  obtain ⟨last, hlast, hle⟩ := h.last schedule hs id p hp
  exact Int.lt_of_le_of_lt hle (Schedule.lt_of_isDue hdue hlast)

/-- What ends on a day that is due was not invoiced before, since that would have been on the day. -/
theorem Renews.not_renewed (h : site.Renews later past)
    (hids : (site.world.store.subscriptions.map (·.id)).Nodup) {schedule : Schedule}
    (hs : site.schedule = some schedule) {today : Date}
    (hdue : Schedule.isDue schedule.lastProcessed today = true) {r : Subscription}
    (hr : r ∈ site.world.store.subscriptions) (hends : r.EndsOn today) :
    past.flatMap (Moment.renewals r.id) = [] := by
  apply List.eq_nil_iff_forall_not_mem.mpr
  intro p hp
  obtain ⟨o, ho, hid, t, ht, hdate⟩ := h.origin_of_endsOn hr hends
  obtain ⟨o', ho', hid', t', ht', hdate'⟩ := h.origin r.id p hp
  obtain rfl := h.origin_unique hids ho ho' (hid.trans hid'.symm)
  obtain rfl : t = t' := Option.some.inj (ht.symm.trans ht')
  have hlt := h.lt_of_isDue hs hdue hp
  rw [← hdate', hdate] at hlt
  exact Int.lt_irrefl _ hlt

/-- A tick that runs its day. -/
theorem Renews.ran (h : site.Renews later past) {env : Chances} {today : Date}
    {schedule : Schedule} (hids : (site.world.store.subscriptions.map (·.id)).Nodup)
    (hrows : (site.turn dueDays env (.tick today)).world.store.Follows
      (past.flatMap Moment.created) later')
    (hs : site.schedule = some schedule)
    (hdue : Schedule.isDue schedule.lastProcessed today = true)
    (hlast : ∀ schedule', (site.turn dueDays env (.tick today)).schedule = some schedule' →
      schedule'.lastProcessed = some today)
    (hissued : DailyRun.Issued today site.world.store
      (site.turn dueDays env (.tick today)).world.store) :
    (site.turn dueDays env (.tick today)).Renews later'
      (past ++ [site.moment dueDays (env, .turn (.tick today))]) := by
  obtain ⟨issued, hinvoices, hone⟩ := hissued
  set m := site.moment dueDays (env, .turn (.tick today)) with hm
  have hmissued : m.issued = issued := Moment.issued_eq hinvoices
  have hcreated : (past ++ [m]).flatMap Moment.created =
      past.flatMap Moment.created ++ m.created := by simp
  have hrenewals : ∀ id, (past ++ [m]).flatMap (Moment.renewals id) =
      past.flatMap (Moment.renewals id) ++
        (issued.filter (·.subscriptionId == id)).map (today, ·) := by
    intro id
    rw [← hmissued]
    simp [hm, moment, Moment.renewals]
  refine ⟨?_, ?_, ?_, ?_, ?_⟩
  · rw [hcreated, List.map_append, ← h.ids]
    exact ids_created dueDays site (env, .turn (.tick today))
  · rw [hcreated]
    exact hrows.append _
  · intro id
    rw [hrenewals]
    rcases hone id with hnone | ⟨i, hi, r, hr, rfl, hends⟩
    · rw [hnone, List.map_nil, List.append_nil]
      exact h.once id
    · rw [h.not_renewed hids hs hdue hr hends, hi]
      exact Nat.le_refl 1
  · intro id p hp
    rw [hrenewals] at hp
    rw [hcreated]
    rcases List.mem_append.mp hp with hold | hmine
    · obtain ⟨o, ho, horigin⟩ := h.origin id p hold
      exact ⟨o, List.mem_append_left _ ho, horigin⟩
    · obtain ⟨i, hi, rfl⟩ := List.mem_map.mp hmine
      rcases hone id with hnone | ⟨_, _, r, hr, rfl, hends⟩
      · simp [hnone] at hi
      · obtain ⟨o, ho, horigin⟩ := h.origin_of_endsOn hr hends
        exact ⟨o, List.mem_append_left _ ho, horigin⟩
  · intro schedule' hs' id p hp
    rw [hrenewals] at hp
    refine ⟨today, hlast schedule' hs', ?_⟩
    rcases List.mem_append.mp hp with hold | hmine
    · exact Int.le_of_lt (h.lt_of_isDue hs hdue hold)
    · obtain ⟨i, hi, rfl⟩ := List.mem_map.mp hmine
      exact Int.le_refl _

theorem Renews.tick (h : site.Renews later past) (env : Chances) (today : Date)
    (hids : (site.world.store.subscriptions.map (·.id)).Nodup)
    (hlater : ∀ t, later' t → later t) :
    (site.step dueDays (env, .turn (.tick today))).Renews later'
      (past ++ [site.moment dueDays (env, .turn (.tick today))]) := by
  have hrows : (site.turn dueDays env (.tick today)).world.store.Follows
      (past.flatMap Moment.created) later' :=
    keeps_turn (Store.Follows.keeps _ _) (.tick today) (h.rows.mono hlater)
  have hticks : Ticks today site (site.turn dueDays env (.tick today)) := ticks hids
  cases hticks with
  | idle hexpired hlast =>
    exact h.quiet (hrows.append _) (Moment.renewals_eq_nil hexpired.invoices) hlast
  | ran hs _ hdue hlast hissued => exact h.ran hids hrows hs hdue hlast hissued

theorem Renews.step (h : site.Renews later past) {env : Chances} {action : Action}
    (haction : action ≠ .turn .restart)
    (hids : (site.world.store.subscriptions.map (·.id)).Nodup)
    (hnow : ∀ w, later (env w).now) (hlater : ∀ t, later' t → later t ∧ ∀ w, (env w).now < t) :
    (site.step dueDays (env, action)).Renews later'
      (past ++ [site.moment dueDays (env, action)]) := by
  cases action with
  | operation op =>
    obtain ⟨w, hwritten⟩ := Subscribing.written_operation env op site.world
    refine h.quiet ?_ (fun _ => rfl) fun schedule hs => ⟨schedule, hs, rfl⟩
    exact hwritten.follows h.rows hids (hnow w) fun t ht => ⟨(hlater t ht).1, (hlater t ht).2 w⟩
  | billing call =>
    refine h.quiet ?_ (fun _ => rfl) fun schedule hs => ⟨schedule, hs, rfl⟩
    refine Store.Follows.append ?_ _
    intro r hr
    rw [Site.step, call.subscriptions_run dueDays env site.world] at hr
    exact h.rows.mono (fun t ht => (hlater t ht).1) r hr
  | turn t =>
    cases t with
    | tick today => exact h.tick env today hids fun t ht => (hlater t ht).1
    | restart => exact absurd rfl haction

theorem Renews.run (h : site.Renews later past) {steps : List (Chances × Action)}
    (hone : ∀ p ∈ steps, p.2 ≠ .turn .restart)
    (hclock : steps.Pairwise fun p next => Chances.Before p.1 next.1)
    (hlater : ∀ p ∈ steps, ∀ w, later (p.1 w).now) {start : Store} (hnone : start.subscriptions = [])
    (hgrows : start.Grows site.world.store)
    (hbound : (site.run dueDays steps).world.store.created ≤ Id.bound) :
    (site.run dueDays steps).Renews (fun _ => False) (past ++ site.history dueDays steps) := by
  induction steps generalizing site past later with
  | nil =>
    rw [history, List.append_nil]
    exact ⟨h.ids, h.rows.mono fun _ => False.elim, h.once, h.origin, h.last⟩
  | cons p rest ih =>
    obtain ⟨env, action⟩ := p
    obtain ⟨hbefore, hclock'⟩ := List.pairwise_cons.mp hclock
    have hgrows' := hgrows.trans (site.grows_step dueDays (env, action))
    have hcreated : site.world.store.created ≤ Id.bound := by
      have hstep := (site.grows_step dueDays (env, action)).created
      have hrest := ((site.step dueDays (env, action)).grows_run dueDays rest).created
      exact Nat.le_trans (Nat.le_trans hstep hrest) hbound
    have hids := hgrows.nodup hnone hcreated
    have hstep : (site.step dueDays (env, action)).Renews
        (fun t => later t ∧ ∀ w, (env w).now < t)
        (past ++ [site.moment dueDays (env, action)]) := by
      refine h.step (hone (env, action) (by simp)) hids (hlater (env, action) (by simp)) ?_
      exact fun t ht => ht
    have hrun := ih hstep (fun p hp => hone p (by simp [hp])) hclock' ?_ hgrows' hbound
    · rw [history, List.append_cons]
      exact hrun
    · intro p hp w
      exact ⟨hlater p (by simp [hp]) w, fun w' => hbefore p hp w' w⟩

/-- Whatever is refused, if every action comes after the one before it, each subscription is invoiced
by the renewals at most once, and that on the date of the end that it was created with. -/
theorem renewed_once (dueDays : Nat) (steps : List (Chances × Action)) (start : Store)
    (hnone : start.subscriptions = []) (hone : ∀ p ∈ steps, p.2 ≠ .turn .restart)
    (hclock : steps.Pairwise fun p next => Chances.Before p.1 next.1)
    (hbound : (run dueDays { world := { store := start } } steps).world.store.created ≤ Id.bound) :
    let past := history dueDays { world := { store := start } } steps
    ∀ o ∈ past.flatMap Moment.created,
      (past.flatMap (Moment.renewals o.id)).length ≤ 1 ∧
        ∀ renewal ∈ past.flatMap (Moment.renewals o.id),
          ∃ t, o.endsAt = some t ∧ t.date = renewal.1 := by
  intro past o ho
  have hstart : Renews (fun _ => True) [] { world := { store := start } } :=
    ⟨by simp [hnone], by simp [Store.Follows, hnone], by simp, by simp, by simp⟩
  have h := hstart.run hone hclock (fun _ _ _ => trivial) hnone (.refl start) hbound
  rw [List.nil_append] at h
  refine ⟨h.once o.id, ?_⟩
  intro renewal hrenewal
  obtain ⟨o', ho', hid, hdate⟩ := h.origin o.id renewal hrenewal
  have hids := (grows_run dueDays { world := { store := start } } steps).nodup hnone hbound
  obtain rfl := h.origin_unique hids ho ho' hid.symm
  exact hdate

/-! A subscription that is taken out, and two ticks on the day on which its first cycle ends. -/

def cycleDate : Date := DailyRun.monthDate

def cycleNoon : Instant := ⟨19914 * 86400000000000 + 43200000000000, by decide, by decide⟩

def cycleId : Id := .ofNat 0xffff000000000001

def cycleStart : Site := { world := { store := { packages := [DailyRun.plainPackage] } } }

def cycleSteps : List (Chances × Action) :=
  [(fun _ => { now := DailyRun.plainNoon },
      .operation (.subscribe ⟨.user, .ofNat 1⟩ DailyRun.plainPackage false)),
    (fun _ => { now := DailyRun.nextNoon }, .turn (.tick cycleDate)),
    (fun _ => { now := cycleNoon }, .turn (.tick cycleDate))]

theorem renewed_once_cycle :
    let past := history 14 cycleStart cycleSteps
    cycleStart.world.store.subscriptions = [] ∧
      (∀ p ∈ cycleSteps, p.2 ≠ .turn .restart) ∧
      cycleSteps.Pairwise (fun p next => Chances.Before p.1 next.1) ∧
      (run 14 cycleStart cycleSteps).world.store.created ≤ Id.bound ∧
      (past.flatMap Moment.created).map (·.id) = [cycleId] ∧
      (past.flatMap (Moment.renewals cycleId)).map (·.1) = [cycleDate] ∧
      ∀ o ∈ past.flatMap Moment.created,
        (past.flatMap (Moment.renewals o.id)).length ≤ 1 ∧
          ∀ renewal ∈ past.flatMap (Moment.renewals o.id),
            ∃ t, o.endsAt = some t ∧ t.date = renewal.1 := by
  have hone : ∀ p ∈ cycleSteps, p.2 ≠ .turn .restart := by simp [cycleSteps]
  have hclock : cycleSteps.Pairwise fun p next => Chances.Before p.1 next.1 := by
    have hfirst : DailyRun.plainNoon < DailyRun.nextNoon := by decide
    have hlast : DailyRun.plainNoon < cycleNoon := by decide
    have hnext : DailyRun.nextNoon < cycleNoon := by decide
    simp [cycleSteps, Chances.Before, hfirst, hlast, hnext]
  have hbound : (run 14 cycleStart cycleSteps).world.store.created ≤ Id.bound := by decide +kernel
  exact ⟨rfl, hone, hclock, hbound, by decide +kernel, by decide +kernel,
    renewed_once 14 cycleSteps _ rfl hone hclock hbound⟩

end Site

end RecurringBilling
