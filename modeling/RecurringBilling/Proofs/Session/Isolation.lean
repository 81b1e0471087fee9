import RecurringBilling.Proofs.Lifecycle.Lookups
import RecurringBilling.Proofs.Lifecycle.Validity
import RecurringBilling.Proofs.Session.Requests
import RecurringBilling.Proofs.Store.Ownership

/-! The sessions of a subscriber are about that subscriber alone. What others have stays as it is,
and all answers are made from the rest. -/

namespace RecurringBilling

open Procedure

namespace Contract

/-- Requests about a subscriber and nobody else, where the store tells what is of others. -/
def about (subscriber : Subscriber) (e : Store) : Contract where
  asks
    | .findValidSubscription asked | .hasValidSubscription asked _ | .findResumable asked _
    | .listSubscriptions asked => asked = subscriber
    | .listFeatures _ => True
    | .createSubscription row _ => row.IsOf subscriber
    | .switchPlan id _ row _ => e.isForeign subscriber id = false ∧ row.IsOf subscriber
    | .updateSubscription id _ | .findItem id _ | .listUsageLogs id _ _ =>
      e.isForeign subscriber id = false
    | .incrementUsage id _ _ => e.isForeignItem subscriber id = false
    | .createUsageLog row => e.isForeign subscriber row.subscriptionId = false
    | .listInvoices ids => ∀ id ∈ ids, e.isForeign subscriber id = false
    | _ => False
  told
    | .findValidSubscription _, found | .findResumable _ _, found => ∀ r, found = some r →
      r.belongsTo subscriber = true ∧ e.isForeign subscriber r.id = false
    | .listSubscriptions _, rows => ∀ r ∈ rows, e.isForeign subscriber r.id = false
    | .findItem _ _, found => ∀ x, found = some x → e.isForeignItem subscriber x.1.id = false
    | _, _ => True

variable {subscriber : Subscriber} {e s t : Store} {now : Instant}

theorem told_about {r : Request} {reply : r.Reply} (h : e.Aside subscriber s)
    (hunique : s.UniqueIds) (hasks : (about subscriber e).asks r)
    (ha : s.answer now r = .ok (reply, t)) : (about subscriber e).told r reply := by
  have hheld : ∀ {r}, s.Holds subscriber r → r.belongsTo subscriber = true ∧
      e.isForeign subscriber r.id = false :=
    fun hr => ⟨hr.2.2, h.isForeign hunique hr.1 hr.2.2⟩
  cases r with
  | findValidSubscription asked =>
    obtain rfl : asked = subscriber := hasks
    obtain ⟨rfl, rfl⟩ : s.findValidSubscription asked = reply ∧ s = t := by
      simpa [Store.answer] using ha
    exact fun r hr => hheld (Store.findValidSubscription_eq_some hr).1
  | findResumable asked after =>
    obtain rfl : asked = subscriber := hasks
    obtain ⟨rfl, rfl⟩ : s.findResumable asked after = reply ∧ s = t := by
      simpa [Store.answer] using ha
    exact fun r hr => hheld (Store.findResumable_eq_some hr).1
  | listSubscriptions asked =>
    obtain rfl : asked = subscriber := hasks
    obtain ⟨rfl, rfl⟩ : s.subscriptionsOf asked = reply ∧ s = t := by
      simpa [Store.answer] using ha
    intro r hr
    have hr := mem_sortedBy.mp hr
    simp only [Store.liveSubscriptions, List.mem_filter] at hr
    exact h.isForeign hunique hr.1.1 hr.2
  | findItem id slug =>
    obtain ⟨rfl, rfl⟩ : s.findItem id slug = reply ∧ s = t := by simpa [Store.answer] using ha
    rintro ⟨item, feature⟩ hfound
    refine h.isForeignItem hunique (Store.findItem_eq_some hfound).1 ?_
    rw [Store.subscriptionId_of_findItem hfound]
    exact hasks
  | _ => trivial

theorem aside_of_asked {r : Request} {reply : r.Reply} (h : e.Aside subscriber s)
    (hunique : t.UniqueIds) (hasks : (about subscriber e).asks r)
    (ha : s.answer now r = .ok (reply, t)) : e.Aside subscriber t := by
  cases r with
  | createSubscription row seeds =>
    have hadds := Store.adds_of_created (Except.ok.inj ha)
    exact h.add hadds hasks (h.isForeign_new hadds hunique)
  | switchPlan id changes row seeds =>
    obtain ⟨between, hu, hcreated⟩ := Store.switchPlan_eq_ok ha
    have hadds := Store.adds_of_created hcreated
    have hbetween := h.update hasks.1 hu
    exact hbetween.add hadds hasks.2 (hbetween.isForeign_new hadds hunique)
  | updateSubscription id changes => exact h.update hasks ha
  | incrementUsage id amount limit => exact h.increment hasks ha
  | createUsageLog row =>
    obtain rfl : (s.createUsageLog now row).2 = t := congrArg Prod.snd (Except.ok.inj ha)
    refine ⟨h.subscriptions, h.items, ?_, h.invoices⟩
    have hown : e.isForeign subscriber row.subscriptionId = false := hasks
    simp only [Store.createUsageLog, List.filter_append, h.usageLogs, List.filter_singleton, hown,
      cond_false, List.append_nil]
  | findValidSubscription asked | hasValidSubscription asked slug | findResumable asked after
  | listSubscriptions asked | listFeatures packageId | findItem id slug
  | listUsageLogs id featureId since | listInvoices ids =>
    obtain rfl : s = t := congrArg Prod.snd (Except.ok.inj ha)
    exact h
  | _ => exact hasks.elim

/-- A switch of the plan changes a row of the subscriber and adds one, if identifiers are still
unique after it. -/
theorem switchPlan_without {id : Id} {changes : SubscriptionChanges} {row : NewSubscription}
    {seeds : List ItemSeed} (h : e.Aside subscriber s) (hid : e.isForeign subscriber id = false)
    (hrow : row.IsOf subscriber)
    (hunique : ∀ rows t, s.switchPlan now id changes row seeds = .ok (rows, t) → t.UniqueIds) :
    (s.without (e.isForeign subscriber) subscriber).switchPlan now id changes row seeds =
      (s.switchPlan now id changes row seeds).map fun x =>
        (x.1, x.2.without (e.isForeign subscriber) subscriber) := by
  simp only [Store.switchPlan] at hunique ⊢
  rw [h.update_without hid]
  cases hu : s.updateSubscription id changes with
  | error refusal => rfl
  | ok updated =>
    obtain ⟨old, between⟩ := updated
    simp only [hu] at hunique
    have hadds : between.Adds row seeds (between.createSubscription now row seeds).1 _ :=
      Store.adds_of_created rfl
    have hfresh := (h.update hid hu).isForeign_new hadds (hunique _ _ rfl)
    have hcreate := Store.createSubscription_without hrow hfresh now seeds
    simp only [Except.map, hcreate]

/-- The answer to such a request is made from the rows that are not of others. -/
theorem answer_without {r : Request} (h : e.Aside subscriber s)
    (hasks : (about subscriber e).asks r)
    (hunique : ∀ reply t, s.answer now r = .ok (reply, t) → t.UniqueIds) :
    (s.without (e.isForeign subscriber) subscriber).answer now r =
      (s.answer now r).map fun x => (x.1, x.2.without (e.isForeign subscriber) subscriber) := by
  cases r with
  | findValidSubscription asked =>
    obtain rfl : asked = subscriber := hasks
    simp only [Store.answer, Store.findValidSubscription_without, Except.map]
  | hasValidSubscription asked slug =>
    obtain rfl : asked = subscriber := hasks
    simp only [Store.answer, Store.hasValidSubscription_without, Except.map]
  | findResumable asked after =>
    obtain rfl : asked = subscriber := hasks
    simp only [Store.answer, Store.findResumable_without, Except.map]
  | listSubscriptions asked =>
    obtain rfl : asked = subscriber := hasks
    simp only [Store.answer, Store.subscriptionsOf_without, Except.map]
  | listFeatures packageId => rfl
  | createSubscription row seeds =>
    have hadds : s.Adds row seeds (s.createSubscription now row seeds).1 _ :=
      Store.adds_of_created rfl
    have hfresh := h.isForeign_new hadds (hunique _ _ rfl)
    exact congrArg Except.ok (Store.createSubscription_without hasks hfresh now seeds)
  | switchPlan id changes row seeds => exact switchPlan_without h hasks.1 hasks.2 hunique
  | updateSubscription id changes => exact h.update_without hasks
  | findItem id slug =>
    have hid : e.isForeign subscriber id = false := hasks
    simp only [Store.answer, Store.findItem_without hid, Except.map]
  | incrementUsage id amount limit => exact h.increment_without hasks
  | createUsageLog row => exact congrArg Except.ok (Store.createUsageLog_without hasks)
  | listUsageLogs id featureId since =>
    have hid : e.isForeign subscriber id = false := hasks
    simp only [Store.answer, Store.logsSince_without hid, Except.map]
  | listInvoices ids =>
    have hids : ∀ id ∈ ids, e.isForeign subscriber id = false := hasks
    simp only [Store.answer, Store.invoicesOf_without hids, Except.map]
  | _ => exact hasks.elim

theorem reads_about : (about subscriber e).Reads subscriber fun r =>
    r.belongsTo subscriber = true ∧ e.isForeign subscriber r.id = false where
  current := rfl
  current_told _ htold := htold _ rfl
  subscribed _ := rfl
  resumable _ := rfl
  resumable_told _ _ htold := htold _ rfl
  item _ _ hr := hr.2
  count _ _ found _ _ _ htold := htold found rfl
  log r row hr hrow := by
    change e.isForeign subscriber row.subscriptionId = false
    rw [hrow]
    exact hr.2
  logs _ _ _ hr := hr.2
  listed := rfl
  invoices rows htold id hid := by
    obtain ⟨r, hr, rfl⟩ := List.mem_map.mp hid
    exact htold r hr

theorem changes_about (package? : Option Package) : (about subscriber e).Changes subscriber
    (fun r => r.belongsTo subscriber = true ∧ e.isForeign subscriber r.id = false) package? where
  update _ _ hr := hr.2
  features _ _ := trivial
  create _ _ _ _ _ := ⟨rfl, rfl⟩
  switch package r owner changes now seeds _ hr howner := by
    obtain rfl : subscriber = owner :=
      Option.some.inj ((Subscription.subscriber?_of_belongsTo hr.1).symm.trans howner)
    exact ⟨hr.2, rfl, rfl⟩

end Contract

namespace Visit

variable {subscriber : Subscriber} {e : Store} {v : Visit} {env : Chances} {c : SessionCall}

/-- The visit on the part of the store that is not of others. -/
def without (foreign : Id → Bool) (v : Visit) : Visit :=
  ⟨v.session, v.world.withStore (v.world.store.without foreign v.session.subscriber)⟩

/-- What the calls of a session keep: the rows of others, and that the session remembers one that is
not. -/
structure Minds (subscriber : Subscriber) (e : Store) (v : Visit) : Prop where
  owner : v.session.subscriber = subscriber
  aside : e.Aside subscriber v.world.store
  remembered : ∀ r, v.session.remembered = some (some r) →
    r.belongsTo subscriber = true ∧ e.isForeign subscriber r.id = false

theorem step_about {s : Store} (now : Instant) (r : Request) (reply : r.Reply) (t : Store)
    (hs : e.Aside subscriber s) (ht : t.UniqueIds) (hasks : (Contract.about subscriber e).asks r)
    (ha : s.answer now r = .ok (reply, t)) :
    (Contract.about subscriber e).told r reply ∧ e.Aside subscriber t :=
  ⟨Contract.told_about hs (ht.of_retains (Store.retains_of_answer ha)) hasks ha,
    Contract.aside_of_asked hs ht hasks ha⟩

theorem Minds.after (h : v.Minds subscriber e) (env : Chances) (c : SessionCall)
    (hunique : (v.after env c).world.store.UniqueIds) : (v.after env c).Minds subscriber e := by
  obtain ⟨rfl, haside, hremembered⟩ := h
  obtain ⟨hafter, hsame, hkept⟩ := keeps_after (e.Aside v.session.subscriber) Store.UniqueIds
    (fun hretains hlater => hlater.of_retains hretains) (fun _ => step_about) env
    Contract.reads_about (Contract.changes_about _) hremembered haside hunique
  exact ⟨hsame, hafter, hkept⟩

theorem turn_without (h : v.Minds subscriber e) (henv : env.IgnoresStore)
    (hunique : (v.after env c).world.store.UniqueIds) :
    (v.without (e.isForeign subscriber)).turn env c =
      (v.outcome env c, (v.after env c).without (e.isForeign subscriber)) := by
  obtain ⟨rfl, haside, hremembered⟩ := h
  have hback : ∀ {s t : Store}, s.Retains t → t.UniqueIds → s.UniqueIds :=
    fun hretains hlater => hlater.of_retains hretains
  have hview : ∀ {α : Type} {p : Procedure α} {post : α → Prop} {w : World},
      p.Honors (.about v.session.subscriber e) post → e.Aside v.session.subscriber w.store →
      (env.run p w).2.store.UniqueIds →
      env.run p (w.withStore (w.store.without (e.isForeign v.session.subscriber)
        v.session.subscriber)) =
      ((env.run p w).1, (env.run p w).2.withStore
        ((env.run p w).2.store.without (e.isForeign v.session.subscriber)
          v.session.subscriber)) :=
    fun hp hw hok => hp.run_view _ (e.Aside v.session.subscriber) Store.UniqueIds hback
      (fun _ => step_about) (fun _ _ _ hs hasks hlater => Contract.answer_without hs hasks hlater)
      henv hw hok
  have hfirst := Session.honors_operation Contract.reads_about hremembered c
  -- Unique identifiers are known of the last store alone. Where the first part came to something,
  -- the rest has gone on from there, and they go back to the store between the two.
  cases hrun : env.run (c.operation v.session) v.world with
  | mk first w =>
    have hsame := fun hok => hrun ▸ hview hfirst haside (hrun ▸ hok)
    cases first with
    | done result =>
      obtain ⟨session, rest⟩ := result
      rw [after, turn_of_done hrun] at hunique
      have hw := hback (env.retains_run rest w) hunique
      obtain ⟨hinv, hdone⟩ := hfirst.run _ _ hback (fun _ => step_about) env haside (hrun ▸ hw)
      rw [hrun] at hinv hdone
      have hsettles := hdone _ rfl
      have hrest := hsettles.changes (Contract.changes_about _)
      have hlater := hview hrest hinv hunique
      rw [outcome, after, turn_of_done hrun, turn_of_done (hsame hw), hlater, without,
        hsettles.subscriber]
    | failed error =>
      rw [after, turn_of_failed hrun] at hunique
      rw [outcome, after, turn_of_failed hrun, turn_of_failed (hsame hunique)]
      rfl
    | halted fault =>
      rw [after, turn_of_halted hrun] at hunique
      rw [outcome, after, turn_of_halted hrun, turn_of_halted (hsame hunique)]
      rfl

theorem minds_run {calls : List (Chances × SessionCall)} (h : v.Minds subscriber e)
    (hunique : (v.run calls).world.store.UniqueIds) : (v.run calls).Minds subscriber e := by
  induction calls generalizing v with
  | nil => exact h
  | cons call rest ih =>
    have hafter := hunique.of_retains ((v.after call.1 call.2).retains_run rest)
    exact ih (h.after call.1 call.2 hafter) hunique

theorem answers_without {calls : List (Chances × SessionCall)} (h : v.Minds subscriber e)
    (hcalls : ∀ call ∈ calls, call.1.IgnoresStore)
    (hunique : (v.run calls).world.store.UniqueIds) :
    (v.without (e.isForeign subscriber)).answers calls = v.answers calls := by
  induction calls generalizing v with
  | nil => rfl
  | cons call rest ih =>
    obtain ⟨env, c⟩ := call
    obtain ⟨henv, hrest⟩ := List.forall_mem_cons.mp hcalls
    have hafter := hunique.of_retains ((v.after env c).retains_run rest)
    have hturn := turn_without h henv hafter
    rw [answers, answers, outcome, after, hturn]
    exact congrArg _ (ih (h.after env c hafter) hrest hunique)

/-- The calls on the session of a subscriber leave all that others have as it is, and each answer is
the same for any two stores in which the subscriber sees the same. -/
theorem isolated (subscriber : Subscriber) (w : World) (calls : List (Chances × SessionCall))
    (hunique : ((opened subscriber w).run calls).world.store.UniqueIds) :
    (∀ other, other ≠ subscriber →
      w.store.Untouched other ((opened subscriber w).run calls).world.store) ∧
    ∀ s, w.store.Linked → s.Linked → s.seenBy subscriber = w.store.seenBy subscriber →
      ((opened subscriber (w.withStore s)).run calls).world.store.UniqueIds →
      (∀ call ∈ calls, call.1.IgnoresStore) →
        (opened subscriber (w.withStore s)).answers calls =
          (opened subscriber w).answers calls := by
  have hopened : ∀ w : World, (opened subscriber w).Minds subscriber w.store := by
    intro w
    refine ⟨rfl, .refl subscriber w.store, ?_⟩
    rintro r ⟨⟩
  refine ⟨fun other hother => (minds_run (hopened w) hunique).aside.untouched hother, ?_⟩
  intro s hlinked hlinked' hsame hunique' hcalls
  have hanswers := answers_without (hopened w) hcalls hunique
  have hanswers' := answers_without (hopened (w.withStore s)) hcalls hunique'
  rw [← hanswers, ← hanswers']
  have hseen := Store.without_eq_seenBy hlinked
    (hunique.of_retains ((opened subscriber w).retains_run calls)) subscriber
  have hseen' := Store.without_eq_seenBy hlinked'
    (hunique'.of_retains ((opened subscriber (w.withStore s)).retains_run calls)) subscriber
  have hworlds : (opened subscriber (w.withStore s)).without (s.isForeign subscriber) =
      (opened subscriber w).without (w.store.isForeign subscriber) := by
    simp only [without, opened]
    rw [show (w.withStore s).store = s from rfl, hseen, hseen', hsame]
    rfl
  exact congrArg (fun v => answers v calls) hworlds

/-! Two users with a limited feature, and the store that holds the first of them alone. -/

def seatsItem (user : Nat) : SubscriptionItem :=
  { subscriptionId := .ofNat user, featureId := Subscription.seatsFeature.id, value := some "5"
    usage := 0, id := .ofNat user, createdAt := .first, updatedAt := .first }

def seatsStore (users : List Nat) : Store :=
  { features := [Subscription.seatsFeature], packages := [DailyRun.plainPackage]
    subscriptions := users.map fun user => Subscribing.heldRow user .active none none
    items := users.map seatsItem }

def seatsCalls : List (Chances × SessionCall) :=
  [(DailyRun.plainChances, .subscription), (DailyRun.plainChances, .useFeature "seats" 1),
    (DailyRun.plainChances, .switchPlan DailyRun.plainPackage),
    (DailyRun.plainChances, .useFeature "seats" 1)]

theorem isolated_seats :
    let first : Subscriber := ⟨.user, .ofNat 1⟩
    let w : World := { store := seatsStore [1, 2] }
    ((opened first w).run seatsCalls).world.store.UniqueIds ∧
      (w.store.Linked ∧ (seatsStore [1]).Linked ∧
        (seatsStore [1]).seenBy first = w.store.seenBy first ∧
        ((opened first (w.withStore (seatsStore [1]))).run seatsCalls).world.store.UniqueIds ∧
        ∀ call ∈ seatsCalls, call.1.IgnoresStore) ∧
      w.store.Untouched ⟨.user, .ofNat 2⟩ ((opened first w).run seatsCalls).world.store ∧
      (opened first (w.withStore (seatsStore [1]))).answers seatsCalls =
        (opened first w).answers seatsCalls := by
  intro first w
  have hunique : ((opened first w).run seatsCalls).world.store.UniqueIds :=
    ⟨by decide +kernel, by decide +kernel⟩
  have hunique' :
      ((opened first (w.withStore (seatsStore [1]))).run seatsCalls).world.store.UniqueIds :=
    ⟨by decide +kernel, by decide +kernel⟩
  have hlinked : ∀ users, (seatsStore users).Linked := by
    intro users
    refine ⟨?_, by simp [seatsStore], by simp [seatsStore]⟩
    intro item hitem
    obtain ⟨user, huser, rfl⟩ := List.mem_map.mp hitem
    exact ⟨Subscribing.heldRow user .active none none, List.mem_map_of_mem huser, rfl⟩
  have hsame : (seatsStore [1]).seenBy first = w.store.seenBy first := rfl
  have hcalls : ∀ call ∈ seatsCalls, call.1.IgnoresStore := by
    intro call hcall w' s
    simp only [seatsCalls, List.mem_cons, List.not_mem_nil, or_false] at hcall
    rcases hcall with rfl | rfl | rfl | rfl <;> rfl
  obtain ⟨huntouched, hanswers⟩ := isolated first w seatsCalls hunique
  exact ⟨hunique, ⟨hlinked _, hlinked _, hsame, hunique', hcalls⟩,
    huntouched ⟨.user, .ofNat 2⟩ (by decide),
    hanswers (seatsStore [1]) (hlinked _) (hlinked _) hsame hunique' hcalls⟩

end Visit

end RecurringBilling
