import RecurringBilling.Proofs.Lifecycle.Creation
import RecurringBilling.Proofs.Lifecycle.Lookups
import RecurringBilling.Proofs.Session.Requests

/-! What a session remembers is what a lookup would find. It is filled by lookups alone, and only
operations that leave the subscriptions as they are go on after it was filled. -/

namespace RecurringBilling

open Procedure

namespace Store

variable {s s' : Store} {now : Instant}

/-- Whether every subscription is one of a package that is there, deleted or not. -/
def PackagesStored (s : Store) : Prop :=
  ∀ r ∈ s.subscriptions, (s.packageRow? r.packageId).isSome = true

theorem hasValidSubscription_eq_isSome (h : s.PackagesStored) (subscriber : Subscriber) :
    s.hasValidSubscription subscriber none = (s.findValidSubscription subscriber).isSome := by
  rw [Bool.eq_iff_iff, hasValidSubscription_iff, Option.isSome_iff_ne_none, ne_eq,
    findValidSubscription_eq_none]
  push Not
  constructor
  · rintro ⟨r, hr, hopen, _⟩
    exact ⟨r, hr, hopen⟩
  · rintro ⟨r, hr, hopen⟩
    exact ⟨r, hr, hopen, h r hr.1⟩

theorem findValidSubscription_congr (h : s'.subscriptions = s.subscriptions)
    (subscriber : Subscriber) :
    s'.findValidSubscription subscriber = s.findValidSubscription subscriber := by
  simp only [findValidSubscription, validSubscriptions, liveSubscriptions, h]

end Store

namespace Contract

/-- Requests that leave the subscriptions of a store as they are, with its answers to lookups. -/
def readingFrom (s : Store) : Contract where
  asks r := r.writesSubscriptions = false
  told
    | .findValidSubscription subscriber, found => found = s.findValidSubscription subscriber
    | _, _ => True

/-- Requests that leave the packages of a store as they are and refer to those alone. -/
def referringTo (s : Store) : Contract where
  asks
    | .createPackage _ | .upsertPackage _ => False
    | .createSubscription row _ | .switchPlan _ _ row _ => (s.packageRow? row.packageId).isSome
    | _ => True
  told _ _ := True

variable {s : Store}

theorem readingFrom_step {now : Instant} {t t' : Store} {r : Request} {reply : r.Reply}
    (ht : t.subscriptions = s.subscriptions) (hasks : (readingFrom s).asks r)
    (ha : t.answer now r = .ok (reply, t')) :
    (readingFrom s).told r reply ∧ t'.subscriptions = s.subscriptions := by
  have hsame := (Store.answer_of_not_writes hasks ha).1.trans ht
  refine ⟨?_, hsame⟩
  cases r with
  | findValidSubscription subscriber =>
    obtain ⟨rfl, _⟩ : t.findValidSubscription subscriber = reply ∧ t = t' := by
      simpa [Store.answer] using ha
    exact Store.findValidSubscription_congr ht subscriber
  | _ => trivial

theorem reads_readingFrom (subscriber : Subscriber) :
    (readingFrom s).Reads subscriber fun _ => True := by
  constructor <;> intros <;> first | rfl | trivial

theorem packages_of_asked {now : Instant} {t t' : Store} {r : Request} {reply : r.Reply}
    (hasks : (referringTo s).asks r) (ha : t.answer now r = .ok (reply, t')) :
    t'.packages = t.packages := by
  cases r with
  | createPackage row => exact hasks.elim
  | upsertPackage row => exact hasks.elim
  | createSubscription row seeds =>
    have hadds := Store.adds_of_created (Except.ok.inj ha)
    rw [hadds.others]
  | switchPlan id changes row seeds =>
    obtain ⟨between, hu, hcreated⟩ := Store.switchPlan_eq_ok ha
    rw [(Store.adds_of_created hcreated).others, (Store.updateSubscription_eq_ok hu).1]
  | updateSubscription id changes => rw [(Store.updateSubscription_eq_ok ha).1]
  | listExpiring date autoRenew =>
    obtain rfl := Store.eq_of_map_eq_ok (x := t.expiring date autoRenew) ha
    rfl
  | totalRevenue =>
    obtain rfl := Store.eq_of_map_eq_ok (x := t.totalRevenue) ha
    rfl
  | _ =>
    simp only [Store.answer, Store.upsertFeature, Store.createFeature, Store.syncFeatures,
      Store.incrementUsage, Store.resetUsage, Store.resetAllUsage, Store.createUsageLog,
      Store.createInvoice, Store.updateInvoice, Store.createTransaction, Store.updateTransaction,
      Store.updated] at ha
    repeat' split at ha
    all_goals grind

/-- Whether a store has just these packages and each of its subscriptions is one of them. -/
structure RefersTo (s t : Store) : Prop where
  packages : t.packages = s.packages
  rows : ∀ r ∈ t.subscriptions, (s.packageRow? r.packageId).isSome = true

theorem RefersTo.stored {t : Store} (h : RefersTo s t) : t.PackagesStored := by
  intro r hr
  rw [Store.packageRow?, h.packages]
  exact h.rows r hr

theorem RefersTo.update {t t' : Store} {id : Id} {changes : SubscriptionChanges}
    {row : Subscription} (h : RefersTo s t) (hu : t.updateSubscription id changes = .ok (row, t')) :
    RefersTo s t' := by
  obtain ⟨hothers, _, hrows⟩ := Store.updateSubscription_eq_ok hu
  refine ⟨(congrArg Store.packages hothers).trans h.packages, ?_⟩
  intro x hx
  rcases hrows x hx with hold | ⟨old, hold, _, rfl⟩
  · exact h.rows x hold
  · exact h.rows old hold

theorem RefersTo.add {t t' : Store} {new : NewSubscription} {seeds : List ItemSeed}
    {row : Subscription} (h : RefersTo s t)
    (hnew : (s.packageRow? new.packageId).isSome = true) (hadds : t.Adds new seeds row t') :
    RefersTo s t' := by
  refine ⟨(congrArg Store.packages hadds.others).trans h.packages, ?_⟩
  intro x hx
  rw [hadds.subscriptions] at hx
  rcases List.mem_append.mp hx with hx | hx
  · exact h.rows x hx
  · obtain rfl := List.mem_singleton.mp hx
    rw [hadds.content]
    exact hnew

theorem referringTo_step {now : Instant} {t t' : Store} {r : Request} {reply : r.Reply}
    (h : RefersTo s t) (hasks : (referringTo s).asks r) (ha : t.answer now r = .ok (reply, t')) :
    RefersTo s t' := by
  cases r with
  | createSubscription new seeds => exact h.add hasks (Store.adds_of_created (Except.ok.inj ha))
  | switchPlan id changes new seeds =>
    obtain ⟨between, hu, hcreated⟩ := Store.switchPlan_eq_ok ha
    exact (h.update hu).add hasks (Store.adds_of_created hcreated)
  | updateSubscription id changes => exact h.update ha
  | _ =>
    refine ⟨(packages_of_asked hasks ha).trans h.packages, ?_⟩
    rw [(Store.answer_of_not_writes rfl ha).1]
    exact h.rows

theorem reads_referringTo (subscriber : Subscriber) :
    (referringTo s).Reads subscriber fun _ => True := by
  constructor <;> intros <;> trivial

theorem changes_referringTo (subscriber : Subscriber) {package? : Option Package}
    (h : ∀ package, package? = some package → (s.packageRow? package.id).isSome = true) :
    (referringTo s).Changes subscriber (fun _ => True) package? := by
  constructor
  · intros
    trivial
  · intros
    trivial
  · intro package withTrial now seeds hpackage
    exact h package hpackage
  · intro package r owner changes now seeds hpackage _ _
    exact h package hpackage

end Contract

/-- The subscription of a session is what it remembers or else what a lookup finds. -/
theorem Session.run_resolve_cases (s : Session) (env : Chances) (w : World) :
    (∃ e, (env w).refusal = some e ∧ ∃ w', env.run s.resolve w = (.failed (.storage e), w')) ∨
    ∃ s' w', env.run s.resolve w =
      (.done (s', s.remembered.getD (w.store.findValidSubscription s.subscriber)), w') := by
  unfold resolve
  cases s.remembered with
  | some current => exact .inr ⟨s, w, rfl⟩
  | none =>
    cases hrefusal : (env w).refusal with
    | some e =>
      refine .inl ⟨e, rfl, w.called (.findValidSubscription s.subscriber) (.error e), ?_⟩
      simp [lookUp, Subscribing.current?, World.answer, hrefusal]
    | none =>
      refine .inr ⟨{ s with remembered := some (w.store.findValidSubscription s.subscriber) },
        w.called (.findValidSubscription s.subscriber)
          (.ok (w.store.findValidSubscription s.subscriber)), ?_⟩
      simp [lookUp, Subscribing.current?, World.answer, hrefusal, Store.answer, World.withStore]

namespace Visit

/-- Whether the session remembers nothing, or what a lookup would find. -/
def Coherent (v : Visit) : Prop :=
  v.session.remembered = none ∨
    v.session.remembered = some (v.world.store.findValidSubscription v.session.subscriber)

theorem coherent_after {v : Visit} (h : v.Coherent) (env : Chances) (c : SessionCall) :
    (v.after env c).Coherent ∧ (v.after env c).session.subscriber = v.session.subscriber := by
  -- `w` is the world after the first part of the call, in which nothing is written
  have hreads := Contract.reads_readingFrom (s := v.world.store) v.session.subscriber
  have hrun : ∀ {α : Type} {p : Procedure α} {post : α → Prop} {w : World},
      p.Honors (.readingFrom v.world.store) post →
      w.store.subscriptions = v.world.store.subscriptions →
      (env.run p w).2.store.subscriptions = v.world.store.subscriptions ∧
        ∀ a, (env.run p w).1 = .done a → post a :=
    fun hp hw => hp.run (fun t => t.subscriptions = v.world.store.subscriptions) (fun _ => True)
      (fun _ _ => trivial)
      (fun _ _ _ _ _ ht _ hasks ha => Contract.readingFrom_step ht hasks ha) env hw trivial
  obtain ⟨hw, hdone⟩ := hrun (Session.honors_operation hreads (fun _ _ => trivial) c) rfl
  rcases v.after_cases env c with ⟨session, rest, w, hfirst, hafter⟩ | hafter
  · rw [hfirst] at hw hdone
    have hsettles := hdone _ rfl
    rw [hafter]
    refine ⟨?_, hsettles.subscriber⟩
    by_cases hnone : session.remembered = none
    · exact .inl hnone
    · -- the session has not forgotten, so that the rest leaves the subscriptions as they are
      have hrest := Store.findValidSubscription_congr (hrun (hsettles.uses hnone) hw).1
      refine .inr ?_
      rw [hrest, hsettles.subscriber]
      rcases hsettles.remembered with hforgot | hkept | ⟨current, htold, hcurrent⟩
      · exact absurd hforgot hnone
      · rw [hkept] at hnone ⊢
        exact h.resolve_left hnone
      · rw [hcurrent]
        exact congrArg some htold
  · have hfound := Store.findValidSubscription_congr hw
    rw [hafter]
    unfold Coherent
    rw [hfound]
    exact ⟨h, rfl⟩

theorem refersTo_run {s : Store} {v : Visit} {calls : List (Chances × SessionCall)}
    (h : Contract.RefersTo s v.world.store)
    (hcalls : ∀ call ∈ calls, ∀ package, call.2.package? = some package →
      (s.packageRow? package.id).isSome = true) :
    Contract.RefersTo s (v.run calls).world.store := by
  induction calls generalizing v with
  | nil => exact h
  | cons call rest ih =>
    obtain ⟨hcall, hrest⟩ := List.forall_mem_cons.mp hcalls
    have hafter := keeps_after (Contract.RefersTo s) (fun _ => True) (fun _ _ => trivial)
      (fun _ _ _ _ _ hs _ hasks ha => ⟨trivial, Contract.referringTo_step hs hasks ha⟩) call.1
      (Contract.reads_referringTo v.session.subscriber)
      (Contract.changes_referringTo v.session.subscriber hcall) (fun _ _ => trivial) h trivial
    exact ih hafter.1 hrest

theorem coherent_run {v : Visit} (h : v.Coherent) (calls : List (Chances × SessionCall)) :
    (v.run calls).Coherent ∧ (v.run calls).session.subscriber = v.session.subscriber := by
  induction calls generalizing v with
  | nil => exact ⟨h, rfl⟩
  | cons call rest ih =>
    obtain ⟨hafter, hsubscriber⟩ := coherent_after h call.1 call.2
    obtain ⟨hrest, hsame⟩ := ih hafter
    exact ⟨hrest, hsame.trans hsubscriber⟩

/-- To ask for the subscription gives what a lookup would find, unless that is refused. -/
theorem outcome_subscription {v : Visit} (h : v.Coherent) (env : Chances) :
    v.outcome env .subscription =
        .done (v.world.store.findValidSubscription v.session.subscriber) ∨
      ∃ e, (env v.world).refusal = some e ∧
        v.outcome env .subscription = .failed (.storage e) := by
  rcases v.session.run_resolve_cases env v.world with ⟨e, hrefusal, w, hresolve⟩ |
      ⟨session, w, hresolve⟩
  · have hrun : env.run (Session.subscription v.session) v.world = (.failed (.storage e), w) := by
      rw [Session.subscription, Session.withSubscription, Chances.run_bind, hresolve,
        Outcome.andThen_failed]
    exact .inr ⟨e, hrefusal, congrArg Prod.fst (turn_of_failed hrun)⟩
  · have hfresh : v.session.remembered.getD (v.world.store.findValidSubscription
        v.session.subscriber) = v.world.store.findValidSubscription v.session.subscriber := by
      rcases h with hnone | hsome
      · rw [hnone, Option.getD_none]
      · rw [hsome, Option.getD_some]
    rw [hfresh] at hresolve
    have hrun : ∃ rest, env.run (Session.subscription v.session) v.world =
        (.done (session, rest), w) ∧ (env.run rest w).1 =
          .done (v.world.store.findValidSubscription v.session.subscriber) := by
      rw [Session.subscription, Session.withSubscription, Chances.run_bind, hresolve,
        Outcome.andThen_done]
      cases v.world.store.findValidSubscription v.session.subscriber with
      | none => exact ⟨_, rfl, rfl⟩
      | some r => exact ⟨_, rfl, rfl⟩
    obtain ⟨rest, hdone, hanswer⟩ := hrun
    exact .inl ((congrArg Prod.fst (turn_of_done hdone)).trans hanswer)

theorem outcome_isSubscribed {v : Visit} (hstored : v.world.store.PackagesStored) (env : Chances) :
    v.outcome env .isSubscribed =
        .done (v.world.store.findValidSubscription v.session.subscriber).isSome ∨
      ∃ e, (env v.world).refusal = some e ∧
        v.outcome env .isSubscribed = .failed (.storage e) := by
  have hrun : v.outcome env .isSubscribed =
      (env.run (Subscribing.isSubscribed v.session.subscriber) v.world).1 := rfl
  rw [hrun]
  cases hrefusal : (env v.world).refusal with
  | some e =>
    refine .inr ⟨e, rfl, ?_⟩
    simp [Subscribing.isSubscribed, World.answer, hrefusal]
  | none =>
    refine .inl ?_
    rw [Subscribing.run_isSubscribed hrefusal, Store.hasValidSubscription_eq_isSome hstored]

/-- After any calls, whatever was refused, a session remembers nothing or what a lookup would find.
So it gives the subscription as it is, and where the package of every subscription is there it says
that there is one exactly if there is. The packages are there all along if they were in the
beginning and the calls bring none from elsewhere. -/
theorem remembers_current (subscriber : Subscriber) (w : World)
    (calls : List (Chances × SessionCall)) :
    let v := (opened subscriber w).run calls
    let current := v.world.store.findValidSubscription subscriber
    (v.session.remembered = none ∨ v.session.remembered = some current) ∧
      (∀ env : Chances, v.outcome env .subscription = .done current ∨
        ∃ e, (env v.world).refusal = some e ∧
          v.outcome env .subscription = .failed (.storage e)) ∧
      (v.world.store.PackagesStored → ∀ env : Chances,
        v.outcome env .isSubscribed = .done current.isSome ∨
          ∃ e, (env v.world).refusal = some e ∧
            v.outcome env .isSubscribed = .failed (.storage e)) ∧
      (w.store.PackagesStored →
        (∀ call ∈ calls, ∀ package, call.2.package? = some package →
          (w.store.packageRow? package.id).isSome = true) → v.world.store.PackagesStored) := by
  intro v current
  have hopened : (opened subscriber w).Coherent := .inl rfl
  obtain ⟨hcoherent, hsubscriber⟩ := coherent_run hopened calls
  have hcurrent : v.world.store.findValidSubscription v.session.subscriber = current :=
    congrArg v.world.store.findValidSubscription hsubscriber
  rw [← hcurrent]
  refine ⟨hcoherent, outcome_subscription hcoherent, outcome_isSubscribed, ?_⟩
  intro hstored hcalls
  have hrefers : Contract.RefersTo w.store (opened subscriber w).world.store := ⟨rfl, hstored⟩
  exact (refersTo_run hrefers hcalls).stored

theorem remembers_current_held :
    let held := Subscribing.heldWorld
    let calls := [(DailyRun.plainChances, SessionCall.subscription),
      (DailyRun.plainChances, .switchPlan DailyRun.plainPackage), (DailyRun.plainChances, .resume)]
    let v := (opened ⟨.user, .ofNat 1⟩ held).run calls
    let current := v.world.store.findValidSubscription ⟨.user, .ofNat 1⟩
    held.store.PackagesStored ∧
      (∀ call ∈ calls, ∀ package, call.2.package? = some package →
        (held.store.packageRow? package.id).isSome = true) ∧
      (v.session.remembered = none ∨ v.session.remembered = some current) ∧
      ∀ env : Chances, v.outcome env .isSubscribed = .done current.isSome ∨
        ∃ e, (env v.world).refusal = some e ∧
          v.outcome env .isSubscribed = .failed (.storage e) := by
  intro held calls v current
  have hstored : held.store.PackagesStored := by
    unfold Store.PackagesStored
    decide +kernel
  have hcalls : ∀ call ∈ calls, ∀ package, call.2.package? = some package →
      (held.store.packageRow? package.id).isSome = true := by
    intro call hcall package hpackage
    obtain rfl : DailyRun.plainPackage = package := by
      simp only [calls, List.mem_cons, List.not_mem_nil, or_false] at hcall
      rcases hcall with rfl | rfl | rfl
      · cases hpackage
      · exact Option.some.inj hpackage
      · cases hpackage
    decide +kernel
  obtain ⟨hremembered, _, hsubscribed, hkept⟩ :=
    remembers_current ⟨.user, .ofNat 1⟩ held calls
  exact ⟨hstored, hcalls, hremembered, hsubscribed (hkept hstored hcalls)⟩

end Visit

end RecurringBilling
