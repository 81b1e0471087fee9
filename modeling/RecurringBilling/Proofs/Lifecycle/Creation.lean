import RecurringBilling.Proofs.Deeds
import RecurringBilling.Proofs.Store.Growth
import RecurringBilling.Subscribing

/-! Calls that make a subscription. Whatever is refused, such a call stores all that it is to store
or nothing, and announces what it has stored once, after that. -/

namespace RecurringBilling

open Procedure

namespace Store

variable {s s' : Store}

/-- The seeds of the items for what a package makes available. -/
def seeds (s : Store) (package : Package) : List ItemSeed :=
  ((s.grantedFeatures package.id).filter (·.isAvailable)).map fun g => ⟨g.feature.id, g.value⟩

/-- A new subscription and its items come behind the others, and nothing else is different. -/
structure Adds (s : Store) (new : NewSubscription) (seeds : List ItemSeed) (row : Subscription)
    (s' : Store) : Prop where
  content : row.toNewSubscription = new
  fresh : row.id = s.freshId
  live : row.deletedAt = none
  subscriptions : s'.subscriptions = s.subscriptions ++ [row]
  items : ∃ added, s'.items = s.items ++ added ∧
    added.map (·.toNewSubscriptionItem) = seeds.map (·.forSubscription row.id)
  others : s' =
    { s with subscriptions := s'.subscriptions, items := s'.items, created := s'.created }

theorem adds_of_created {now : Instant} {new : NewSubscription} {seeds : List ItemSeed}
    {row : Subscription} (h : s.createSubscription now new seeds = (row, s')) :
    s.Adds new seeds row s' := by
  obtain ⟨rfl, rfl⟩ : (s.createSubscription now new seeds).1 = row ∧
      (s.createSubscription now new seeds).2 = s' := by simp [h]
  obtain ⟨added, hstore, hadded⟩ := foldl_createItem now
    (seeds.map (·.forSubscription s.freshId))
    { s with
      subscriptions := s.subscriptions ++ [(s.createSubscription now new seeds).1]
      created := s.created + 1 }
  have hcreated : (s.createSubscription now new seeds).2 = _ := hstore
  refine ⟨rfl, rfl, rfl, subscriptions_createSubscription .., ⟨added, ?_, hadded⟩, ?_⟩
  · rw [hcreated]
  · rw [hcreated]

end Store

theorem Subscribing.isCancelled_cancellation (now : Instant) (immediate : Bool)
    (reason : Option String) (r : Subscription) :
    ((cancellation now immediate reason).apply r).isCancelled = true := by
  simp [Subscription.isCancelled, cancellation, SubscriptionChanges.apply, Change.apply]

/-- A call that makes a subscription, in the place of another or not. -/
inductive Creation where
  | subscribe (subscriber : Subscriber) (package : Package) (withTrial : Bool)
  | switchPlan (subscription : Subscription) (package : Package)

namespace Creation

def procedure : Creation → Procedure Subscription
  | subscribe subscriber package withTrial => Subscribing.subscribe subscriber package withTrial
  | switchPlan subscription package => Subscribing.switchPlan subscription package

def package : Creation → Package
  | subscribe _ package _ => package
  | switchPlan _ package => package

def switchedFrom (now : Instant) (old : Subscription) : Subscription :=
  (Subscribing.cancellation now true (some Subscribing.planSwitchReason)).apply old

theorem isCancelled_switchedFrom (now : Instant) (old : Subscription) :
    (switchedFrom now old).isCancelled = true :=
  Subscribing.isCancelled_cancellation now true _ old

/-- What the one request that stores something does: it adds the new row with its items, and where
there is an old one, that is cancelled where it stands. -/
inductive Makes (seeds : List ItemSeed) (s : Store) (row : Subscription) (s' : Store) :
    Creation → Call → Prop where
  | subscribed {subscriber : Subscriber} {package : Package} {withTrial : Bool} {now : Instant}
      (hadds : s.Adds (Subscribing.newSubscription subscriber package withTrial now) seeds row s') :
      Makes seeds s row s' (.subscribe subscriber package withTrial)
        ⟨.createSubscription (Subscribing.newSubscription subscriber package withTrial now) seeds,
          .ok row⟩
  | switched {subscription old : Subscription} {package : Package} {subscriber : Subscriber}
      {now : Instant} {earlier later : List Subscription}
      (hsubscriber : subscription.subscriber? = some subscriber)
      (hold : s.subscriptions = earlier ++ old :: later) (hid : old.id = subscription.id)
      (hfirst : ∀ r ∈ earlier, r.id ≠ subscription.id)
      (hadds : { s with subscriptions := earlier ++ switchedFrom now old :: later }.Adds
        (Subscribing.newSubscription subscriber package false now) seeds row s') :
      Makes seeds s row s' (.switchPlan subscription package)
        ⟨.switchPlan subscription.id
          (Subscribing.cancellation now true (some Subscribing.planSwitchReason))
          (Subscribing.newSubscription subscriber package false now) seeds,
          .ok (switchedFrom now old, row)⟩

/-- What a call can have done when it has ended. -/
inductive Course (creation : Creation) : List Deed → Outcome Subscription → Prop where
  | refused {deeds : List Deed} (e : BillingError)
      (hquiet : ∀ d ∈ deeds, ∃ s call, d = .asked s s call) : Course creation deeds (.failed e)
  | made {listed s s' : Store} {call : Call} {row : Subscription}
      (hmakes : Makes (listed.seeds creation.package) s row s' creation call) :
      Course creation
        [.asked listed listed
            ⟨.listFeatures creation.package.id,
              .ok (listed.grantedFeatures creation.package.id)⟩,
          .asked s s' call, .announced (.subscriptionCreated row)]
        (.done row)

variable {deeds : List Deed} {o : Outcome Subscription}

theorem ends_itemSeeds_bind {package : Package} {f : List ItemSeed → Procedure Subscription}
    (h : (Subscribing.itemSeeds package >>= f).Ends deeds o) :
    (∃ e, o = .failed e ∧ ∀ d ∈ deeds, ∃ s call, d = .asked s s call) ∨
    ∃ s rest, deeds = .asked s s
          ⟨.listFeatures package.id, .ok (s.grantedFeatures package.id)⟩ :: rest ∧
      (f (s.seeds package)).Ends rest o := by
  obtain ⟨early, late, between, rfl, hearly, hlate⟩ := Ends.bind h
  rcases Ends.requestOr_bind hearly (by simp) with
    ⟨s, e, rfl, rfl⟩ | ⟨s, s', now, granted, rest, ha, rfl, hrest⟩
  · obtain ⟨rfl, rfl⟩ := hlate
    exact .inl ⟨_, rfl, by simp⟩
  · obtain ⟨rfl, rfl⟩ : s.grantedFeatures package.id = granted ∧ s = s' := by
      simpa [Store.answer] using ha
    obtain ⟨rfl, rfl⟩ := hrest
    exact .inr ⟨s, late, rfl, hlate⟩

theorem makes_of_switched {s s' : Store} {stored now : Instant}
    {old row subscription : Subscription} {seeds : List ItemSeed} {subscriber : Subscriber}
    {package : Package}
    (hsubscriber : subscription.subscriber? = some subscriber)
    (h : s.switchPlan stored subscription.id
      (Subscribing.cancellation now true (some Subscribing.planSwitchReason))
      (Subscribing.newSubscription subscriber package false now) seeds = .ok ((old, row), s')) :
    Makes seeds s row s' (.switchPlan subscription package)
      ⟨.switchPlan subscription.id
        (Subscribing.cancellation now true (some Subscribing.planSwitchReason))
        (Subscribing.newSubscription subscriber package false now) seeds, .ok (old, row)⟩ := by
  unfold Store.switchPlan at h
  cases hu : s.updateSubscription subscription.id
      (Subscribing.cancellation now true (some Subscribing.planSwitchReason)) with
  | error refusal => simp [hu] at h
  | ok result =>
    obtain ⟨cancelled, between⟩ := result
    simp only [hu, Except.ok.injEq, Prod.mk.injEq] at h
    obtain ⟨⟨rfl, hrow⟩, hstore⟩ := h
    obtain ⟨earlier, was, later, hold, hid, hfirst, rfl, rfl⟩ := Store.updateSubscription_split hu
    exact .switched hsubscriber hold hid hfirst (Store.adds_of_created (Prod.ext hrow hstore))

theorem course_of_ends {creation : Creation} (h : creation.procedure.Ends deeds o) :
    creation.Course deeds o := by
  cases creation with
  | subscribe subscriber package withTrial =>
    obtain ⟨now, hseeds⟩ := h
    rcases ends_itemSeeds_bind hseeds with ⟨e, rfl, hquiet⟩ | ⟨listed, rest, rfl, hcreate⟩
    · exact .refused e hquiet
    · rcases Ends.requestOr_bind hcreate (by simp) with
        ⟨s, e, rfl, rfl⟩ | ⟨s, s', stored, row, rest, ha, rfl, hlate⟩
      · exact .refused _ (by simp)
      · obtain ⟨rest, rfl, rfl, rfl⟩ := hlate
        exact .made (.subscribed (Store.adds_of_created (Except.ok.inj ha)))
  | switchPlan subscription package =>
    simp only [procedure, Subscribing.switchPlan] at h
    cases hsubscriber : subscription.subscriber? with
    | none =>
      rw [hsubscriber] at h
      obtain ⟨rfl, rfl⟩ := h
      exact .refused _ (by simp)
    | some subscriber =>
      rw [hsubscriber] at h
      obtain ⟨now, hseeds⟩ := h
      rcases ends_itemSeeds_bind hseeds with ⟨e, rfl, hquiet⟩ | ⟨listed, rest, rfl, hswitch⟩
      · exact .refused e hquiet
      · rcases Ends.requestOr_bind hswitch (by simp) with
          ⟨s, e, rfl, rfl⟩ | ⟨s, s', stored, ⟨old, row⟩, rest, ha, rfl, hlate⟩
        · exact .refused _ (by simp)
        · obtain ⟨rest, rfl, rfl, rfl⟩ := hlate
          exact .made (makes_of_switched hsubscriber ha)

/-- A call that was carried out, with the worlds before and after it and what it did in between. -/
structure Attempt where
  creation : Creation
  before : World
  deeds : List Deed
  outcome : Outcome Subscription
  after : World

namespace Attempt

def of (env : Chances) (creation : Creation) (w : World) : Attempt :=
  { creation := creation
    before := w
    deeds := env.deeds creation.procedure w
    outcome := (env.run creation.procedure w).1
    after := (env.run creation.procedure w).2 }

def created (a : Attempt) : List Subscription :=
  a.after.store.subscriptions.drop a.before.store.subscriptions.length

/-- All is done and announced once it is stored, or nothing is done. -/
structure Atomic (a : Attempt) : Prop where
  leads : Deed.Leads a.before a.deeds a.after
  ended : ∀ fault, a.outcome ≠ .halted fault
  failed : ∀ e, a.outcome = .failed e →
    a.after.store = a.before.store ∧ a.after.events = a.before.events
  unknown : ∀ subscription package, a.creation = .switchPlan subscription package →
    subscription.subscriber? = none →
    a.outcome = .failed (.unknownSubscriber subscription.id subscription.subscriberType) ∧
      a.after = a.before
  done : ∀ row, a.outcome = .done row → ∃ call,
    a.deeds =
      [.asked a.before.store a.before.store
          ⟨.listFeatures a.creation.package.id,
            .ok (a.before.store.grantedFeatures a.creation.package.id)⟩,
        .asked a.before.store a.after.store call, .announced (.subscriptionCreated row)] ∧
      Makes (a.before.store.seeds a.creation.package) a.before.store row a.after.store a.creation
        call

end Attempt

theorem Makes.drop_eq {seeds : List ItemSeed} {s s' : Store} {row : Subscription}
    {creation : Creation} {call : Call} (h : Makes seeds s row s' creation call) :
    s'.subscriptions.drop s.subscriptions.length = [row] := by
  cases h with
  | subscribed hadds => rw [hadds.subscriptions, List.drop_left]
  | @switched _ old _ _ now earlier later _ hold _ _ hadds =>
    have hlength : s.subscriptions.length = (earlier ++ switchedFrom now old :: later).length := by
      rw [hold, List.length_append, List.length_append, List.length_cons, List.length_cons]
    rw [hadds.subscriptions, hlength, List.drop_left]

theorem quiet_of_leads {w w' : World} (h : Deed.Leads w deeds w')
    (hquiet : ∀ d ∈ deeds, ∃ s call, d = .asked s s call) :
    w'.store = w.store ∧ w'.events = w.events := by
  have hevents : deeds.filterMap Deed.event? = [] := by
    rw [List.filterMap_eq_nil_iff]
    intro d hd
    obtain ⟨s, call, rfl⟩ := hquiet d hd
    rfl
  refine ⟨?_, by rw [h.events, hevents, List.append_nil]⟩
  have hstores := h.stores
  clear h hevents
  induction deeds with
  | nil => exact hstores
  | cons d rest ih =>
    obtain ⟨s, call, rfl⟩ := hquiet d (by simp)
    obtain ⟨rfl, hrest⟩ := hstores
    exact ih (fun d hd => hquiet d (by simp [hd])) hrest

theorem atomic_of_course {creation : Creation} {w w' : World}
    (hcourse : creation.Course deeds o) (hleads : Deed.Leads w deeds w')
    (hunknown : ∀ subscription package, creation = .switchPlan subscription package →
      subscription.subscriber? = none →
      o = .failed (.unknownSubscriber subscription.id subscription.subscriberType) ∧ w' = w) :
    (Attempt.mk creation w deeds o w').Atomic := by
  cases hcourse with
  | refused e hquiet =>
    have hsame := quiet_of_leads hleads hquiet
    refine ⟨hleads, ?_, fun _ _ => hsame, hunknown, ?_⟩
    · rintro fault ⟨⟩
    · rintro row ⟨⟩
  | @made listed s s' call row hmakes =>
    obtain ⟨hlisted, hs, hafter⟩ := hleads.stores
    subst hlisted
    subst hs
    obtain rfl : w'.store = s' := hafter
    refine ⟨hleads, ?_, ?_, hunknown, ?_⟩
    · rintro fault ⟨⟩
    · rintro e ⟨⟩
    · rintro _ ⟨⟩
      exact ⟨call, rfl, hmakes⟩

theorem atomic_of (env : Chances) (creation : Creation) (w : World) :
    (Attempt.of env creation w).Atomic := by
  obtain ⟨hends, hleads⟩ := env.ends_run creation.procedure w
  refine atomic_of_course (course_of_ends hends) hleads ?_
  rintro subscription package rfl hnone
  have hrun : env.run (Subscribing.switchPlan subscription package) w =
      (.failed (.unknownSubscriber subscription.id subscription.subscriberType), w) := by
    simp [Subscribing.switchPlan, hnone]
  exact ⟨congrArg Prod.fst hrun, congrArg Prod.snd hrun⟩

namespace Attempt

variable {a : Attempt}

theorem Atomic.announced (h : a.Atomic) :
    a.after.events = a.before.events ++ a.created.map .subscriptionCreated := by
  cases ho : a.outcome with
  | done row =>
    obtain ⟨call, hdeeds, hmakes⟩ := h.done row ho
    rw [h.leads.events, hdeeds, created, hmakes.drop_eq]
    rfl
  | failed e =>
    obtain ⟨hstore, hevents⟩ := h.failed e ho
    rw [hevents, created, hstore, List.drop_length, List.map_nil, List.append_nil]
  | halted fault => exact absurd ho (h.ended fault)

end Attempt

def attempts : World → List (Chances × Creation) → List Attempt
  | _, [] => []
  | w, (env, creation) :: rest =>
    let a := Attempt.of env creation w
    a :: attempts a.after rest

def carryOut (w : World) (calls : List (Chances × Creation)) : World :=
  calls.foldl (fun w (env, creation) => (env.run creation.procedure w).2) w

theorem ids_created (env : Chances) (creation : Creation) (w : World) :
    (Attempt.of env creation w).after.store.subscriptions.map (·.id) =
      w.store.subscriptions.map (·.id) ++ (Attempt.of env creation w).created.map (·.id) :=
  (env.grows_run creation.procedure w).ids_drop

/-- Whatever is refused, each call does all or nothing, and the events of a run are those of the
subscriptions that it has created, in the order in which these now stand in the store. -/
theorem announced_as_created (w : World) (calls : List (Chances × Creation)) :
    (∀ a ∈ attempts w calls, a.Atomic) ∧
      (carryOut w calls).events =
        w.events ++ ((attempts w calls).flatMap Attempt.created).map .subscriptionCreated ∧
      (carryOut w calls).store.subscriptions.map (·.id) =
        w.store.subscriptions.map (·.id) ++
          ((attempts w calls).flatMap Attempt.created).map (·.id) := by
  induction calls generalizing w with
  | nil => simp [attempts, carryOut]
  | cons call rest ih =>
    obtain ⟨env, creation⟩ := call
    have hatomic := atomic_of env creation w
    obtain ⟨hrest, hevents, hids⟩ := ih (Attempt.of env creation w).after
    refine ⟨List.forall_mem_cons.mpr ⟨hatomic, hrest⟩, ?_, ?_⟩
    · refine hevents.trans ?_
      rw [hatomic.announced, attempts, List.flatMap_cons, List.map_append, List.append_assoc]
      rfl
    · refine hids.trans ?_
      rw [ids_created, attempts, List.flatMap_cons, List.map_append, List.append_assoc]

end Creation

end RecurringBilling
