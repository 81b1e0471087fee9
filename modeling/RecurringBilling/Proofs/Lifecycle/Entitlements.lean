import RecurringBilling.Catalog
import RecurringBilling.Proofs.DailyRun.DayEffect
import RecurringBilling.Proofs.DailyRun.Invariants
import RecurringBilling.Proofs.Lifecycle.Validity
import RecurringBilling.Proofs.Session.Requests
import RecurringBilling.Proofs.Store.Grants

/-! What subscriptions entitle to. The items of a subscription are made with it, from what its
package grants at the time, and no call changes more of them than the count of their use. -/

namespace RecurringBilling

open Procedure

/-- All requests but some, whatever the replies. -/
def Contract.without (left : Request → Bool) : Contract := ⟨(left · = false), fun _ _ => True⟩

namespace Store

variable {s s' : Store} {now : Instant} {id : Id}

def itemsOf (s : Store) (id : Id) : List SubscriptionItem :=
  s.items.filter (·.subscriptionId == id)

/-- Whether each item belongs to a subscription that is there. -/
def ItemsLinked (s : Store) : Prop :=
  ∀ item ∈ s.items, item.subscriptionId ∈ s.subscriptions.map (·.id)

theorem terms_itemsOf (s : Store) (id : Id) : (s.itemsOf id).map (·.terms) =
    (s.items.map (·.terms)).filter (·.subscriptionId == id) := by
  rw [itemsOf, List.filter_map]
  rfl

theorem ItemsLinked.of_same (h : s.ItemsLinked)
    (hids : s'.subscriptions.map (·.id) = s.subscriptions.map (·.id))
    (hterms : s'.items.map (·.terms) = s.items.map (·.terms)) : s'.ItemsLinked := by
  intro item hitem
  have hmem : item.terms ∈ s.items.map (·.terms) :=
    hterms ▸ List.mem_map_of_mem (f := (·.terms)) hitem
  obtain ⟨old, hold, hsame⟩ := List.mem_map.mp hmem
  have hid : old.subscriptionId = item.subscriptionId := congrArg (·.subscriptionId) hsame
  rw [hids, ← hid]
  exact h old hold

/-- Only what makes a subscription changes who has items, and which. -/
theorem same_of_not_makes {r : Request} {reply : r.Reply} (hr : r.makesSubscription = false)
    (h : s.answer now r = .ok (reply, s')) :
    s'.subscriptions.map (·.id) = s.subscriptions.map (·.id) ∧
      s'.items.map (·.terms) = s.items.map (·.terms) := by
  refine ⟨?_, terms_of_not_makes hr h⟩
  cases r with
  | createSubscription row seeds => cases hr
  | switchPlan id changes row seeds => cases hr
  | updateSubscription id changes => exact (updateSubscription_eq_ok h).2.1
  | _ => rw [(answer_of_not_writes rfl h).1]

theorem not_makes_of_not_writes {r : Request} (h : r.writesItems = false) :
    r.makesSubscription = false := by
  cases r <;> first | rfl | cases h

/-- What a package grants at a time, as the items of a subscription to it. -/
structure Entitles (s : Store) (package : Package) (items : List SubscriptionItem) : Prop where
  listed : items.map (fun item => (item.featureId, item.value)) =
    ((s.grantedFeatures package.id).filter (·.isAvailable)).map fun g => (g.feature.id, g.value)
  unused : ∀ item ∈ items, item.usage = 0
  once : (items.map (·.featureId)).Nodup
  granted : ∀ featureId value,
    (∃ item ∈ items, item.featureId = featureId ∧ item.value = value) ↔
      ∃ g ∈ s.grants, g.packageId = package.id ∧ g.featureId = featureId ∧ g.value = value ∧
        g.isAvailable = true ∧ ∃ f ∈ s.features, f.id = featureId ∧ f.isLive = true

theorem mem_available (s : Store) (packageId featureId : Id) (value : Option String) :
    (∃ granted ∈ s.grantedFeatures packageId, granted.isAvailable = true ∧
      granted.feature.id = featureId ∧ granted.value = value) ↔
      ∃ g ∈ s.grants, g.packageId = packageId ∧ g.featureId = featureId ∧ g.value = value ∧
        g.isAvailable = true ∧ ∃ f ∈ s.features, f.id = featureId ∧ f.isLive = true := by
  constructor
  · rintro ⟨granted, hmem, havailable, hfeature, hvalue⟩
    obtain ⟨g, hg, hpackage, hgranted⟩ := mem_grantedFeatures.mp hmem
    obtain ⟨f, hf, hlive, hid, rfl⟩ := grantedFeature?_eq_some hgranted
    exact ⟨g, hg, hpackage, hid.symm.trans hfeature, hvalue, havailable, f, hf, hfeature, hlive⟩
  · rintro ⟨g, hg, hpackage, rfl, rfl, havailable, f, hf, hid, hlive⟩
    have hfound : (s.findFeature g.featureId).isSome = true :=
      List.find?_isSome.mpr ⟨f, hf, by simp [hid, hlive]⟩
    obtain ⟨feature, hfeature⟩ := Option.isSome_iff_exists.mp hfound
    have hgranted : s.grantedFeature? g = some ⟨feature, g.value, g.isAvailable, g.sortOrder⟩ := by
      rw [grantedFeature?, hfeature]
      rfl
    obtain ⟨_, hsame⟩ : feature.isLive = true ∧ feature.id = g.featureId := by
      simpa using List.find?_some hfeature
    exact ⟨_, mem_grantedFeatures.mpr ⟨g, hg, hpackage, hgranted⟩, havailable, hsame, rfl⟩

theorem entitles_of_seeds {package : Package} {items : List SubscriptionItem} (h : s.GrantsOnce)
    (hitems : items.map (·.toNewSubscriptionItem) =
      (s.seeds package).map (·.forSubscription id)) : s.Entitles package items := by
  have hlisted : items.map (fun item => (item.featureId, item.value)) =
      ((s.grantedFeatures package.id).filter (·.isAvailable)).map fun g =>
        (g.feature.id, g.value) := by
    have hpairs := congrArg (List.map fun row => (row.featureId, row.value)) hitems
    simpa only [seeds, List.map_map, Function.comp_def, ItemSeed.forSubscription] using hpairs
  have hmem : ∀ featureId value,
      (∃ item ∈ items, item.featureId = featureId ∧ item.value = value) ↔
        (featureId, value) ∈ items.map fun item => (item.featureId, item.value) := by
    simp
  refine ⟨hlisted, ?_, ?_, ?_⟩
  · intro item hitem
    have hnew : item.toNewSubscriptionItem ∈ (s.seeds package).map (·.forSubscription id) :=
      hitems ▸ List.mem_map_of_mem (f := (·.toNewSubscriptionItem)) hitem
    obtain ⟨seed, _, hseed⟩ := List.mem_map.mp hnew
    exact (congrArg (·.usage) hseed).symm
  · have hfeatures := congrArg (List.map Prod.fst) hlisted
    simp only [List.map_map, Function.comp_def] at hfeatures
    rw [hfeatures]
    exact (nodup_grantedFeatures h package.id).sublist (List.filter_sublist.map _)
  · intro featureId value
    rw [← mem_available, hmem, hlisted]
    simp [and_assoc]

end Store

namespace Procedure

variable {α : Type} {p : Procedure α} {post : α → Prop} {w : World}

theorem Honors.same_items (hp : p.Honors (.without Request.writesItems) post) (env : Chances) :
    (env.run p w).2.store.subscriptions.map (·.id) = w.store.subscriptions.map (·.id) ∧
      (env.run p w).2.store.items = w.store.items := by
  refine (hp.run (fun t => t.subscriptions.map (·.id) = w.store.subscriptions.map (·.id) ∧
    t.items = w.store.items) (fun _ => True) (fun _ _ => trivial) ?_ env ⟨rfl, rfl⟩ trivial).1
  rintro s now r reply t ⟨hids, hitems⟩ _ hr ha
  refine ⟨trivial, ?_, ?_⟩
  · exact (Store.same_of_not_makes (Store.not_makes_of_not_writes hr) ha).1.trans hids
  · exact (Store.items_of_not_writes hr ha).trans hitems

theorem Honors.same_terms (hp : p.Honors (.without Request.makesSubscription) post)
    (env : Chances) :
    (env.run p w).2.store.subscriptions.map (·.id) = w.store.subscriptions.map (·.id) ∧
      (env.run p w).2.store.items.map (·.terms) = w.store.items.map (·.terms) := by
  refine (hp.run (fun t => t.subscriptions.map (·.id) = w.store.subscriptions.map (·.id) ∧
    t.items.map (·.terms) = w.store.items.map (·.terms)) (fun _ => True) (fun _ _ => trivial) ?_
    env ⟨rfl, rfl⟩ trivial).1
  rintro s now r reply t ⟨hids, hterms⟩ _ hr ha
  obtain ⟨hids', hterms'⟩ := Store.same_of_not_makes hr ha
  exact ⟨trivial, hids'.trans hids, hterms'.trans hterms⟩

end Procedure

namespace UsageCall

theorem honors_procedure (call : UsageCall) :
    call.procedure.Honors (.without Request.makesSubscription) fun _ => True := by
  cases call with
  | increment subscription slug amount =>
    exact (Usage.honors_increment amount rfl (fun _ _ _ => rfl) fun _ _ => rfl).map _
  | reset subscription slug => exact (Usage.honors_reset rfl (fun _ _ => rfl) fun _ _ => rfl).map _
  | resetAll subscription => exact (Usage.honors_resetAll rfl).map _

end UsageCall

theorem PackageDefinition.honors_attachFeatures (d : PackageDefinition) {package : Package} :
    (d.attachFeatures package).Honors (.without Request.writesItems) fun _ => True := by
  unfold attachFeatures
  split
  · exact (honors_request rfl).mono fun _ _ => trivial
  · trivial

/-- A call of any part of the billing that writes. -/
inductive WritingCall where
  | lifecycle (call : LifecycleCall)
  | usage (call : UsageCall)
  | createFeature (definition : FeatureDefinition)
  | saveFeature (definition : FeatureDefinition)
  | createPackage (definition : PackageDefinition)
  | savePackage (definition : PackageDefinition)
  | day (dueDays : Nat) (date : Date)
  | expirations (date : Date)

namespace WritingCall

def procedure : WritingCall → Procedure Unit
  | lifecycle call => (fun _ => ()) <$> call.procedure
  | usage call => (fun _ => ()) <$> call.procedure
  | createFeature definition => (fun _ => ()) <$> definition.create
  | saveFeature definition => (fun _ => ()) <$> definition.createOrUpdate
  | createPackage definition => (fun _ => ()) <$> definition.create
  | savePackage definition => (fun _ => ()) <$> definition.createOrUpdate
  | day dueDays date => (fun _ => ()) <$> DailyRun.run dueDays date
  | expirations date => (fun _ => ()) <$> DailyRun.runExpirations date

/-- The package of the subscription that the call is to make. -/
def package? : WritingCall → Option Package
  | lifecycle (.create creation) => some creation.package
  | _ => none

def isUsage : WritingCall → Bool
  | usage _ => true
  | _ => false

/-- What a call does to the items. -/
inductive Effect (call : WritingCall) (s s' : Store) : Prop where
  | kept (hids : s'.subscriptions.map (·.id) = s.subscriptions.map (·.id))
      (hitems : s'.items = s.items)
  | used (husage : call.isUsage = true)
      (hids : s'.subscriptions.map (·.id) = s.subscriptions.map (·.id))
      (hterms : s'.items.map (·.terms) = s.items.map (·.terms))
  | made {package : Package} {row : Subscription} {added : List SubscriptionItem}
      (hpackage : call.package? = some package) (hrow : row ∈ s'.subscriptions)
      (hcontent : row.packageId = package.id)
      (hids : s'.subscriptions.map (·.id) = s.subscriptions.map (·.id) ++ [row.id])
      (hitems : s'.items = s.items ++ added)
      (hadded : added.map (·.toNewSubscriptionItem) =
        (s.seeds package).map (·.forSubscription row.id))

variable {call : WritingCall} {env : Chances} {w : World} {s s' : Store}

theorem subscriptionId_of_added {added : List SubscriptionItem} {seeds : List ItemSeed} {id : Id}
    (hadded : added.map (·.toNewSubscriptionItem) = seeds.map (·.forSubscription id)) :
    ∀ item ∈ added, item.subscriptionId = id := by
  intro item hitem
  have hnew : item.toNewSubscriptionItem ∈ seeds.map (·.forSubscription id) :=
    hadded ▸ List.mem_map_of_mem (f := (·.toNewSubscriptionItem)) hitem
  obtain ⟨seed, _, hseed⟩ := List.mem_map.mp hnew
  exact (congrArg (·.subscriptionId) hseed).symm

theorem made_of_adds {creation : Creation} {new : NewSubscription} {row : Subscription}
    {between : Store} (hadds : between.Adds new (s.seeds creation.package) row s')
    (hnew : new.packageId = creation.package.id) (hbetween : between.items = s.items)
    (hids : s'.subscriptions.map (·.id) = s.subscriptions.map (·.id) ++ [row.id]) :
    Effect (.lifecycle (.create creation)) s s' := by
  obtain ⟨added, hitems, hadded⟩ := hadds.items
  have hrow : row ∈ s'.subscriptions := by simp [hadds.subscriptions]
  have hcontent : row.packageId = creation.package.id :=
    (congrArg (·.packageId) hadds.content).trans hnew
  exact .made rfl hrow hcontent hids (hbetween ▸ hitems) hadded

theorem effect_of_creation (env : Chances) (creation : Creation) (w : World) :
    Effect (.lifecycle (.create creation)) w.store (env.run creation.procedure w).2.store := by
  have hatomic := Creation.atomic_of env creation w
  cases ho : (env.run creation.procedure w).1 with
  | failed e =>
    obtain ⟨hstore, _⟩ := hatomic.failed e ho
    have hsame : (env.run creation.procedure w).2.store = w.store := hstore
    rw [hsame]
    exact .kept rfl rfl
  | halted fault => exact absurd ho (hatomic.ended fault)
  | done row =>
    obtain ⟨_, _, hmakes⟩ := hatomic.done row ho
    have hids := Creation.ids_created env creation w
    rw [Creation.Attempt.created, hmakes.drop_eq] at hids
    cases hmakes with
    | subscribed hadds => exact made_of_adds hadds rfl rfl hids
    | switched hsubscriber hold hid hfirst hadds => exact made_of_adds hadds rfl rfl hids

theorem keeps_items (s : Store) : DailyRun.Keeps fun t =>
    t.subscriptions.map (·.id) = s.subscriptions.map (·.id) ∧ t.items = s.items := by
  have hupdate : ∀ {t t' : Store} {id : Id} {changes : SubscriptionChanges} {row : Subscription},
      t.subscriptions.map (·.id) = s.subscriptions.map (·.id) ∧ t.items = s.items →
        t.updateSubscription id changes = .ok (row, t') →
          t'.subscriptions.map (·.id) = s.subscriptions.map (·.id) ∧ t'.items = s.items := by
    rintro t t' id changes row ⟨hids, hitems⟩ h
    obtain ⟨hstore, hsame, _⟩ := Store.updateSubscription_eq_ok h
    exact ⟨hsame.trans hids, by rw [hstore]; exact hitems⟩
  exact {
    expire := fun _ _ _ _ _ _ _ _ ht h => hupdate ht h
    cancel := fun _ ht h => hupdate ht h
    invoice := fun _ _ _ ht => ht }

theorem effect (env : Chances) (call : WritingCall) (w : World) :
    Effect call w.store (env.run call.procedure w).2.store := by
  have hmap : ∀ {α : Type} (p : Procedure α),
      (env.run ((fun _ => ()) <$> p) w).2.store = (env.run p w).2.store := by
    intro α p
    change (env.run (p >>= fun _ => pure ()) w).2.store = _
    rw [Chances.run_bind]
    cases env.run p w with
    | mk o w' => cases o <;> rfl
  have hkept : ∀ {α : Type} {p : Procedure α},
      p.Honors (.without Request.writesItems) (fun _ => True) →
        Effect call w.store (env.run p w).2.store := by
    intro α p hp
    obtain ⟨hids, hitems⟩ := hp.same_items env
    exact .kept hids hitems
  have hday : ∀ {α : Type} {p : Procedure α}, (p.Keeps (fun t =>
      t.subscriptions.map (·.id) = w.store.subscriptions.map (·.id) ∧ t.items = w.store.items)
      fun _ => True) → Effect call w.store (env.run p w).2.store := by
    intro α p hp
    obtain ⟨hids, hitems⟩ := hp.run env ⟨rfl, rfl⟩
    exact .kept hids hitems
  cases call with
  | lifecycle call =>
    rw [procedure, hmap]
    cases call with
    | create creation => exact effect_of_creation env creation w
    | cancel subscription immediate reason =>
      exact hkept (Subscribing.honors_cancel fun _ => rfl)
    | resume subscription => exact hkept (Subscribing.honors_resume fun _ => rfl)
  | usage call =>
    rw [procedure, hmap]
    obtain ⟨hids, hterms⟩ := call.honors_procedure.same_terms env
    exact .used rfl hids hterms
  | createFeature definition =>
    rw [procedure, hmap]
    exact hkept ((honors_request rfl).bind fun _ _ => honors_log.bind fun _ _ => trivial)
  | saveFeature definition =>
    rw [procedure, hmap]
    exact hkept ((honors_request rfl).bind fun _ _ => honors_log.bind fun _ _ => trivial)
  | createPackage definition =>
    rw [procedure, hmap]
    refine hkept ((honors_request rfl).bind fun package _ => ?_)
    exact definition.honors_attachFeatures.bind fun _ _ => honors_log.bind fun _ _ => trivial
  | savePackage definition =>
    rw [procedure, hmap]
    refine hkept ((honors_request rfl).bind fun package _ => ?_)
    exact definition.honors_attachFeatures.bind fun _ _ => honors_log.bind fun _ _ => trivial
  | day dueDays date =>
    rw [procedure, hmap]
    exact hday ((keeps_items w.store).run dueDays date)
  | expirations date =>
    rw [procedure, hmap]
    exact hday ((keeps_items w.store).runExpirations date)

theorem Effect.linked (h : Effect call s s') (hs : s.ItemsLinked) : s'.ItemsLinked := by
  cases h with
  | kept hids hitems => exact hs.of_same hids (by rw [hitems])
  | used husage hids hterms => exact hs.of_same hids hterms
  | made hpackage hrow hcontent hids hitems hadded =>
    intro item hitem
    rw [hids]
    rw [hitems] at hitem
    rcases List.mem_append.mp hitem with hitem | hitem
    · exact List.mem_append_left _ (hs item hitem)
    · exact List.mem_append_right _ (by simp [subscriptionId_of_added hadded item hitem])

/-- A subscription that is there already keeps its items. -/
theorem Effect.itemsOf (h : Effect call s s') (hunique : (s'.subscriptions.map (·.id)).Nodup)
    {id : Id} (hid : id ∈ s.subscriptions.map (·.id)) :
    (s'.itemsOf id).map (·.terms) = (s.itemsOf id).map (·.terms) ∧
      (call.isUsage = false → s'.itemsOf id = s.itemsOf id) := by
  cases h with
  | kept hids hitems =>
    have hsame : s'.itemsOf id = s.itemsOf id := by rw [Store.itemsOf, hitems, Store.itemsOf]
    exact ⟨by rw [hsame], fun _ => hsame⟩
  | used husage hids hterms =>
    refine ⟨by rw [Store.terms_itemsOf, hterms, Store.terms_itemsOf], fun h => ?_⟩
    rw [husage] at h
    cases h
  | @made _ row added hpackage hrow hcontent hids hitems hadded =>
    rw [hids] at hunique
    have hother : row.id ≠ id := by
      rintro rfl
      exact (List.nodup_append.mp hunique).2.2 _ hid _ (by simp) rfl
    have hnone : added.filter (·.subscriptionId == id) = [] := by
      refine List.filter_eq_nil_iff.mpr fun item hitem => ?_
      simpa [subscriptionId_of_added hadded item hitem] using hother
    have hsame : s'.itemsOf id = s.itemsOf id := by
      rw [Store.itemsOf, hitems, List.filter_append, hnone, List.append_nil, Store.itemsOf]
    exact ⟨by rw [hsame], fun _ => hsame⟩

/-- The call makes the subscription of the identifier, and gives it what its package grants. -/
structure MakesEntitled (call : WritingCall) (env : Chances) (w : World) (id : Id) : Prop where
  new : id ∉ w.store.subscriptions.map (·.id)
  made : ∃ package, call.package? = some package ∧
    (∃ row ∈ (env.run call.procedure w).2.store.subscriptions,
      row.id = id ∧ row.packageId = package.id) ∧
    w.store.Entitles package ((env.run call.procedure w).2.store.itemsOf id)

theorem makesEntitled (hlinked : w.store.ItemsLinked) (hgrants : w.store.GrantsOnce) {id : Id}
    (hold : id ∉ w.store.subscriptions.map (·.id))
    (hnew : id ∈ (env.run call.procedure w).2.store.subscriptions.map (·.id)) :
    call.MakesEntitled env w id := by
  refine ⟨hold, ?_⟩
  cases effect env call w with
  | kept hids hitems => exact absurd (hids ▸ hnew) hold
  | used husage hids hterms => exact absurd (hids ▸ hnew) hold
  | @made package row added hpackage hrow hcontent hids hitems hadded =>
    rw [hids] at hnew
    obtain rfl : id = row.id := by
      rcases List.mem_append.mp hnew with h | h
      · exact absurd h hold
      · exact List.mem_singleton.mp h
    have hnone : w.store.itemsOf row.id = [] := by
      refine List.filter_eq_nil_iff.mpr fun item hitem => ?_
      have hother : item.subscriptionId ≠ row.id := fun h => hold (h ▸ hlinked item hitem)
      simpa using hother
    have hall : added.filter (·.subscriptionId == row.id) = added := by
      refine List.filter_eq_self.mpr fun item hitem => ?_
      simp [subscriptionId_of_added hadded item hitem]
    refine ⟨package, hpackage, ⟨row, hrow, rfl, hcontent⟩, ?_⟩
    rw [Store.itemsOf, hitems, List.filter_append, ← Store.itemsOf, hnone, hall, List.nil_append]
    exact Store.entitles_of_seeds hgrants hadded

def carryOut (w : World) (calls : List (Chances × WritingCall)) : World :=
  calls.foldl (fun w (env, call) => (env.run call.procedure w).2) w

theorem carryOut_append (w : World) (early late : List (Chances × WritingCall)) :
    carryOut w (early ++ late) = carryOut (carryOut w early) late := List.foldl_append

theorem retains_carryOut (w : World) (calls : List (Chances × WritingCall)) :
    w.store.Retains (carryOut w calls).store := by
  induction calls generalizing w with
  | nil => exact .refl _
  | cons call rest ih => exact (call.1.retains_run call.2.procedure w).trans (ih _)

theorem exists_makesEntitled {calls : List (Chances × WritingCall)}
    (hlinked : w.store.ItemsLinked) (hgrants : w.store.GrantsOnce) {id : Id}
    (hold : id ∉ w.store.subscriptions.map (·.id))
    (hnew : id ∈ (carryOut w calls).store.subscriptions.map (·.id)) :
    ∃ early env call late, calls = early ++ (env, call) :: late ∧
      call.MakesEntitled env (carryOut w early) id := by
  induction calls generalizing w with
  | nil => exact absurd hnew hold
  | cons first rest ih =>
    obtain ⟨env, call⟩ := first
    -- The call that makes it is the first after which it is there.
    by_cases hmade : id ∈ (env.run call.procedure w).2.store.subscriptions.map (·.id)
    · exact ⟨[], env, call, rest, rfl, makesEntitled hlinked hgrants hold hmade⟩
    · obtain ⟨early, env', call', late, rfl, hmakes⟩ := ih ((effect env call w).linked hlinked)
        (Store.grantsOnce_run env call.procedure hgrants) hmade hnew
      exact ⟨(env, call) :: early, env', call', late, rfl, hmakes⟩

theorem itemsOf_carryOut {calls : List (Chances × WritingCall)}
    (hunique : ((carryOut w calls).store.subscriptions.map (·.id)).Nodup) {id : Id}
    (hid : id ∈ w.store.subscriptions.map (·.id)) :
    ((carryOut w calls).store.itemsOf id).map (·.terms) = (w.store.itemsOf id).map (·.terms) ∧
      ((∀ call ∈ calls, call.2.isUsage = false) →
        (carryOut w calls).store.itemsOf id = w.store.itemsOf id) := by
  induction calls generalizing w with
  | nil => exact ⟨rfl, fun _ => rfl⟩
  | cons first rest ih =>
    obtain ⟨env, call⟩ := first
    have hlater := retains_carryOut (env.run call.procedure w).2 rest
    obtain ⟨hterms, hitems⟩ := (effect env call w).itemsOf
      (hunique.sublist hlater.subscriptions.sublist) hid
    obtain ⟨hterms', hitems'⟩ :=
      ih hunique ((env.retains_run call.procedure w).subscriptions.subset hid)
    refine ⟨hterms'.trans hterms, fun hquiet => ?_⟩
    obtain ⟨hfirst, hrest⟩ := List.forall_mem_cons.mp hquiet
    exact (hitems' hrest).trans (hitems hfirst)

/-- Every subscription that comes in a run gets the items for what its package grants just then, and
from any point of the run on the items of those that are there stay as they are but for their use,
which only the calls for it change. -/
theorem entitled_as_made {w : World} {calls : List (Chances × WritingCall)}
    (hlinked : w.store.ItemsLinked) (hgrants : w.store.GrantsOnce)
    (hunique : ((carryOut w calls).store.subscriptions.map (·.id)).Nodup) :
    (∀ r ∈ (carryOut w calls).store.subscriptions, r.id ∈ w.store.subscriptions.map (·.id) ∨
      ∃ early env call late, calls = early ++ (env, call) :: late ∧
        call.MakesEntitled env (carryOut w early) r.id) ∧
    ∀ early late, calls = early ++ late → ∀ r ∈ (carryOut w early).store.subscriptions,
      ((carryOut w calls).store.itemsOf r.id).map (·.terms) =
        ((carryOut w early).store.itemsOf r.id).map (·.terms) ∧
      ((∀ call ∈ late, call.2.isUsage = false) →
        (carryOut w calls).store.itemsOf r.id = (carryOut w early).store.itemsOf r.id) := by
  constructor
  · intro r hr
    have hnew := List.mem_map_of_mem (f := (·.id)) hr
    by_cases hold : r.id ∈ w.store.subscriptions.map (·.id)
    · exact .inl hold
    · exact .inr (exists_makesEntitled hlinked hgrants hold hnew)
  · rintro early late rfl r hr
    rw [carryOut_append] at hunique ⊢
    exact itemsOf_carryOut hunique (List.mem_map_of_mem (f := (·.id)) hr)

/-! A package that grants seats is saved again with more of them while someone has it, who then
takes it once more. -/

def seatsWorld : World :=
  { store :=
      { features := [Subscription.seatsFeature], packages := [DailyRun.plainPackage]
        grants := [{
          packageId := DailyRun.plainPackage.id, featureId := Subscription.seatsFeature.id
          value := some "3", isAvailable := true, sortOrder := 0, createdAt := .first
          updatedAt := .first }] } }

/-- The row of the first subscription, as far as it matters to calls on it. -/
def seatsRow : Subscription :=
  { DailyRun.plainSubscription 1 DailyRun.nextNoon true with id := seatsWorld.store.freshId }

def seatsCalls : List (Chances × WritingCall) :=
  [(DailyRun.plainChances,
      .lifecycle (.create (.subscribe ⟨.user, .ofNat 1⟩ DailyRun.plainPackage false))),
    (DailyRun.plainChances, .usage (.increment seatsRow "seats" 1)),
    (DailyRun.plainChances, .savePackage {
      slug := "pro", currency := "EUR"
      attachments := [{ featureId := Subscription.seatsFeature.id, value := some "7" }] }),
    (DailyRun.plainChances, .lifecycle (.create (.switchPlan seatsRow DailyRun.plainPackage)))]

theorem entitled_as_made_seats :
    (seatsWorld.store.ItemsLinked ∧ seatsWorld.store.GrantsOnce ∧
      ((carryOut seatsWorld seatsCalls).store.subscriptions.map (·.id)).Nodup) ∧
    ((carryOut seatsWorld seatsCalls).store.items.map fun item => (item.value, item.usage.text)) =
      [(some "3", "1"), (some "7", "0")] ∧
    ∀ r ∈ (carryOut seatsWorld (seatsCalls.take 1)).store.subscriptions,
      ((carryOut seatsWorld seatsCalls).store.itemsOf r.id).map (·.terms) =
        ((carryOut seatsWorld (seatsCalls.take 1)).store.itemsOf r.id).map (·.terms) := by
  have hlinked : seatsWorld.store.ItemsLinked := by
    intro item hitem
    cases hitem
  have hgrants : seatsWorld.store.GrantsOnce := List.nodup_singleton _
  have hunique : ((carryOut seatsWorld seatsCalls).store.subscriptions.map (·.id)).Nodup := by
    decide +kernel
  obtain ⟨_, hkept⟩ := entitled_as_made hlinked hgrants hunique
  refine ⟨⟨hlinked, hgrants, hunique⟩, by decide +kernel, fun r hr => ?_⟩
  exact (hkept (seatsCalls.take 1) (seatsCalls.drop 1) (List.take_append_drop 1 _).symm r hr).1

end WritingCall

end RecurringBilling
