import RecurringBilling.Proofs.Session.Calls

/-! What the calls of a session ask for: all of it is about the subscriber, and about subscriptions
that the storage gave for an answer. -/

namespace RecurringBilling

open Procedure

namespace Contract

/-- The contract of calls that only use subscriptions: those of which `good` holds, as it does of
what the lookups of the subscriber find. -/
structure Reads (contract : Contract) (subscriber : Subscriber) (good : Subscription → Prop) :
    Prop where
  current : contract.asks (.findValidSubscription subscriber)
  current_told : ∀ r, contract.told (.findValidSubscription subscriber) (some r) → good r
  subscribed : ∀ slug, contract.asks (.hasValidSubscription subscriber slug)
  resumable : ∀ now, contract.asks (.findResumable subscriber now)
  resumable_told : ∀ now r, contract.told (.findResumable subscriber now) (some r) → good r
  item : ∀ r slug, good r → contract.asks (.findItem r.id slug)
  count : ∀ r slug found amount limit, good r →
    contract.told (.findItem r.id slug) (some found) →
      contract.asks (.incrementUsage found.1.id amount limit)
  log : ∀ r (row : NewUsageLog), good r → row.subscriptionId = r.id →
    contract.asks (.createUsageLog row)
  logs : ∀ r featureId since, good r → contract.asks (.listUsageLogs r.id featureId since)
  listed : contract.asks (.listSubscriptions subscriber)
  invoices : ∀ rows, contract.told (.listSubscriptions subscriber) rows →
    contract.asks (.listInvoices (rows.map (·.id)))

/-- The contract of calls that change subscriptions, or make one for a package. -/
structure Changes (contract : Contract) (subscriber : Subscriber) (good : Subscription → Prop)
    (package? : Option Package) : Prop where
  update : ∀ r changes, good r → contract.asks (.updateSubscription r.id changes)
  features : ∀ package, package? = some package → contract.asks (.listFeatures package.id)
  create : ∀ package withTrial now seeds, package? = some package →
    contract.asks
      (.createSubscription (Subscribing.newSubscription subscriber package withTrial now) seeds)
  switch : ∀ package r owner changes now seeds, package? = some package → good r →
    r.subscriber? = some owner →
      contract.asks
        (.switchPlan r.id changes (Subscribing.newSubscription owner package false now) seeds)

end Contract

variable {contract : Contract} {subscriber : Subscriber} {good : Subscription → Prop}

namespace Usage

variable {r : Subscription} {slug : String}

theorem honors_check (amount : Decimal) (hitem : contract.asks (.findItem r.id slug)) :
    (check r slug amount).Honors contract fun _ => True := by
  refine honors_now.bind fun instant _ => ?_
  split
  · exact honors_log.bind fun _ _ => trivial
  · refine (honors_request hitem).bind fun found _ => ?_
    cases found with
    | none => trivial
    | some found => exact honors_compute _

theorem honors_item? {α : Type} {next : Option (SubscriptionItem × Feature) → Procedure α}
    {post : α → Prop} (hitem : contract.asks (.findItem r.id slug))
    (hnext : ∀ found, (next found).Honors contract post) :
    (item? r slug >>= next).Honors contract post :=
  (honors_request hitem).bind fun found _ => hnext found

theorem honors_warnIfCrossed (item : SubscriptionItem) (feature : Feature)
    (amount newUsage : Decimal) :
    (warnIfCrossed r slug item feature amount newUsage).Honors contract fun _ => True := by
  unfold warnIfCrossed
  split
  · refine (honors_compute _).bind fun previous _ => ?_
    refine (honors_compute _).bind fun crossed _ => ?_
    split
    · exact honors_log.bind fun _ _ => honors_publish
    · trivial
  · trivial

theorem honors_writeLog (item : SubscriptionItem) (amount : Decimal) (description : String)
    (hlog : ∀ row : NewUsageLog, row.subscriptionId = r.id → contract.asks (.createUsageLog row)) :
    (writeLog r item amount description).Honors contract fun _ => True :=
  (honors_requestOr (hlog _ rfl)).bind fun _ _ => trivial

theorem honors_increment (amount : Decimal) (hitem : contract.asks (.findItem r.id slug))
    (hcount : ∀ found limit, contract.told (.findItem r.id slug) (some found) →
      contract.asks (.incrementUsage found.1.id amount limit))
    (hlog : ∀ row : NewUsageLog, row.subscriptionId = r.id → contract.asks (.createUsageLog row)) :
    (increment r slug amount).Honors contract fun _ => True := by
  refine (honors_request hitem).bind fun found hfound => ?_
  cases found with
  | none => exact honors_log.bind fun _ _ => trivial
  | some found =>
    refine (honors_compute _).bind fun rejected _ => ?_
    cases rejected with
    | true => exact honors_log.bind fun _ _ => trivial
    | false =>
      refine (honors_requestOr (hcount found _ hfound)).bind fun updated _ => ?_
      cases updated with
      | none => exact honors_log.bind fun _ _ => trivial
      | some newUsage =>
        refine (honors_warnIfCrossed ..).bind fun _ _ => ?_
        exact (honors_writeLog _ _ _ hlog).bind fun _ _ => trivial

theorem honors_reset (hitem : contract.asks (.findItem r.id slug))
    (hreset : ∀ found, contract.told (.findItem r.id slug) (some found) →
      contract.asks (.resetUsage found.1.id))
    (hlog : ∀ row : NewUsageLog, row.subscriptionId = r.id → contract.asks (.createUsageLog row)) :
    (reset r slug).Honors contract fun _ => True := by
  refine (honors_request hitem).bind fun found hfound => ?_
  cases found with
  | none => trivial
  | some found =>
    refine (honors_request (hreset found hfound)).bind fun _ _ => ?_
    exact (honors_writeLog _ _ _ hlog).bind fun _ _ => honors_log.bind fun _ _ => trivial

theorem honors_resetAll (h : contract.asks (.resetAllUsage r.id)) :
    (resetAll r).Honors contract fun _ => True :=
  (honors_request h).bind fun _ _ => honors_log.bind fun _ _ => trivial

end Usage

namespace Subscribing

variable {package : Package}

theorem honors_itemSeeds (h : contract.asks (.listFeatures package.id)) :
    (itemSeeds package).Honors contract fun _ => True :=
  (honors_requestOr h).bind fun _ _ => trivial

theorem honors_subscribe {withTrial : Bool} (hfeatures : contract.asks (.listFeatures package.id))
    (hcreate : ∀ now seeds,
      contract.asks
        (.createSubscription (newSubscription subscriber package withTrial now) seeds)) :
    (subscribe subscriber package withTrial).Honors contract fun _ => True := by
  refine honors_log.bind fun _ _ => ?_
  refine honors_now.bind fun start _ => ?_
  refine (honors_itemSeeds hfeatures).bind fun seeds _ => ?_
  refine (honors_requestOr (hcreate start seeds)).bind fun created _ => ?_
  exact honors_log.bind fun _ _ => honors_publish.bind fun _ _ => trivial

theorem honors_cancel {r : Subscription} {immediate : Bool} {reason : Option String}
    (h : ∀ changes, contract.asks (.updateSubscription r.id changes)) :
    (cancel r immediate reason).Honors contract fun _ => True := by
  refine honors_log.bind fun _ _ => ?_
  refine honors_now.bind fun instant _ => ?_
  exact (honors_requestOr (h _)).bind fun _ _ => honors_log.bind fun _ _ => trivial

theorem honors_resume {r : Subscription}
    (h : ∀ changes, contract.asks (.updateSubscription r.id changes)) :
    (resume r).Honors contract fun _ => True := by
  refine honors_now.bind fun instant _ => ?_
  split
  · exact honors_log.bind fun _ _ => trivial
  · exact (honors_requestOr (h _)).bind fun _ _ => honors_log.bind fun _ _ => trivial

theorem honors_switchPlan {r : Subscription} (hfeatures : contract.asks (.listFeatures package.id))
    (hswitch : ∀ owner changes now seeds, r.subscriber? = some owner →
      contract.asks (.switchPlan r.id changes (newSubscription owner package false now) seeds)) :
    (switchPlan r package).Honors contract fun _ => True := by
  unfold switchPlan
  cases howner : r.subscriber? with
  | none => trivial
  | some owner =>
    refine honors_log.bind fun _ _ => ?_
    refine honors_now.bind fun instant _ => ?_
    refine (honors_itemSeeds hfeatures).bind fun seeds _ => ?_
    refine (honors_requestOr (hswitch owner _ instant seeds howner)).bind fun rows _ => ?_
    exact honors_log.bind fun _ _ => honors_publish.bind fun _ _ => trivial

end Subscribing

namespace Session

/-- What holds of a session once an operation has settled what it remembers: nothing, or what it
remembered before, or what a lookup has just told. The rest of the operation only uses
subscriptions, unless the session has forgotten. -/
structure Settles {α : Type} (contract : Contract) (good : Subscription → Prop)
    (package? : Option Package) (s : Session) (result : Session × Procedure α) : Prop where
  subscriber : result.1.subscriber = s.subscriber
  remembered : result.1.remembered = none ∨ result.1.remembered = s.remembered ∨
    ∃ current, contract.told (.findValidSubscription s.subscriber) current ∧
      result.1.remembered = some current
  uses : result.1.remembered ≠ none → result.2.Honors contract fun _ => True
  changes : contract.Changes s.subscriber good package? → result.2.Honors contract fun _ => True

variable {s : Session} {package? : Option Package} {α : Type}

theorem Settles.of_honors {s' : Session} {rest : Procedure α}
    (hsubscriber : s'.subscriber = s.subscriber)
    (hremembered : s'.remembered = none ∨ s'.remembered = s.remembered ∨
      ∃ current, contract.told (.findValidSubscription s.subscriber) current ∧
        s'.remembered = some current)
    (hrest : rest.Honors contract fun _ => True) :
    Settles contract good package? s (s', rest) :=
  ⟨hsubscriber, hremembered, fun _ => hrest, fun _ => hrest⟩

theorem Settles.same {rest : Procedure α} (hrest : rest.Honors contract fun _ => True) :
    Settles contract good package? s (s, rest) := .of_honors rfl (.inr (.inl rfl)) hrest

theorem Settles.forgotten {rest : Procedure α}
    (hrest : contract.Changes s.subscriber good package? → rest.Honors contract fun _ => True) :
    Settles contract good package? s (s.forget, rest) :=
  ⟨rfl, .inl rfl, fun h => absurd rfl h, hrest⟩

variable (hreads : contract.Reads s.subscriber good)

include hreads

/-- The subscription that a session goes on with, and the session that remembers it. -/
theorem honors_lookUp : s.lookUp.Honors contract fun x =>
    x.1 = { s with remembered := some x.2 } ∧
      contract.told (.findValidSubscription s.subscriber) x.2 := by
  refine (honors_request hreads.current).bind fun current hcurrent => ?_
  exact honors_log.bind fun _ _ => ⟨rfl, hcurrent⟩

theorem honors_resume : (resume s).Honors contract (Settles contract good package? s) := by
  have hresumable : (Subscribing.resumable? s.subscriber).Honors contract fun found =>
      ∀ r, found = some r → good r := by
    refine honors_now.bind fun instant _ => (honors_request (hreads.resumable instant)).mono ?_
    rintro _ htold r rfl
    exact hreads.resumable_told instant r htold
  refine hresumable.bind fun found hfound => ?_
  cases found with
  | none => exact Settles.same trivial
  | some r =>
    refine Settles.forgotten fun hchanges => ?_
    have hresume : (Subscribing.resume r).Honors contract fun _ => True :=
      Subscribing.honors_resume fun changes => hchanges.update r changes (hfound r rfl)
    exact hresume.map some

variable (hgood : ∀ r, s.remembered = some (some r) → good r)

include hgood

theorem honors_resolve : s.resolve.Honors contract fun x =>
    x.1.subscriber = s.subscriber ∧
      (x.1.remembered = s.remembered ∨
        ∃ current, contract.told (.findValidSubscription s.subscriber) current ∧
          x.1.remembered = some current) ∧
      ∀ r, x.2 = some r → good r := by
  unfold resolve
  cases hremembered : s.remembered with
  | some current =>
    have hcurrent : ∀ r, current = some r → good r := fun r hr => hgood r (by rw [hremembered, hr])
    exact ⟨rfl, .inl hremembered, hcurrent⟩
  | none =>
    refine (honors_lookUp hreads).mono ?_
    rintro ⟨s', current⟩ ⟨hs', htold⟩
    dsimp only at hs' htold
    subst hs'
    refine ⟨rfl, .inr ⟨current, htold, rfl⟩, ?_⟩
    rintro r rfl
    exact hreads.current_told r htold

theorem honors_withSubscription {absent : α} {work : Subscription → Procedure α}
    (hwork : ∀ r, good r → (work r).Honors contract fun _ => True) :
    (withSubscription absent work s).Honors contract (Settles contract good package? s) := by
  refine (honors_resolve hreads hgood).bind ?_
  rintro ⟨s', current⟩ ⟨hsubscriber, hremembered, hcurrent⟩
  refine Settles.of_honors hsubscriber (.inr hremembered) ?_
  cases current with
  | none => trivial
  | some r => exact hwork r (hcurrent r rfl)

theorem honors_changeSubscription {work : Subscription → Procedure α}
    (hwork : contract.Changes s.subscriber good package? → ∀ r, good r →
      (work r).Honors contract fun _ => True) :
    (changeSubscription work s).Honors contract (Settles contract good package? s) := by
  refine (honors_resolve hreads hgood).bind ?_
  rintro ⟨s', current⟩ ⟨hsubscriber, hremembered, hcurrent⟩
  cases current with
  | none => exact Settles.of_honors hsubscriber (.inr hremembered) trivial
  | some r =>
    refine ⟨hsubscriber, .inl rfl, fun h => absurd rfl h, ?_⟩
    exact fun hchanges => (hwork hchanges r (hcurrent r rfl)).map some

/-- Each call of a session keeps to the requests of a contract that is about the subscriber. -/
theorem honors_operation (c : SessionCall) :
    (c.operation s).Honors contract (Settles contract good c.package? s) := by
  cases c with
  | subscription => exact honors_withSubscription hreads hgood fun r _ => trivial
  | refresh =>
    refine (honors_lookUp hreads).bind ?_
    rintro ⟨s', current⟩ ⟨hs', htold⟩
    dsimp only at hs' htold
    subst hs'
    exact Settles.of_honors rfl (.inr (.inr ⟨current, htold, rfl⟩)) trivial
  | clear => exact Settles.forgotten fun _ => trivial
  | isSubscribed =>
    exact Settles.same ((honors_request (hreads.subscribed none)).mono fun _ _ => trivial)
  | isSubscribedTo slug =>
    exact Settles.same ((honors_request (hreads.subscribed (some slug))).mono fun _ _ => trivial)
  | isOnTrial =>
    exact honors_withSubscription hreads hgood fun r _ => honors_now.bind fun _ _ => trivial
  | subscribe package withTrial =>
    refine Settles.forgotten fun hchanges => ?_
    exact Subscribing.honors_subscribe (hchanges.features package rfl) fun now seeds =>
      hchanges.create package withTrial now seeds rfl
  | cancel immediate reason =>
    refine honors_changeSubscription hreads hgood fun hchanges r hr => ?_
    exact Subscribing.honors_cancel fun changes => hchanges.update r changes hr
  | switchPlan package =>
    refine honors_changeSubscription hreads hgood fun hchanges r hr => ?_
    exact Subscribing.honors_switchPlan (hchanges.features package rfl)
      fun owner changes now seeds howner =>
        hchanges.switch package r owner changes now seeds rfl hr howner
  | resume => exact honors_resume hreads
  | hasFeature slug =>
    exact honors_withSubscription hreads hgood fun r hr =>
      Usage.honors_check 1 (hreads.item r slug hr)
  | featureValue slug =>
    refine honors_withSubscription hreads hgood fun r hr => ?_
    exact Usage.honors_item? (hreads.item r slug hr) fun found => trivial
  | featureUsage slug =>
    refine honors_withSubscription hreads hgood fun r hr => ?_
    refine Usage.honors_item? (hreads.item r slug hr) fun found => ?_
    cases found <;> trivial
  | featureRemaining slug =>
    refine honors_withSubscription hreads hgood fun r hr => ?_
    refine Usage.honors_item? (hreads.item r slug hr) fun found => ?_
    cases found with
    | none => trivial
    | some found => exact honors_compute _
  | dailyUsage slug days =>
    refine honors_withSubscription hreads hgood fun r hr => ?_
    refine Usage.honors_item? (hreads.item r slug hr) fun found => ?_
    cases found with
    | none => trivial
    | some found =>
      refine honors_now.bind fun instant _ => ?_
      refine (honors_request (hreads.logs r _ _ hr)).bind fun logs _ => ?_
      exact honors_compute _
  | useFeature slug amount =>
    refine honors_withSubscription hreads hgood fun r hr => ?_
    exact Usage.honors_increment amount (hreads.item r slug hr)
      (fun found limit hfound => hreads.count r slug found amount limit hr hfound)
      fun row hrow => hreads.log r row hr hrow
  | invoices =>
    refine Settles.same ((honors_request hreads.listed).bind fun rows hrows => ?_)
    split
    · trivial
    · exact (honors_request (hreads.invoices rows hrows)).mono fun _ _ => trivial

end Session

namespace Visit

/-- What every request of a contract keeps is kept by a call, and what the session then remembers is
as it was or has just been told. -/
theorem keeps_after (inv ok : Store → Prop) (hback : ∀ {s t}, s.Retains t → ok t → ok s)
    (hstep : ∀ s now r reply t, inv s → ok t → contract.asks r → s.answer now r = .ok (reply, t) →
      contract.told r reply ∧ inv t)
    {v : Visit} {c : SessionCall} (env : Chances)
    (hreads : contract.Reads v.session.subscriber good)
    (hchanges : contract.Changes v.session.subscriber good c.package?)
    (hgood : ∀ r, v.session.remembered = some (some r) → good r)
    (hinv : inv v.world.store) (hok : ok (v.after env c).world.store) :
    inv (v.after env c).world.store ∧
      (v.after env c).session.subscriber = v.session.subscriber ∧
      ∀ r, (v.after env c).session.remembered = some (some r) → good r := by
  have hfirst := Session.honors_operation hreads hgood c
  rcases v.after_cases env c with ⟨session, rest, w, hrun, hafter⟩ | hafter
  · rw [hafter] at hok ⊢
    have hw : ok (env.run (c.operation v.session) v.world).2.store := by
      rw [hrun]
      exact hback (env.retains_run rest w) hok
    obtain ⟨hinv, hdone⟩ := hfirst.run inv ok hback hstep env hinv hw
    rw [hrun] at hinv hdone
    have hsettles := hdone _ rfl
    have hrest := hsettles.changes hchanges
    refine ⟨(hrest.run inv ok hback hstep env hinv hok).1, hsettles.subscriber, ?_⟩
    intro r hr
    rcases hsettles.remembered with hnone | hsame | ⟨current, htold, hcurrent⟩
    · rw [hnone] at hr
      cases hr
    · exact hgood r (hsame ▸ hr)
    · obtain rfl : current = some r := Option.some.inj (hcurrent.symm.trans hr)
      exact hreads.current_told r htold
  · rw [hafter] at hok ⊢
    exact ⟨(hfirst.run inv ok hback hstep env hinv hok).1, rfl, hgood⟩

end Visit

end RecurringBilling
