import RecurringBilling.Proofs.Usage.Calls

/-! The account of increments at the same time. What each of them adds, and what it writes to the
log, does not depend on how their steps are interleaved, and the counters have no other way to
change. -/

namespace RecurringBilling

/-- A call that is to add to the use of a feature. -/
structure Increment where
  subscription : Subscription
  slug : String
  amount : Decimal

namespace Increment

def procedure (c : Increment) : Procedure Bool := Usage.increment c.subscription c.slug c.amount

def pool (store : Store) (calls : List Increment) : Pool Bool :=
  ⟨{ store := store }, calls.map procedure⟩

/-- The item that the call is on. -/
def item? (store : Store) (c : Increment) : Option SubscriptionItem :=
  (store.findItem c.subscription.id c.slug).map (·.1)

def IsOn (store : Store) (id : Id) (c : Increment) : Prop := (c.item? store).any (·.id == id)

instance (store : Store) (id : Id) (c : Increment) : Decidable (c.IsOn store id) :=
  inferInstanceAs (Decidable (_ = true))

/-- The entry of the log for the call: its amount, for the subscription and feature of the item. -/
def logRow? (store : Store) (c : Increment) : Option NewUsageLog :=
  (c.item? store).map fun item =>
    ⟨item.subscriptionId, item.featureId, c.amount, some Usage.incrementNote, none⟩

/-- The calls that returned true. -/
def accepted (calls : List Increment) (answers : List Bool) : List Increment :=
  (calls.zip answers).filterMap fun (c, answer) => if answer then some c else none

def total (calls : List Increment) : ℚ := (calls.map (·.amount.toRat)).sum

end Increment

namespace Increment

open Deed

variable {store : Store} {c : Increment} {deeds : List Deed} {answer : Bool}

theorem isOn_iff {item : SubscriptionItem} (h : c.item? store = some item) (id : Id) :
    c.IsOn store id ↔ item.id = id := by
  simp [IsOn, h]

/-- A call that returned false has left all as it was. -/
theorem isIdle_of_ends (h : c.procedure.Ends deeds (.done false)) : ∀ d ∈ deeds, d.IsIdle := by
  generalize ho : Outcome.done false = o at h
  cases Usage.increments_of_ends h with
  | idle hidle => exact hidle
  | @counted _ _ _ _ _ _ _ _ _ logged => cases logged <;> simp [Outcome.map] at ho
  | halted => cases ho

/-- A call that returned true has counted the item that it is on up once, by its amount, and has
written that to the log. -/
theorem counted_of_ends (h : c.procedure.Ends deeds (.done true))
    (hterms : ∀ before after call, .asked before after call ∈ deeds → store.SameTerms before) :
    ∃ item, c.item? store = some item ∧
      (∀ id, (additions id deeds).map (·.amount) = if item.id = id then [c.amount] else []) ∧
      deeds.filterMap logged? =
        [⟨item.subscriptionId, item.featureId, c.amount, some Usage.incrementNote, none⟩] := by
  generalize ho : Outcome.done true = o at h
  cases Usage.increments_of_ends h with
  | idle _ hdone => exact absurd ho.symm hdone
  | @counted s before after now found feature new warnings late logged hread hupdate hwarns hlogs =>
    obtain ⟨item, hitem, hsame⟩ := (hterms s s _ List.mem_cons_self).findItem_eq_some hread
    have hid : found.id = item.id := (congrArg (·.id) hsame).symm
    have hfeature : found.featureId = item.featureId := (congrArg (·.featureId) hsame).symm
    refine ⟨item, by simp [Increment.item?, hitem], ?_, ?_⟩
    · intro id
      obtain ⟨old, _, _, hold, _⟩ := Store.incrementUsage_eq_some hupdate
      rw [Usage.additions_of_counted hlogs hwarns hold, hid]
      by_cases h : item.id = id <;> simp [h]
    · cases hlogs with
      | refused => cases ho
      | written s now entry =>
        rw [filterMap_cons_toList, filterMap_cons_toList, List.filterMap_append, hwarns.logged]
        simp [logged?, hfeature, Store.subscriptionId_of_findItem hitem, Usage.logRow]
  | halted => cases ho

end Increment

namespace Increment

open Deed

theorem flatMap_accepted {β : Type} (g : Increment → List β) (calls : List Increment)
    (answers : List Bool) :
    (accepted calls answers).flatMap g =
      (calls.zip answers).flatMap fun p => if p.2 then g p.1 else [] := by
  rw [accepted]
  induction calls.zip answers with
  | nil => rfl
  | cons p rest ih =>
    obtain ⟨c, answer⟩ := p
    cases answer <;> simp [ih]

theorem isUse_of_mem_deeds (store : Store) (calls : List Increment) (moves : List Move) :
    ∀ d ∈ ((pool store calls).deeds moves).map (·.2), d.IsUse :=
  Pool.forall_deeds_map fun _ _ _ hends => (Usage.increments_of_ends hends).isUse

theorem resets_of_mem_deeds (store : Store) (calls : List Increment) (moves : List Move) (id : Id) :
    ∀ d ∈ ((pool store calls).deeds moves).map (·.2), d.resets id = false :=
  Pool.forall_deeds_map fun _ _ _ hends => (Usage.increments_of_ends hends).resets id

section

variable {store : Store} {calls : List Increment} {answers : List Bool} {moves : List Move}
  (hended : ((pool store calls).run moves).calls = answers.map .done)

include hended

theorem length_answers : answers.length = calls.length := by
  have hlength := (pool store calls).length_calls_run moves
  rw [hended] at hlength
  simpa [pool] using hlength

theorem outcomes_of_ended : ((pool store calls).run moves).calls =
    (answers.map Outcome.done).map Procedure.ended := by
  rw [hended, List.map_map]
  rfl

theorem ends_of_ended {i : Nat} {c : Increment} (hc : calls[i]? = some c) :
    ∃ answer, answers[i]? = some answer ∧
      c.procedure.Ends (Deed.of i ((pool store calls).deeds moves)) (.done answer) := by
  obtain ⟨o, ho, hends⟩ := Pool.ends_map (outcomes_of_ended hended) hc
  rw [List.getElem?_map] at ho
  obtain ⟨answer, hanswer, rfl⟩ := Option.map_eq_some_iff.mp ho
  exact ⟨answer, hanswer, hends⟩

/-- What all calls did is, in some order, what each of them does for its answer. -/
theorem perm_of_ended {β : Type} (f : Deed → Option β) (g : Increment → List β)
    (h : ∀ (c : Increment) (answer : Bool) (deeds : List Deed),
      c.procedure.Ends deeds (.done answer) →
      (∀ before after call, .asked before after call ∈ deeds → store.SameTerms before) →
      deeds.filterMap f = if answer then g c else []) :
    ((((pool store calls).deeds moves).map (·.2)).filterMap f).Perm
      ((accepted calls answers).flatMap g) := by
  have hlength := length_answers hended
  have hcalls : (List.range calls.length).map
      (fun i => (Deed.of i ((pool store calls).deeds moves)).filterMap f) =
      (calls.zip answers).map fun p => if p.2 then g p.1 else [] := by
    refine List.ext_getElem (by simp [hlength]) ?_
    intro i hi _
    have hi : i < calls.length := by simpa using hi
    obtain ⟨answer, hanswer, hends⟩ := ends_of_ended hended (List.getElem?_eq_getElem hi)
    obtain ⟨_, rfl⟩ := List.getElem?_eq_some_iff.mp hanswer
    simpa using h calls[i] _ _ hends fun _ _ _ =>
      sameTerms_of_pool (isUse_of_mem_deeds store calls moves)
  have hlt : ∀ d ∈ (pool store calls).deeds moves, d.1 < calls.length :=
    fun _ hd => Pool.lt_of_mem_deeds_map hd
  have hperm := (perm_of hlt).filterMap f
  rw [List.filterMap_flatMap, List.flatMap_def, hcalls, ← List.flatMap_def] at hperm
  rwa [flatMap_accepted]

theorem additions_perm (id : Id) :
    ((additions id (((pool store calls).deeds moves).map (·.2))).map (·.amount)).Perm
      (((accepted calls answers).filter (·.IsOn store id)).map (·.amount)) := by
  have hperm := perm_of_ended hended
    (fun d => (d.addition?.filter (·.item = id)).map (·.amount))
    (fun c => if c.IsOn store id then [c.amount] else []) (fun c answer deeds hends hterms => by
      have hadditions : deeds.filterMap
            (fun d => (d.addition?.filter (·.item = id)).map (·.amount)) =
          (additions id deeds).map (·.amount) := List.map_filterMap.symm
      rw [hadditions]
      cases answer with
      | false =>
        rw [additions_of_idle (isIdle_of_ends hends)]
        rfl
      | true =>
        obtain ⟨item, hitem, hadded, _⟩ := counted_of_ends hends hterms
        rw [hadded]
        simp only [isOn_iff hitem, if_true])
  rw [flatMap_ite] at hperm
  simpa only [additions, List.map_filterMap] using hperm

theorem logged_perm :
    ((((pool store calls).deeds moves).map (·.2)).filterMap logged?).Perm
      ((accepted calls answers).filterMap (·.logRow? store)) := by
  rw [List.filterMap_eq_flatMap_toList (f := fun c : Increment => c.logRow? store)]
  refine perm_of_ended hended logged? _ fun c answer deeds hends hterms => ?_
  cases answer with
  | false =>
    exact List.filterMap_eq_nil_iff.mpr fun d hd => (isIdle_of_ends hends d hd).logged?
  | true =>
    obtain ⟨item, hitem, _, hlogged⟩ := counted_of_ends hends hterms
    simp [hlogged, logRow?, hitem]

end

def loggedFor (item : SubscriptionItem) (rows : List NewUsageLog) : ℚ :=
  ((rows.filter fun r => r.subscriptionId = item.subscriptionId ∧ r.featureId = item.featureId).map
    (·.amount.toRat)).sum

theorem mem_of_item? {store : Store} {c : Increment} {item : SubscriptionItem}
    (h : c.item? store = some item) : item ∈ store.items := by
  obtain ⟨⟨_, feature⟩, hfound, rfl⟩ := Option.map_eq_some_iff.mp h
  exact (Store.findItem_eq_some hfound).1

/-- The entries for an item that is the only one of its subscription and feature are those of the
calls on it. -/
theorem loggedFor_eq {store : Store} (hids : (store.items.map (·.id)).Nodup)
    {item : SubscriptionItem} (hitem : item ∈ store.items)
    (hone : ∀ other ∈ store.items, other.subscriptionId = item.subscriptionId →
      other.featureId = item.featureId → other = item) (calls : List Increment) :
    loggedFor item (calls.filterMap (·.logRow? store)) =
      total (calls.filter (·.IsOn store item.id)) := by
  induction calls with
  | nil => rfl
  | cons c rest ih =>
    cases hc : c.item? store with
    | none =>
      have hon : ¬ c.IsOn store item.id := by simp [IsOn, hc]
      simpa [logRow?, hc, hon] using ih
    | some other =>
      have hother := mem_of_item? hc
      have hrow : (other.subscriptionId = item.subscriptionId ∧ other.featureId = item.featureId) ↔
          c.IsOn store item.id := by
        rw [isOn_iff hc]
        constructor
        · rintro ⟨hsubscription, hfeature⟩
          rw [hone other hother hsubscription hfeature]
        · intro hid
          obtain rfl := List.inj_on_of_nodup_map hids hother hitem hid
          exact ⟨rfl, rfl⟩
      by_cases hon : c.IsOn store item.id
      · obtain ⟨hsubscription, hfeature⟩ := hrow.mpr hon
        simpa [loggedFor, total, logRow?, hc, hon, hsubscription, hfeature] using ih
      · have hrow' := mt hrow.mp hon
        simpa [loggedFor, total, logRow?, hc, hon, hrow'] using ih

/-- The account of calls that have ended: the store before and after them, and what each did. -/
structure Accounted (store : Store) (calls : List Increment) (answers : List Bool)
    (deeds : List (Nat × Deed)) (s : Store) : Prop where
  terms : store.SameTerms s
  counters : ∀ item ∈ store.items, ∃ item' ∈ s.items, item'.id = item.id ∧
    item'.usage.toRat =
      item.usage.toRat + total ((accepted calls answers).filter (·.IsOn store item.id))
  untouched : ∀ item ∈ store.items,
    (∀ c ∈ accepted calls answers, ¬ c.IsOn store item.id) → item ∈ s.items
  rejected : ∀ i : Nat, answers[i]? = some false →
    ∀ before after call, .asked before after call ∈ Deed.of i deeds → after = before
  logged : ∀ (i : Nat) c, calls[i]? = some c → answers[i]? = some true →
    ∃ item, c.item? store = some item ∧ (Deed.of i deeds).filterMap logged? =
      [⟨item.subscriptionId, item.featureId, c.amount, some Usage.incrementNote, none⟩]
  log : ∃ written, s.usageLogs = store.usageLogs ++ written ∧
    (written.map (·.toNewUsageLog)).Perm ((accepted calls answers).filterMap (·.logRow? store)) ∧
    ∀ item ∈ store.items, ∀ item' ∈ s.items, item'.id = item.id →
      (∀ other ∈ store.items, other.subscriptionId = item.subscriptionId →
        other.featureId = item.featureId → other = item) →
      loggedFor item (written.map (·.toNewUsageLog)) = item'.usage.toRat - item.usage.toRat

/-- However the steps of any increments are interleaved, once all of them have returned, the
counters have gone up by exactly the amounts of those that returned true, and the log says so. -/
theorem accounted {store : Store} (hids : (store.items.map (·.id)).Nodup) (calls : List Increment)
    (moves : List Move) (answers : List Bool)
    (hended : ((pool store calls).run moves).calls = answers.map .done)
    (hexact : ∀ x ∈ (((pool store calls).deeds moves).map (·.2)).filterMap addition?,
      x.IsRepresentable) :
    Accounted store calls answers ((pool store calls).deeds moves)
      ((pool store calls).run moves).world.store := by
  have hchain := ((pool store calls).leads_run moves).stores
  have huse := isUse_of_mem_deeds store calls moves
  have hterms := hchain.sameTerms huse
  have hcount : ∀ item ∈ store.items, ∃ item' ∈ ((pool store calls).run moves).world.store.items,
      item'.id = item.id ∧
      item'.usage.toRat =
        item.usage.toRat + total ((accepted calls answers).filter (·.IsOn store item.id)) ∧
      ((∀ c ∈ accepted calls answers, ¬ c.IsOn store item.id) → item' = item) := by
    intro item hitem
    have hperm := additions_perm hended item.id
    obtain ⟨item', hitem', htile, hsame⟩ :=
      hchain.tile huse (resets_of_mem_deeds store calls moves item.id)
        (Store.item?_of_mem hids hitem)
    obtain ⟨hmem, hid⟩ := Store.item?_eq_some hitem'
    refine ⟨item', hmem, hid, ?_, ?_⟩
    · have hsum := (hperm.map Decimal.toRat).sum_eq
      rw [List.map_map, List.map_map] at hsum
      rw [htile.toRat_eq fun x hx => hexact x (mem_of_mem_additions hx)]
      exact congrArg (item.usage.toRat + ·) hsum
    · intro hnone
      have hfilter : (accepted calls answers).filter (·.IsOn store item.id) = [] := by
        simpa using hnone
      rw [hfilter, List.map_nil, List.perm_nil, List.map_eq_nil_iff] at hperm
      exact hsame hperm
  refine ⟨hterms, ?_, ?_, ?_, ?_, ?_⟩
  · intro item hitem
    obtain ⟨item', hmem, hid, husage, _⟩ := hcount item hitem
    exact ⟨item', hmem, hid, husage⟩
  · intro item hitem hnone
    obtain ⟨item', hmem, _, _, hsame⟩ := hcount item hitem
    exact hsame hnone ▸ hmem
  · intro i hanswer before after call hd
    obtain ⟨c, hc⟩ : ∃ c, calls[i]? = some c := by
      have hlt := (List.getElem?_eq_some_iff.mp hanswer).1
      rw [length_answers hended] at hlt
      exact ⟨calls[i], List.getElem?_eq_getElem hlt⟩
    obtain ⟨answer, hanswer', hends⟩ := ends_of_ended hended hc
    obtain rfl : answer = false := Option.some.inj (hanswer'.symm.trans hanswer)
    exact (isIdle_of_ends hends _ hd).store
  · intro i c hc hanswer
    obtain ⟨answer, hanswer', hends⟩ := ends_of_ended hended hc
    obtain rfl : answer = true := Option.some.inj (hanswer'.symm.trans hanswer)
    obtain ⟨item, hitem, _, hlogged⟩ :=
      counted_of_ends hends fun _ _ _ => sameTerms_of_pool huse
    exact ⟨item, hitem, hlogged⟩
  · obtain ⟨written, hwritten, hrows⟩ := hchain.logs huse
    have hperm := hrows ▸ logged_perm hended
    refine ⟨written, hwritten, hperm, ?_⟩
    intro item hitem item' hitem' hid hone
    obtain ⟨found, hfound, hid', husage, _⟩ := hcount item hitem
    have hsame : found = item' :=
      List.inj_on_of_nodup_map (hterms.ids ▸ hids) hfound hitem' (hid'.trans hid.symm)
    have hlog : loggedFor item (written.map (·.toNewUsageLog)) =
        loggedFor item ((accepted calls answers).filterMap (·.logRow? store)) :=
      ((hperm.filter _).map _).sum_eq
    rw [hlog, loggedFor_eq hids hitem hone, ← hsame, husage]
    ring

/-! Both calls read ninety of a hundred; the update of the second is refused for the limit. -/

def raceIncrement : Increment :=
  { subscription :=
      { subscriberType := "user", subscriberId := .ofNat 5, packageId := .ofNat 6
        status := "active", startsAt := .first, endsAt := none, trialEndsAt := none
        cancelledAt := none, cancellationReason := none, autoRenew := true, metadata := none
        id := .ofNat 2, createdAt := .first, updatedAt := .first, deletedAt := none }
    slug := "api-calls"
    amount := Usage.raceAmount }

def racePool : Pool Bool := pool Usage.raceStore [raceIncrement, raceIncrement]

def raceEnding : List Move := Usage.raceMoves ++ [⟨0, { now := .first }⟩]

theorem accounted_race :
    (Usage.raceStore.items.map (·.id)).Nodup ∧
      (racePool.run raceEnding).calls = [true, false].map .done ∧
      (∀ x ∈ ((racePool.deeds raceEnding).map (·.2)).filterMap addition?, x.IsRepresentable) ∧
      let s := (racePool.run raceEnding).world.store
      s.items.map (·.usage) = [.hundred] ∧ s.usageLogs.map (·.amount) = [.whole 10 (by decide)] ∧
        Accounted Usage.raceStore [raceIncrement, raceIncrement] [true, false]
          (racePool.deeds raceEnding) s := by
  have hids : (Usage.raceStore.items.map (·.id)).Nodup := by decide
  have hended : (racePool.run raceEnding).calls = [true, false].map .done := rfl
  have hadditions : ((racePool.deeds raceEnding).map (·.2)).filterMap addition? =
      [⟨.ofNat 3, .whole 90 (by decide), .whole 10 (by decide), .hundred⟩] := rfl
  have hexact : ∀ x ∈ ((racePool.deeds raceEnding).map (·.2)).filterMap addition?,
      x.IsRepresentable := by
    rw [hadditions]
    simp only [List.mem_singleton, forall_eq]
    exact ⟨.hundred, by norm_num [Decimal.toRat, Decimal.hundred, Decimal.whole]⟩
  exact ⟨hids, hended, hexact, by decide +kernel, by decide +kernel,
    accounted hids _ raceEnding _ hended hexact⟩

end Increment

end RecurringBilling
