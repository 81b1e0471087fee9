import RecurringBilling.Proofs.Decimal.Rounding
import RecurringBilling.Proofs.Deeds
import RecurringBilling.Proofs.Usage.Limit

/-! What the calls on items do to the store. The additions to one item tile the history of its
count: each begins where the one before ended. -/

namespace RecurringBilling

/-- What of an item its use leaves as it is. -/
def SubscriptionItem.terms (item : SubscriptionItem) : SubscriptionItem :=
  { item with usage := 0, updatedAt := item.createdAt }

/-- An amount that was added to the count of an item. -/
structure Addition where
  item : Id
  old : Decimal
  amount : Decimal
  new : Decimal
  deriving DecidableEq

namespace Addition

/-- Whether the additions lead from one count to the other, each from where the one before ended. -/
def Tile (usage : Decimal) : List Addition → Decimal → Prop
  | [], usage' => usage' = usage
  | x :: rest, usage' => x.old = usage ∧ x.old.add x.amount = .ok x.new ∧ Tile x.new rest usage'

variable {usage between usage' : Decimal} {xs ys : List Addition}

theorem Tile.append (h : Tile usage xs between) (h' : Tile between ys usage') :
    Tile usage (xs ++ ys) usage' := by
  induction xs generalizing usage with
  | nil =>
    obtain rfl : between = usage := h
    exact h'
  | cons x rest ih => exact ⟨h.1, h.2.1, ih h.2.2⟩

def IsRepresentable (x : Addition) : Prop := Decimal.Representable (x.old.toRat + x.amount.toRat)

theorem new_eq {x : Addition} (hadd : x.old.add x.amount = .ok x.new) (hx : x.IsRepresentable) :
    x.new.toRat = x.old.toRat + x.amount.toRat := by
  obtain ⟨new, hnew, hsum⟩ := Decimal.add_exact hx
  obtain rfl : new = x.new := Except.ok.inj (hnew.symm.trans hadd)
  exact hsum

theorem Tile.toRat_eq (h : Tile usage xs usage') (hexact : ∀ x ∈ xs, x.IsRepresentable) :
    usage'.toRat = usage.toRat + (xs.map (·.amount.toRat)).sum := by
  induction xs generalizing usage with
  | nil =>
    obtain rfl : usage' = usage := h
    simp
  | cons x rest ih =>
    obtain ⟨rfl, hadd, hrest⟩ := h
    obtain ⟨hx, hexact⟩ := List.forall_mem_cons.mp hexact
    rw [ih hrest hexact, new_eq hadd hx, List.map_cons, List.sum_cons, add_assoc]

end Addition

namespace Store

variable {s s' s'' : Store} {id target subscriptionId : Id} {item : SubscriptionItem}
  {now : Instant}
  {usage : Decimal}

def item? (id : Id) (s : Store) : Option SubscriptionItem := s.items.find? (·.id == id)

theorem item?_of_mem (hids : (s.items.map (·.id)).Nodup) (hitem : item ∈ s.items) :
    s.item? item.id = some item := find?_of_nodup hids hitem

theorem item?_eq_some (h : s.item? id = some item) : item ∈ s.items ∧ item.id = id :=
  ⟨List.mem_of_find?_eq_some h, by simpa using List.find?_some h⟩

structure SameTerms (s s' : Store) : Prop where
  features : s'.features = s.features
  items : s'.items.map (·.terms) = s.items.map (·.terms)

theorem SameTerms.refl (s : Store) : s.SameTerms s := ⟨rfl, rfl⟩

theorem SameTerms.trans (h : s.SameTerms s') (h' : s'.SameTerms s'') : s.SameTerms s'' :=
  ⟨h'.features.trans h.features, h'.items.trans h.items⟩

theorem SameTerms.symm (h : s.SameTerms s') : s'.SameTerms s := ⟨h.features.symm, h.items.symm⟩

theorem SameTerms.ids (h : s.SameTerms s') : s'.items.map (·.id) = s.items.map (·.id) := by
  simpa [SubscriptionItem.terms, Function.comp_def] using congrArg (List.map (·.id)) h.items

theorem SameTerms.item? (h : s.SameTerms s') (hitem : s.item? id = some item) :
    ∃ item', s'.item? id = some item' := by
  have hfind : ∀ s : Store, (s.item? id).isSome = true ↔ id ∈ s.items.map (·.id) := by
    intro s
    simp [Store.item?, List.mem_map]
  refine Option.isSome_iff_exists.mp ((hfind s').mpr ?_)
  rw [h.ids]
  exact (hfind s).mp (by simp [hitem])

theorem itemsWithFeatures_terms (s : Store) (subscriptionId : Id) :
    (s.itemsWithFeatures subscriptionId).map (fun found => (found.1.terms, found.2)) =
      ((s.items.map (·.terms)).filter (·.subscriptionId == subscriptionId)).filterMap fun item =>
        (s.findFeature item.featureId).map (item, ·) := by
  simp only [itemsWithFeatures, List.map_filterMap, List.filter_map, List.filterMap_map,
    Function.comp_def, Option.map_map, SubscriptionItem.terms]

theorem SameTerms.findItem (h : s.SameTerms s') (subscriptionId : Id) (slug : String) :
    (s'.findItem subscriptionId slug).map (fun found => (found.1.terms, found.2)) =
      (s.findItem subscriptionId slug).map fun found => (found.1.terms, found.2) := by
  have hmap : ∀ s : Store, (s.findItem subscriptionId slug).map
      (fun found => (found.1.terms, found.2)) =
      ((s.itemsWithFeatures subscriptionId).map fun found => (found.1.terms, found.2)).find?
        fun found => found.2.slug == slug := by
    intro s
    rw [List.find?_map]
    rfl
  have hfeature : s'.findFeature = s.findFeature := by
    funext id
    rw [findFeature, findFeature, h.features]
  rw [hmap, hmap, itemsWithFeatures_terms, itemsWithFeatures_terms, h.items, hfeature]

theorem subscriptionId_of_findItem {slug : String} {feature : Feature}
    (h : s.findItem subscriptionId slug = some (item, feature)) :
    item.subscriptionId = subscriptionId :=
  (mem_itemsWithFeatures.mp (List.mem_of_find?_eq_some h)).2.1

theorem SameTerms.findItem_eq_some {slug : String} {feature : Feature} (h : s.SameTerms s')
    (hfound : s'.findItem subscriptionId slug = some (item, feature)) :
    ∃ item', s.findItem subscriptionId slug = some (item', feature) ∧ item'.terms = item.terms := by
  have hterms := h.findItem subscriptionId slug
  rw [hfound] at hterms
  obtain ⟨⟨item', feature'⟩, hfound', heq⟩ := Option.map_eq_some_iff.mp hterms.symm
  obtain ⟨hitem, rfl⟩ := Prod.mk.inj heq
  exact ⟨item', hfound', hitem⟩

theorem sameTerms_resetAllUsage (s : Store) (now : Instant) (subscriptionId : Id) :
    s.SameTerms (s.resetAllUsage now subscriptionId).2 := by
  refine ⟨rfl, ?_⟩
  simp only [resetAllUsage, List.map_map]
  apply List.map_congr_left
  intro item _
  simp only [Function.comp_apply]
  split <;> rfl

section

variable {row : SubscriptionItem} {rows : List SubscriptionItem}
  (h : modifyFirst? (·.id == target) (setUsage now usage) s.items = some (row, rows))

include h

theorem sameTerms_setUsage : s.SameTerms { s with items := rows } :=
  ⟨rfl, map_modifyFirst? h _ fun _ => rfl⟩

theorem item?_setUsage : ∃ old, s.item? target = some old ∧
    ({ s with items := rows } : Store).item? target = some (setUsage now usage old) := by
  obtain ⟨before, old, after, _, hfind, rfl, _, _⟩ := modifyFirst?_eq_some h
  exact ⟨old, hfind, find?_modifyFirst? h fun _ => rfl⟩

theorem item?_setUsage_of_ne (hne : target ≠ id) :
    ({ s with items := rows } : Store).item? id = s.item? id := by
  refine find?_modifyFirst?_of_not h (fun x hx => ?_) fun _ => rfl
  obtain rfl : x.id = target := by simpa using hx
  simpa using hne

end

theorem incrementUsage_eq_some {amount new : Decimal} {limit : Option Decimal}
    (h : s.incrementUsage now target amount limit = .ok (some new, s')) :
    ∃ item row rows, s.item? target = some item ∧ item.usage.add amount = .ok new ∧
      modifyFirst? (·.id == target) (setUsage now new) s.items = some (row, rows) ∧
      s' = { s with items := rows } := by
  unfold incrementUsage at h
  split at h
  · simp at h
  · rename_i item hitem
    split at h
    · cases h
    · rename_i usage hadd
      split at h
      · simp at h
      · split at h
        · rename_i row rows hm
          simp only [Except.ok.injEq, Prod.mk.injEq, Option.some.injEq] at h
          obtain ⟨rfl, rfl⟩ := h
          exact ⟨item, row, rows, hitem, hadd, hm, rfl⟩
        · simp at h

theorem incrementUsage_eq_none {amount : Decimal} {limit : Option Decimal}
    (h : s.incrementUsage now target amount limit = .ok (none, s')) : s' = s := by
  unfold incrementUsage at h
  repeat' split at h
  all_goals simp_all

theorem resetUsage_eq_ok (h : s.resetUsage now target = .ok ((), s')) :
    ∃ row rows, modifyFirst? (·.id == target) (setUsage now 0) s.items = some (row, rows) ∧
      s' = { s with items := rows } := by
  unfold resetUsage at h
  split at h
  · rename_i row rows hm
    simp only [Except.ok.injEq, Prod.mk.injEq, true_and] at h
    exact ⟨row, rows, hm, h.symm⟩
  · cases h

end Store

namespace Deed

def addition? : Deed → Option Addition
  | asked before _ ⟨.incrementUsage target amount _, .ok (some new)⟩ =>
    (before.item? target).map fun item => ⟨target, item.usage, amount, new⟩
  | _ => none

def resets (id : Id) : Deed → Bool
  | asked _ _ ⟨.resetUsage target, .ok _⟩ => target == id
  | asked before _ ⟨.resetAllUsage subscriptionId, .ok _⟩ =>
    (before.item? id).any (·.subscriptionId == subscriptionId)
  | _ => false

def logged? : Deed → Option NewUsageLog
  | asked _ _ ⟨.createUsageLog row, .ok _⟩ => some row
  | _ => none

def additions (id : Id) (deeds : List Deed) : List Addition :=
  deeds.filterMap fun d => d.addition?.filter (·.item = id)

theorem additions_singleton (id : Id) (d : Deed) :
    additions id [d] = (d.addition?.filter (·.item = id)).toList := by
  rw [additions, filterMap_cons_toList, List.filterMap_nil, List.append_nil]

theorem additions_counted {before after : Store} {target : Id} {item : SubscriptionItem}
    (hitem : before.item? target = some item) (amount new : Decimal) (limit : Option Decimal)
    (id : Id) :
    additions id [asked before after ⟨.incrementUsage target amount limit, .ok (some new)⟩] =
      if target = id then [⟨target, item.usage, amount, new⟩] else [] := by
  have haddition : (asked before after
      ⟨.incrementUsage target amount limit, .ok (some new)⟩).addition? =
      (before.item? target).map fun item => ⟨target, item.usage, amount, new⟩ := rfl
  rw [additions_singleton, haddition, hitem]
  by_cases hid : target = id <;> simp [hid]

theorem additions_append (id : Id) (deeds deeds' : List Deed) :
    additions id (deeds ++ deeds') = additions id deeds ++ additions id deeds' :=
  List.filterMap_append

theorem additions_cons (id : Id) (d : Deed) (deeds : List Deed) :
    additions id (d :: deeds) = additions id [d] ++ additions id deeds :=
  additions_append id [d] deeds

theorem mem_additions_of_mem {id : Id} {x : Addition} {d : Deed} {deeds : List Deed}
    (hx : x ∈ additions id [d]) (hd : d ∈ deeds) : x ∈ additions id deeds := by
  obtain ⟨_, hd', hadds⟩ := List.mem_filterMap.mp hx
  obtain rfl := List.mem_singleton.mp hd'
  exact List.mem_filterMap.mpr ⟨_, hd, hadds⟩

theorem mem_of_mem_additions {id : Id} {x : Addition} {deeds : List Deed}
    (h : x ∈ additions id deeds) : x ∈ deeds.filterMap addition? := by
  obtain ⟨d, hd, hx⟩ := List.mem_filterMap.mp h
  exact List.mem_filterMap.mpr ⟨d, hd, (Option.filter_eq_some_iff.mp hx).1⟩

/-- A request that finds the store one way and leaves it so. -/
inductive IsIdle : Deed → Prop where
  | read (s : Store) (subscriptionId : Id) (slug : String)
      (found : Option (SubscriptionItem × Feature)) :
      IsIdle (asked s s ⟨.findItem subscriptionId slug, .ok found⟩)
  | rejected (s : Store) (target : Id) (amount : Decimal) (limit : Option Decimal) :
      IsIdle (asked s s ⟨.incrementUsage target amount limit, .ok none⟩)
  | refused (s : Store) (r : Request) (e : StorageError) : IsIdle (asked s s ⟨r, .error e⟩)

/-- What the calls on items do. -/
inductive IsUse : Deed → Prop where
  | idle {d : Deed} (h : d.IsIdle) : IsUse d
  | counted {before after : Store} {now : Instant} {target : Id} {amount new : Decimal}
      {limit : Option Decimal}
      (h : before.incrementUsage now target amount limit = .ok (some new, after)) :
      IsUse (asked before after ⟨.incrementUsage target amount limit, .ok (some new)⟩)
  | reset {before after : Store} {now : Instant} {target : Id}
      (h : before.resetUsage now target = .ok ((), after)) :
      IsUse (asked before after ⟨.resetUsage target, .ok ()⟩)
  | resetAll (before : Store) (now : Instant) (subscriptionId : Id) (count : Nat) :
      IsUse (asked before (before.resetAllUsage now subscriptionId).2
        ⟨.resetAllUsage subscriptionId, .ok count⟩)
  | logged (before : Store) (now : Instant) (row : NewUsageLog) (entry : UsageLog) :
      IsUse (asked before (before.createUsageLog now row).2 ⟨.createUsageLog row, .ok entry⟩)
  | announced (event : BillingEvent) : IsUse (announced event)

variable {id : Id} {before after s s' : Store} {call : Call} {d : Deed} {deeds : List Deed}
  {item : SubscriptionItem}

theorem IsIdle.store (h : IsIdle (asked before after call)) : after = before := by
  cases h <;> rfl

theorem IsIdle.addition? (h : d.IsIdle) : d.addition? = none := by
  cases h with
  | refused s r e => cases r <;> rfl
  | _ => rfl

theorem additions_of_idle (h : ∀ d ∈ deeds, d.IsIdle) (id : Id) : additions id deeds = [] := by
  refine List.filterMap_eq_nil_iff.mpr fun d hd => ?_
  rw [(h d hd).addition?]
  rfl

theorem IsIdle.logged? (h : d.IsIdle) : d.logged? = none := by
  cases h with
  | refused s r e => cases r <;> rfl
  | _ => rfl

theorem IsIdle.resets (h : d.IsIdle) (id : Id) : d.resets id = false := by
  cases h with
  | refused s r e => cases r <;> rfl
  | _ => rfl

theorem IsIdle.event? (h : d.IsIdle) : d.event? = none := by
  cases h <;> rfl

theorem IsUse.sameTerms (h : IsUse (asked before after call)) : before.SameTerms after := by
  cases h with
  | idle h =>
    rw [h.store]
    exact .refl _
  | counted h =>
    obtain ⟨_, _, rows, _, _, hm, rfl⟩ := Store.incrementUsage_eq_some h
    exact Store.sameTerms_setUsage hm
  | reset h =>
    obtain ⟨_, rows, hm, rfl⟩ := Store.resetUsage_eq_ok h
    exact Store.sameTerms_setUsage hm
  | resetAll _ now subscriptionId count => exact Store.sameTerms_resetAllUsage ..
  | logged _ now row entry => exact ⟨rfl, rfl⟩

/-- Unless it is reset, the count of an item changes by additions alone. -/
theorem IsUse.tile (h : IsUse (asked before after call)) (hitem : before.item? id = some item)
    (hreset : (asked before after call).resets id = false) :
    ∃ item', after.item? id = some item' ∧
      Addition.Tile item.usage (additions id [asked before after call]) item'.usage ∧
      (additions id [asked before after call] = [] → item' = item) := by
  cases h with
  | idle h =>
    rw [additions_of_idle (by simpa using h), h.store]
    exact ⟨item, hitem, rfl, fun _ => rfl⟩
  | @counted _ _ now target amount new limit h =>
    obtain ⟨old, _, rows, hold, hadd, hm, rfl⟩ := Store.incrementUsage_eq_some h
    by_cases hid : target = id
    · subst hid
      obtain rfl : old = item := Option.some.inj (hold.symm.trans hitem)
      obtain ⟨old', hold', hnew⟩ := Store.item?_setUsage hm
      obtain rfl : old' = old := Option.some.inj (hold'.symm.trans hold)
      refine ⟨_, hnew, ?_, ?_⟩
      · rw [additions_counted hold, if_pos rfl]
        exact ⟨rfl, hadd, rfl⟩
      · simp [additions_counted hold]
    · refine ⟨item, (Store.item?_setUsage_of_ne hm hid).trans hitem, ?_, fun _ => rfl⟩
      rw [additions_counted hold, if_neg hid]
      rfl
  | @reset _ _ now target h =>
    obtain ⟨_, rows, hm, rfl⟩ := Store.resetUsage_eq_ok h
    have hid : target ≠ id := by simpa [resets] using hreset
    exact ⟨item, (Store.item?_setUsage_of_ne hm hid).trans hitem, rfl, fun _ => rfl⟩
  | resetAll _ now subscriptionId count =>
    have hother : item.subscriptionId ≠ subscriptionId := by
      simpa [resets, hitem] using hreset
    refine ⟨item, ?_, rfl, fun _ => rfl⟩
    have hid : ((·.id == id) ∘ fun item : SubscriptionItem =>
        if item.subscriptionId = subscriptionId then Store.setUsage now 0 item else item) =
        (·.id == id) := by
      funext x
      simp only [Function.comp_apply]
      split <;> rfl
    unfold Store.item? at hitem
    rw [Store.item?, Store.resetAllUsage, List.find?_map, hid, hitem, Option.map_some,
      if_neg hother]
  | logged _ now row entry => exact ⟨item, hitem, rfl, fun _ => rfl⟩

theorem Chained.sameTerms (h : Chained s deeds s') (huse : ∀ d ∈ deeds, d.IsUse) :
    s.SameTerms s' := by
  induction deeds generalizing s with
  | nil =>
    obtain rfl : s' = s := h
    exact .refl _
  | cons d rest ih =>
    obtain ⟨hd, hrest⟩ := List.forall_mem_cons.mp huse
    cases d with
    | asked before after call =>
      obtain ⟨rfl, h⟩ := h
      exact hd.sameTerms.trans (ih h hrest)
    | announced event => exact ih h hrest

theorem Chained.sameTerms_of_mem (h : Chained s deeds s') (huse : ∀ d ∈ deeds, d.IsUse)
    (hd : asked before after call ∈ deeds) : s.SameTerms before := by
  obtain ⟨early, late, rfl⟩ := List.append_of_mem hd
  obtain ⟨between, hearly, hlate⟩ := chained_append.mp h
  obtain rfl : before = between := hlate.1
  exact hearly.sameTerms fun d hd => huse d (List.mem_append_left _ hd)

/-- Each call finds the items as they were at the start but for their use. -/
theorem sameTerms_of_pool {α : Type} {pool : Pool α} {moves : List Move}
    (huse : ∀ d ∈ (pool.deeds moves).map (·.2), d.IsUse) {i : Nat}
    (hd : asked before after call ∈ Deed.of i (pool.deeds moves)) :
    pool.world.store.SameTerms before :=
  (pool.leads_run moves).stores.sameTerms_of_mem huse
    (List.mem_map.mpr ⟨(i, _), mem_of.mp hd, rfl⟩)

/-- As long as an item is not reset, the additions to it tile the history of its count. -/
theorem Chained.tile (h : Chained s deeds s') (huse : ∀ d ∈ deeds, d.IsUse)
    (hreset : ∀ d ∈ deeds, d.resets id = false) (hitem : s.item? id = some item) :
    ∃ item', s'.item? id = some item' ∧ Addition.Tile item.usage (additions id deeds) item'.usage ∧
      (additions id deeds = [] → item' = item) := by
  induction deeds generalizing s item with
  | nil =>
    obtain rfl : s' = s := h
    exact ⟨item, hitem, rfl, fun _ => rfl⟩
  | cons d rest ih =>
    obtain ⟨hd, hrest⟩ := List.forall_mem_cons.mp huse
    obtain ⟨hdkept, hkept⟩ := List.forall_mem_cons.mp hreset
    cases d with
    | asked before after call =>
      obtain ⟨rfl, h⟩ := h
      obtain ⟨between, hbetween, htile, hsame⟩ := hd.tile hitem hdkept
      obtain ⟨item', hitem', htile', hsame'⟩ := ih h hrest hkept hbetween
      rw [additions_cons]
      refine ⟨item', hitem', htile.append htile', ?_⟩
      intro hnone
      obtain ⟨hfirst, hlater⟩ := List.append_eq_nil_iff.mp hnone
      exact (hsame' hlater).trans (hsame hfirst)
    | announced event => exact ih h hrest hkept hitem

theorem IsUse.logs (h : IsUse (asked before after call)) :
    ∃ written, after.usageLogs = before.usageLogs ++ written ∧
      written.map (·.toNewUsageLog) = (asked before after call).logged?.toList := by
  cases h with
  | idle h =>
    rw [h.logged?, h.store]
    exact ⟨[], by simp, rfl⟩
  | counted h =>
    obtain ⟨_, _, rows, _, _, _, rfl⟩ := Store.incrementUsage_eq_some h
    exact ⟨[], by simp, rfl⟩
  | reset h =>
    obtain ⟨_, rows, _, rfl⟩ := Store.resetUsage_eq_ok h
    exact ⟨[], by simp, rfl⟩
  | resetAll _ now subscriptionId count => exact ⟨[], by simp [Store.resetAllUsage], rfl⟩
  | logged _ now row entry => exact ⟨[_], rfl, rfl⟩

theorem Chained.logs (h : Chained s deeds s') (huse : ∀ d ∈ deeds, d.IsUse) :
    ∃ written, s'.usageLogs = s.usageLogs ++ written ∧
      written.map (·.toNewUsageLog) = deeds.filterMap logged? := by
  induction deeds generalizing s with
  | nil =>
    obtain rfl : s' = s := h
    exact ⟨[], by simp, rfl⟩
  | cons d rest ih =>
    obtain ⟨hd, hrest⟩ := List.forall_mem_cons.mp huse
    cases d with
    | asked before after call =>
      obtain ⟨rfl, h⟩ := h
      obtain ⟨written, hwritten, hrows⟩ := hd.logs
      obtain ⟨later, hlater, hlaterRows⟩ := ih h hrest
      refine ⟨written ++ later, by rw [hlater, hwritten, List.append_assoc], ?_⟩
      rw [List.map_append, hrows, hlaterRows, filterMap_cons_toList]
    | announced event => exact ih h hrest

end Deed

end RecurringBilling
