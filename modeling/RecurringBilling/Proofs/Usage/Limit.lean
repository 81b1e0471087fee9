import RecurringBilling.Proofs.Decimal.Order
import RecurringBilling.Proofs.Interleaving
import RecurringBilling.Proofs.Store.Rows
import RecurringBilling.Usage

/-! The limit of an item under calls at the same time. A call decides on what it read, but it hands
the limit that it read to the update, and the update decides on the count as it then stands. -/

namespace RecurringBilling

inductive UsageCall where
  | increment (subscription : Subscription) (slug : String) (amount : Decimal)
  | reset (subscription : Subscription) (slug : String)
  | resetAll (subscription : Subscription)

inductive UsageAnswer where
  | incremented (accepted : Bool)
  | reset (found : Bool)
  | resetAll (items : Nat)

namespace UsageCall

def procedure : UsageCall → Procedure UsageAnswer
  | increment subscription slug amount =>
    .incremented <$> Usage.increment subscription slug amount
  | reset subscription slug => .reset <$> Usage.reset subscription slug
  | resetAll subscription => .resetAll <$> Usage.resetAll subscription

def pool (store : Store) (calls : List UsageCall) : Pool UsageAnswer :=
  ⟨{ store := store }, calls.map procedure⟩

end UsageCall

namespace Store

variable {s s' : Store} {id : Id} {limit : Decimal} {now : Instant}

/-- Every row of the identifier is of a limited feature, has a value that reads as the limit, and
keeps that limit. -/
def Limited (id : Id) (limit : Decimal) (s : Store) : Prop :=
  ∀ item ∈ s.items, item.id = id → item.limitValue = limit ∧ item.usage ≤ limit ∧
    ∀ feature, s.findFeature item.featureId = some feature → feature.isOfType .limit

theorem Limited.of_usage (h : s.Limited id limit) (hf : s'.features = s.features)
    (hi : ∀ x ∈ s'.items, x ∈ s.items ∨ ∃ old ∈ s.items, ∃ now usage,
      x = setUsage now usage old ∧ (old.id = id → usage ≤ limit)) : s'.Limited id limit := by
  intro x hx hid
  have hfind : ∀ featureId, s'.findFeature featureId = s.findFeature featureId := by
    simp [findFeature, hf]
  simp only [hfind]
  rcases hi x hx with hx | ⟨old, hold, now, usage, rfl, hu⟩
  · exact h x hx hid
  · obtain ⟨hv, _, hl⟩ := h old hold hid
    exact ⟨hv, hu hid, hl⟩

theorem mem_itemsWithFeatures {subscriptionId : Id} {item : SubscriptionItem} {feature : Feature} :
    (item, feature) ∈ s.itemsWithFeatures subscriptionId ↔ item ∈ s.items ∧
      item.subscriptionId = subscriptionId ∧ s.findFeature item.featureId = some feature := by
  simp [itemsWithFeatures, and_assoc]

theorem findItem_eq_some {subscriptionId : Id} {slug : String} {item : SubscriptionItem}
    {feature : Feature} (h : s.findItem subscriptionId slug = some (item, feature)) :
    item ∈ s.items ∧ s.findFeature item.featureId = some feature := by
  obtain ⟨hitem, _, hfeature⟩ := mem_itemsWithFeatures.mp (List.mem_of_find?_eq_some h)
  exact ⟨hitem, hfeature⟩

theorem Limited.incrementUsage {target : Id} {amount : Decimal} {enforced reply : Option Decimal}
    (h : s.Limited id limit) (hl : target = id → enforced = some limit)
    (ha : s.incrementUsage now target amount enforced = .ok (reply, s')) :
    s'.Limited id limit ∧ s'.items.map (·.id) = s.items.map (·.id) := by
  unfold Store.incrementUsage at ha
  split at ha
  · cases ha
    exact ⟨h, rfl⟩
  · split at ha
    · cases ha
    · rename_i usage _
      split at ha
      · cases ha
        exact ⟨h, rfl⟩
      · rename_i hle
        split at ha
        · rename_i items hm
          cases ha
          refine ⟨h.of_usage rfl ?_, map_modifyFirst? hm _ fun _ => rfl⟩
          intro x hx
          refine (mem_of_modifyFirst? hm hx).imp_right ?_
          rintro ⟨old, hold, hp, rfl⟩
          refine ⟨old, hold, now, usage, rfl, ?_⟩
          intro hid
          have ht : old.id = target := by simpa using hp
          have he : enforced = some limit := hl (ht.symm.trans hid)
          rw [he] at hle
          exact Decimal.not_lt.mp (by simpa using hle)
        · cases ha
          exact ⟨h, rfl⟩

theorem Limited.resetUsage {target : Id} (h : s.Limited id limit) (hpos : 0 < limit)
    (ha : s.resetUsage now target = .ok ((), s')) :
    s'.Limited id limit ∧ s'.items.map (·.id) = s.items.map (·.id) := by
  unfold Store.resetUsage at ha
  split at ha
  · rename_i items hm
    cases ha
    refine ⟨h.of_usage rfl ?_, map_modifyFirst? hm _ fun _ => rfl⟩
    intro x hx
    refine (mem_of_modifyFirst? hm hx).imp_right ?_
    rintro ⟨old, hold, _, rfl⟩
    exact ⟨old, hold, now, 0, rfl, fun _ => Decimal.le_of_lt hpos⟩
  · cases ha

theorem Limited.resetAllUsage (h : s.Limited id limit) (hpos : 0 < limit) (now : Instant)
    (subscriptionId : Id) :
    (s.resetAllUsage now subscriptionId).2.Limited id limit ∧
      (s.resetAllUsage now subscriptionId).2.items.map (·.id) = s.items.map (·.id) := by
  constructor
  · refine h.of_usage rfl ?_
    intro x hx
    obtain ⟨old, hold, rfl⟩ := List.mem_map.mp hx
    split
    · exact .inr ⟨old, hold, now, 0, rfl, fun _ => Decimal.le_of_lt hpos⟩
    · exact .inl hold
  · simp only [Store.resetAllUsage, List.map_map]
    apply List.map_congr_left
    intro item _
    simp only [Function.comp_apply]
    split <;> rfl

end Store

namespace Usage

open Procedure

variable {id : Id} {limit : Decimal} {ids : List Id} {subscription : Subscription} {slug : String}

/-- What every step of the calls keeps: the limit of the item, and which items there are. -/
def LimitKept (id : Id) (limit : Decimal) (ids : List Id) (s : Store) : Prop :=
  s.Limited id limit ∧ s.items.map (·.id) = ids

theorem enforcedLimit_eq_some {item : SubscriptionItem} {feature : Feature}
    (hpos : 0 < item.limitValue) (hf : feature.isOfType .limit) :
    enforcedLimit item feature = some item.limitValue := by
  simp [enforcedLimit, hpos, hf]

theorem keeps_writeLog {item : SubscriptionItem} {amount : Decimal} {description : String} :
    (writeLog subscription item amount description).Keeps (LimitKept id limit ids)
      fun _ => True := by
  refine (keeps_requestOr (fun _ => True) (fun _ => keeps_log) ?_).bind fun _ _ => trivial
  intro now s reply s' hs ha
  cases ha
  exact ⟨hs, trivial⟩

theorem keeps_warnIfCrossed {item : SubscriptionItem} {feature : Feature}
    {amount newUsage : Decimal} :
    (warnIfCrossed subscription slug item feature amount newUsage).Keeps (LimitKept id limit ids)
      fun _ => True := by
  unfold warnIfCrossed
  split
  · refine (keeps_compute _).bind fun previous _ => (keeps_compute _).bind fun crossed _ => ?_
    split
    · exact keeps_log.bind fun _ _ => keeps_publish
    · trivial
  · trivial

/-- The limit that was read goes into the update, so that it does not matter what the count was
when it was read. -/
theorem keeps_increment (hpos : 0 < limit) {amount : Decimal} :
    (increment subscription slug amount).Keeps (LimitKept id limit ids) fun _ => True := by
  refine (keeps_request (fun found => ∀ item feature, found = some (item, feature) →
    item.id = id → enforcedLimit item feature = some limit) ?_).bind ?_
  · intro now s reply s' hs ha
    cases ha
    refine ⟨hs, ?_⟩
    intro item feature hfound hid
    obtain ⟨hmem, hfeature⟩ := Store.findItem_eq_some hfound
    obtain ⟨hv, _, hl⟩ := hs.1 item hmem hid
    rw [← hv] at hpos ⊢
    exact enforcedLimit_eq_some hpos (hl feature hfeature)
  · intro found hfound
    split
    · rename_i item feature
      refine (keeps_compute _).bind fun exceeds _ => ?_
      split
      · exact keeps_log.bind fun _ _ => trivial
      · refine (keeps_requestOr (fun _ => True) (fun _ => keeps_log) ?_).bind ?_
        · intro now s reply s' hs ha
          have h := hs.1.incrementUsage (hfound item feature rfl) ha
          exact ⟨⟨h.1, h.2.trans hs.2⟩, trivial⟩
        · intro updated _
          split
          · exact keeps_log.bind fun _ _ => trivial
          · exact keeps_warnIfCrossed.bind fun _ _ => keeps_writeLog.bind fun _ _ => trivial
    · exact keeps_log.bind fun _ _ => trivial

theorem keeps_reset (hpos : 0 < limit) :
    (reset subscription slug).Keeps (LimitKept id limit ids) fun _ => True := by
  refine (keeps_request (fun _ => True) ?_).bind ?_
  · intro now s reply s' hs ha
    cases ha
    exact ⟨hs, trivial⟩
  · intro found _
    split
    · refine (keeps_request (fun _ => True) ?_).bind fun _ _ =>
        keeps_writeLog.bind fun _ _ => keeps_log.bind fun _ _ => trivial
      intro now s reply s' hs ha
      have h := hs.1.resetUsage hpos ha
      exact ⟨⟨h.1, h.2.trans hs.2⟩, trivial⟩
    · trivial

theorem keeps_resetAll (hpos : 0 < limit) :
    (resetAll subscription).Keeps (LimitKept id limit ids) fun _ => True := by
  refine (keeps_request (fun _ => True) ?_).bind fun _ _ =>
    keeps_log.bind fun _ _ => trivial
  intro now s reply s' hs ha
  cases ha
  have h := hs.1.resetAllUsage hpos now subscription.id
  exact ⟨⟨h.1, h.2.trans hs.2⟩, trivial⟩

theorem keeps_procedure (hpos : 0 < limit) (call : UsageCall) :
    call.procedure.Keeps (LimitKept id limit ids) fun _ => True := by
  cases call with
  | increment subscription slug amount => exact (keeps_increment hpos).map _
  | reset subscription slug => exact (keeps_reset hpos).map _
  | resetAll subscription => exact (keeps_resetAll hpos).map _

/-- However the steps of any calls on it are interleaved, and whichever requests are refused, an
item of a limited feature is still there and never counts more than its limit. -/
theorem usage_le_limit {store : Store} (hpos : 0 < limit) (hitem : store.Limited id limit)
    (calls : List UsageCall) (moves : List Move) :
    let s := ((UsageCall.pool store calls).run moves).world.store
    s.items.map (·.id) = store.items.map (·.id) ∧
      ∀ item ∈ s.items, item.id = id → item.usage ≤ limit := by
  have h : (UsageCall.pool store calls).Keeps
      (LimitKept id limit (store.items.map (·.id))) := by
    refine ⟨⟨hitem, rfl⟩, ?_⟩
    intro p hp
    obtain ⟨call, _, rfl⟩ := List.mem_map.mp hp
    exact keeps_procedure hpos call
  obtain ⟨hs, hids⟩ := (h.run moves).holds
  exact ⟨hids, fun item hmem hid => (hs item hmem hid).2.1⟩

/-! Two calls for ten more both read ninety of a hundred before either of them updates. -/

def raceFeature : Feature :=
  { slug := "api-calls", name := "API calls", description := none, typeWord := "limit"
    isActive := true, sortOrder := 0, metadata := none, id := .ofNat 1
    createdAt := .first, updatedAt := .first, deletedAt := none }

def raceItem : SubscriptionItem :=
  { subscriptionId := .ofNat 2, featureId := .ofNat 1, value := some "100"
    usage := .whole 90 (by decide), id := .ofNat 3, createdAt := .first, updatedAt := .first }

def raceStore : Store := { features := [raceFeature], items := [raceItem] }

def raceCall : UsageCall :=
  .increment
    { subscriberType := "user", subscriberId := .ofNat 5, packageId := .ofNat 6, status := "active"
      startsAt := .first, endsAt := none, trialEndsAt := none, cancelledAt := none
      cancellationReason := none, autoRenew := true, metadata := none, id := .ofNat 2
      createdAt := .first, updatedAt := .first, deletedAt := none }
    "api-calls" (.whole 10 (by decide))

def raceAmount : Decimal := .whole 10 (by decide)

def raceMoves : List Move := [0, 1, 0, 1, 1].map fun call => ⟨call, { now := .first }⟩

theorem raceStore_limited : raceStore.Limited (.ofNat 3) .hundred := by
  intro item hmem _
  obtain rfl : item = raceItem := by simpa [raceStore] using hmem
  refine ⟨by decide +kernel, by decide +kernel, ?_⟩
  intro feature hfeature
  obtain rfl : raceFeature = feature := by
    simpa [Store.findFeature, raceStore, raceItem, raceFeature, Feature.isLive] using hfeature
  decide +kernel

theorem usage_le_limit_race :
    (0 : Decimal) < .hundred ∧ raceStore.Limited (.ofNat 3) .hundred ∧
      let s := ((UsageCall.pool raceStore [raceCall, raceCall]).run raceMoves).world.store
      s.items.map (·.usage) = [.hundred] ∧
        ∀ item ∈ s.items, item.id = .ofNat 3 → item.usage ≤ .hundred :=
  ⟨by decide, raceStore_limited, by decide +kernel,
    (usage_le_limit (by decide) raceStore_limited [raceCall, raceCall] raceMoves).2⟩

end Usage

end RecurringBilling
