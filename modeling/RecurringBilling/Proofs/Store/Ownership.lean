import RecurringBilling.Proofs.Lifecycle.Creation
import RecurringBilling.Proofs.Store.Keys

/-! Whose rows are whose. The rows of a store are parted into those of others than a subscriber and
the rest, and a change to one part leaves the other as it is. -/

namespace RecurringBilling

theorem SubscriberKind.word_inj {k k' : SubscriberKind} (h : k.word = k'.word) : k = k' := by
  cases k <;> cases k' <;> first | rfl | exact absurd h (by decide)

namespace Subscription

variable {r : Subscription} {a b : Subscriber}

theorem belongsTo_iff : r.belongsTo a = true ↔
    r.subscriberType = a.kind.word ∧ r.subscriberId = a.id := by
  simp [belongsTo]

theorem belongsTo_unique (ha : r.belongsTo a = true) (hb : r.belongsTo b = true) : a = b := by
  obtain ⟨hkind, hid⟩ := belongsTo_iff.mp ha
  obtain ⟨hkind', hid'⟩ := belongsTo_iff.mp hb
  have hword : a.kind = b.kind := SubscriberKind.word_inj (hkind.symm.trans hkind')
  cases a
  cases b
  simp_all

theorem subscriber?_of_belongsTo (h : r.belongsTo a = true) : r.subscriber? = some a := by
  obtain ⟨hkind, hid⟩ := belongsTo_iff.mp h
  have hword : SubscriberKind.ofWord? a.kind.word = some a.kind := by
    cases a.kind <;> rfl
  rw [subscriber?, hkind, hword, hid]
  rfl

end Subscription

/-- Whether a row that is about to be stored is one of the subscriber. -/
def NewSubscription.IsOf (new : NewSubscription) (subscriber : Subscriber) : Prop :=
  new.subscriberType = subscriber.kind.word ∧ new.subscriberId = subscriber.id

namespace Store

/-- Whether somebody else has a subscription of the identifier. -/
def isForeign (s : Store) (subscriber : Subscriber) (id : Id) : Bool :=
  s.subscriptions.any fun r => r.id == id && !r.belongsTo subscriber

/-- The store without the rows of others, given which identifiers are those of others. -/
def without (foreign : Id → Bool) (subscriber : Subscriber) (s : Store) : Store :=
  { s with
    subscriptions := s.subscriptions.filter (·.belongsTo subscriber)
    items := s.items.filter (!foreign ·.subscriptionId)
    usageLogs := s.usageLogs.filter (!foreign ·.subscriptionId)
    invoices := s.invoices.filter (!foreign ·.subscriptionId)
    transactions := [] }

/-- Whether the rows of others are the same as in the store `e`. -/
structure Aside (subscriber : Subscriber) (e s : Store) : Prop where
  subscriptions : s.subscriptions.filter (!·.belongsTo subscriber) =
    e.subscriptions.filter (!·.belongsTo subscriber)
  items : s.items.filter (e.isForeign subscriber ·.subscriptionId) =
    e.items.filter (e.isForeign subscriber ·.subscriptionId)
  usageLogs : s.usageLogs.filter (e.isForeign subscriber ·.subscriptionId) =
    e.usageLogs.filter (e.isForeign subscriber ·.subscriptionId)
  invoices : s.invoices.filter (e.isForeign subscriber ·.subscriptionId) =
    e.invoices.filter (e.isForeign subscriber ·.subscriptionId)

variable {subscriber : Subscriber} {e s s' : Store} {now : Instant} {id : Id} {r : Subscription}
  {item : SubscriptionItem}

theorem isForeign_iff : e.isForeign subscriber id = true ↔
    ∃ r ∈ e.subscriptions, r.id = id ∧ r.belongsTo subscriber = false := by
  simp [isForeign]

theorem Aside.refl (subscriber : Subscriber) (s : Store) : s.Aside subscriber s :=
  ⟨rfl, rfl, rfl, rfl⟩

theorem Aside.mem_iff (h : e.Aside subscriber s) (hr : r.belongsTo subscriber = false) :
    r ∈ s.subscriptions ↔ r ∈ e.subscriptions := by
  have hmem : ∀ rows : List Subscription,
      r ∈ rows.filter (!·.belongsTo subscriber) ↔ r ∈ rows := by
    intro rows
    simp [hr]
  rw [← hmem s.subscriptions, h.subscriptions, hmem]

/-- Rows under an identifier that is nobody else's belong to the subscriber. -/
theorem Aside.belongsTo (h : e.Aside subscriber s) (hr : r ∈ s.subscriptions)
    (hid : e.isForeign subscriber r.id = false) : r.belongsTo subscriber = true := by
  by_contra hnot
  have hnot : r.belongsTo subscriber = false := by simpa using hnot
  have hforeign := isForeign_iff.mpr ⟨r, (h.mem_iff hnot).mp hr, rfl, hnot⟩
  rw [hid] at hforeign
  cases hforeign

/-- As long as identifiers are unique, no row of the subscriber has one of others. -/
theorem Aside.isForeign (h : e.Aside subscriber s) (hunique : s.UniqueIds)
    (hr : r ∈ s.subscriptions) (hbelongs : r.belongsTo subscriber = true) :
    e.isForeign subscriber r.id = false := by
  rw [Bool.eq_false_iff]
  intro hforeign
  obtain ⟨x, hx, hid, hnot⟩ := isForeign_iff.mp hforeign
  have hx := (h.mem_iff hnot).mpr hx
  have hsame : x = r := List.inj_on_of_nodup_map hunique.subscriptions hx hr hid
  rw [hsame, hbelongs] at hnot
  cases hnot

/-- Whether the identifier is one of an item of somebody else. -/
def isForeignItem (s : Store) (subscriber : Subscriber) (id : Id) : Bool :=
  s.items.any fun item => item.id == id && s.isForeign subscriber item.subscriptionId

theorem isForeignItem_iff : e.isForeignItem subscriber id = true ↔
    ∃ item ∈ e.items, item.id = id ∧ e.isForeign subscriber item.subscriptionId = true := by
  simp [isForeignItem]

theorem Aside.item_mem_iff (h : e.Aside subscriber s)
    (hforeign : e.isForeign subscriber item.subscriptionId = true) :
    item ∈ s.items ↔ item ∈ e.items := by
  have hmem : ∀ rows : List SubscriptionItem,
      item ∈ rows.filter (e.isForeign subscriber ·.subscriptionId) ↔ item ∈ rows := by
    intro rows
    simp [hforeign]
  rw [← hmem s.items, h.items, hmem]

theorem Aside.isForeign_of_item (h : e.Aside subscriber s) (hitem : item ∈ s.items)
    (hid : e.isForeignItem subscriber item.id = false) :
    e.isForeign subscriber item.subscriptionId = false := by
  rw [Bool.eq_false_iff]
  intro hforeign
  have hitem := isForeignItem_iff.mpr ⟨item, (h.item_mem_iff hforeign).mp hitem, rfl, hforeign⟩
  rw [hid] at hitem
  cases hitem

theorem Aside.isForeignItem (h : e.Aside subscriber s) (hunique : s.UniqueIds)
    (hitem : item ∈ s.items) (hown : e.isForeign subscriber item.subscriptionId = false) :
    e.isForeignItem subscriber item.id = false := by
  rw [Bool.eq_false_iff]
  intro hforeign
  obtain ⟨x, hx, hid, hother⟩ := isForeignItem_iff.mp hforeign
  have hx := (h.item_mem_iff hother).mpr hx
  have hsame : x = item := List.inj_on_of_nodup_map hunique.items hx hitem hid
  rw [hsame, hown] at hother
  cases hother

/-- Whether a subscriber has a subscription of the identifier. -/
def owns (s : Store) (subscriber : Subscriber) (id : Id) : Bool :=
  s.subscriptions.any fun r => r.id == id && r.belongsTo subscriber

/-- What a subscriber sees of the store: features and packages, own subscriptions, and the items,
the log and the invoices of these. -/
def seenBy (subscriber : Subscriber) (s : Store) : Store :=
  { s with
    subscriptions := s.subscriptions.filter (·.belongsTo subscriber)
    items := s.items.filter (s.owns subscriber ·.subscriptionId)
    usageLogs := s.usageLogs.filter (s.owns subscriber ·.subscriptionId)
    invoices := s.invoices.filter (s.owns subscriber ·.subscriptionId)
    transactions := [] }

/-- Whether all rows of a subscriber are as they were, and there are no others. -/
structure Untouched (subscriber : Subscriber) (s s' : Store) : Prop where
  subscriptions : (s'.seenBy subscriber).subscriptions = (s.seenBy subscriber).subscriptions
  items : (s'.seenBy subscriber).items = (s.seenBy subscriber).items
  usageLogs : (s'.seenBy subscriber).usageLogs = (s.seenBy subscriber).usageLogs
  invoices : (s'.seenBy subscriber).invoices = (s.seenBy subscriber).invoices

theorem Aside.untouched {other : Subscriber} (h : e.Aside subscriber s)
    (hother : other ≠ subscriber) :
    e.Untouched other s := by
  have hnot : ∀ r : Subscription, r.belongsTo other = true → (!r.belongsTo subscriber) = true := by
    intro r hr
    by_contra hboth
    have hboth : r.belongsTo subscriber = true := by simpa using hboth
    exact hother (Subscription.belongsTo_unique hr hboth)
  have hrows : s.subscriptions.filter (·.belongsTo other) =
      e.subscriptions.filter (·.belongsTo other) := by
    have hkept : ∀ rows : List Subscription,
        (rows.filter (!·.belongsTo subscriber)).filter (·.belongsTo other) =
          rows.filter (·.belongsTo other) := fun rows => filter_filter_of_imp fun r _ => hnot r
    rw [← hkept s.subscriptions, h.subscriptions, hkept]
  have howns : s.owns other = e.owns other := by
    have hrows' : ∀ (s : Store) (id : Id), s.owns other id =
        (s.subscriptions.filter (·.belongsTo other)).any (·.id == id) := by
      intro s id
      rw [owns, List.any_filter]
      refine congrArg (s.subscriptions.any ·) (funext fun r => Bool.and_comm _ _)
    funext id
    rw [hrows', hrows', hrows]
  have hforeign : ∀ id, e.owns other id = true → e.isForeign subscriber id = true := by
    intro id hid
    obtain ⟨r, hr, hr'⟩ := List.any_eq_true.mp hid
    rw [Bool.and_eq_true] at hr'
    exact List.any_eq_true.mpr ⟨r, hr, by rw [hr'.1, hnot r hr'.2]; rfl⟩
  have hpart : ∀ {α : Type} (key : α → Id) {rows rows' : List α},
      rows.filter (e.isForeign subscriber <| key ·) =
          rows'.filter (e.isForeign subscriber <| key ·) →
      rows.filter (s.owns other <| key ·) = rows'.filter (e.owns other <| key ·) := by
    intro α key rows rows' hrows
    have hkept : ∀ rows : List α,
        (rows.filter (e.isForeign subscriber <| key ·)).filter (e.owns other <| key ·) =
          rows.filter (e.owns other <| key ·) :=
      fun rows => filter_filter_of_imp fun x _ => hforeign (key x)
    rw [howns, ← hkept rows, hrows, hkept]
  exact ⟨hrows, hpart _ h.items, hpart _ h.usageLogs, hpart _ h.invoices⟩

theorem without_eq_seenBy (hlinked : s.Linked) (hunique : s.UniqueIds) (subscriber : Subscriber) :
    s.without (s.isForeign subscriber) subscriber = s.seenBy subscriber := by
  have howns : ∀ id, (∃ r ∈ s.subscriptions, r.id = id) →
      (!s.isForeign subscriber id) = s.owns subscriber id := by
    rintro _ ⟨r, hr, rfl⟩
    cases hbelongs : r.belongsTo subscriber with
    | true =>
      have hown : s.owns subscriber r.id = true :=
        List.any_eq_true.mpr ⟨r, hr, by simp [hbelongs]⟩
      rw [(Aside.refl subscriber s).isForeign hunique hr hbelongs, hown]
      rfl
    | false =>
      have hforeign : s.isForeign subscriber r.id = true :=
        isForeign_iff.mpr ⟨r, hr, rfl, hbelongs⟩
      rw [hforeign, Bool.not_true, eq_comm, Bool.eq_false_iff]
      intro hown
      obtain ⟨x, hx, hx'⟩ := List.any_eq_true.mp hown
      rw [Bool.and_eq_true, beq_iff_eq] at hx'
      have hsame : x = r := List.inj_on_of_nodup_map hunique.subscriptions hx hr hx'.1
      rw [hsame, hbelongs] at hx'
      cases hx'.2
  have hitems := List.filter_congr fun item hitem => howns _ (hlinked.items item hitem)
  have hlogs := List.filter_congr fun entry hentry => howns _ (hlinked.usageLogs entry hentry)
  have hinvoices := List.filter_congr fun invoice hinvoice =>
    howns _ (hlinked.invoices invoice hinvoice)
  rw [without, seenBy, hitems, hlogs, hinvoices]

section

variable {changes : SubscriptionChanges} (h : e.Aside subscriber s)
  (hid : e.isForeign subscriber id = false)

include h hid

theorem Aside.belongsTo_of_id : ∀ x ∈ s.subscriptions, (x.id == id) = true →
    x.belongsTo subscriber = true := by
  intro x hx hx'
  obtain rfl : x.id = id := by simpa using hx'
  exact h.belongsTo hx hid

theorem Aside.update {row : Subscription}
    (hu : s.updateSubscription id changes = .ok (row, s')) : e.Aside subscriber s' := by
  obtain ⟨rows, hm, rfl⟩ := updated_eq_ok hu
  refine ⟨?_, h.items, h.usageLogs, h.invoices⟩
  rw [← h.subscriptions]
  refine filter_modifyFirst? hm (fun x hx hx' => ?_) fun _ => rfl
  rw [h.belongsTo_of_id hid x hx hx']
  rfl

theorem Aside.update_without :
    (s.without (e.isForeign subscriber) subscriber).updateSubscription id changes =
      (s.updateSubscription id changes).map fun x =>
        (x.1, x.2.without (e.isForeign subscriber) subscriber) := by
  have hfilter := modifyFirst?_filter (f := changes.apply) (h.belongsTo_of_id hid) fun _ => rfl
  unfold updateSubscription
  rw [without, hfilter]
  cases modifyFirst? (·.id == id) changes.apply s.subscriptions <;> rfl

end

section

variable {new : NewSubscription} {seeds : List ItemSeed}

theorem Aside.isForeign_new (h : e.Aside subscriber s) {row : Subscription}
    (hadds : s.Adds new seeds row s') (hunique : s'.UniqueIds) :
    e.isForeign subscriber row.id = false := by
  rw [Bool.eq_false_iff]
  intro hforeign
  obtain ⟨x, hx, hid, hnot⟩ := isForeign_iff.mp hforeign
  have hids := hunique.subscriptions
  rw [hadds.subscriptions, List.map_append, List.nodup_append] at hids
  exact hids.2.2 x.id (List.mem_map_of_mem ((h.mem_iff hnot).mpr hx)) row.id (by simp) hid

theorem Aside.add (h : e.Aside subscriber s) {row : Subscription}
    (hadds : s.Adds new seeds row s') (hnew : new.IsOf subscriber)
    (hrow : e.isForeign subscriber row.id = false) : e.Aside subscriber s' := by
  have hbelongs : row.belongsTo subscriber = true := by
    rw [Subscription.belongsTo_iff, hadds.content]
    exact hnew
  obtain ⟨added, hitems, hadded⟩ := hadds.items
  have hown : added.filter (e.isForeign subscriber ·.subscriptionId) = [] := by
    rw [List.filter_eq_nil_iff]
    intro item hitem
    have hmem := List.mem_map_of_mem (f := (·.toNewSubscriptionItem)) hitem
    rw [hadded] at hmem
    obtain ⟨seed, _, hseed⟩ := List.mem_map.mp hmem
    have hid : item.subscriptionId = row.id := by rw [← hseed]; rfl
    simp [hid, hrow]
  refine ⟨?_, ?_, ?_, ?_⟩
  · rw [hadds.subscriptions, List.filter_append, h.subscriptions]
    simp [hbelongs]
  · rw [hitems, List.filter_append, h.items, hown, List.append_nil]
  · rw [congrArg Store.usageLogs hadds.others]
    exact h.usageLogs
  · rw [congrArg Store.invoices hadds.others]
    exact h.invoices

theorem without_createItem (foreign : Id → Bool) (now : Instant) (row : NewSubscriptionItem)
    (hrow : foreign row.subscriptionId = false) (s : Store) :
    (createItem now s row).without foreign subscriber =
      createItem now (s.without foreign subscriber) row := by
  simp [createItem, without, hrow, freshId]

theorem without_foldl_createItem (foreign : Id → Bool) (now : Instant)
    (rows : List NewSubscriptionItem) (hrows : ∀ row ∈ rows, foreign row.subscriptionId = false)
    (s : Store) :
    (rows.foldl (createItem now) s).without foreign subscriber =
      rows.foldl (createItem now) (s.without foreign subscriber) := by
  induction rows generalizing s with
  | nil => rfl
  | cons row rest ih =>
    obtain ⟨hrow, hrest⟩ := List.forall_mem_cons.mp hrows
    rw [List.foldl_cons, List.foldl_cons, ih hrest, without_createItem foreign now row hrow]

theorem createSubscription_without {foreign : Id → Bool} (hnew : new.IsOf subscriber)
    (hfresh : foreign s.freshId = false) (now : Instant) (seeds : List ItemSeed) :
    (s.without foreign subscriber).createSubscription now new seeds =
      ((s.createSubscription now new seeds).1,
        (s.createSubscription now new seeds).2.without foreign subscriber) := by
  refine Prod.ext rfl ?_
  have hbelongs : (s.createSubscription now new seeds).1.belongsTo subscriber = true :=
    Subscription.belongsTo_iff.mpr hnew
  have hseeds : ∀ row ∈ seeds.map (·.forSubscription s.freshId),
      foreign row.subscriptionId = false := by
    intro row hrow
    obtain ⟨seed, _, rfl⟩ := List.mem_map.mp hrow
    exact hfresh
  refine Eq.trans ?_ (without_foldl_createItem foreign now _ hseeds _).symm
  have hkept : (s.subscriptions ++ [(s.createSubscription now new seeds).1]).filter
      (·.belongsTo subscriber) = s.subscriptions.filter (·.belongsTo subscriber) ++
        [(s.createSubscription now new seeds).1] := by simp [hbelongs]
  refine congrArg (fun s' => List.foldl (createItem now) s' _) ?_
  exact congrArg (fun rows => { s.without foreign subscriber with
    subscriptions := rows, created := s.created + 1 }) hkept.symm

end

section

variable {limit reply : Option Decimal} {amount : Decimal} (h : e.Aside subscriber s)
  (hid : e.isForeignItem subscriber id = false)

include h hid

theorem Aside.isForeign_of_item_id : ∀ x ∈ s.items, (x.id == id) = true →
    e.isForeign subscriber x.subscriptionId = false := by
  intro x hx hx'
  obtain rfl : x.id = id := by simpa using hx'
  exact h.isForeign_of_item hx hid

theorem Aside.increment (hi : s.incrementUsage now id amount limit = .ok (reply, s')) :
    e.Aside subscriber s' := by
  cases reply with
  | none =>
    rw [incrementUsage_eq_none hi]
    exact h
  | some new =>
    obtain ⟨_, _, rows, _, _, hm, rfl⟩ := incrementUsage_eq_some hi
    refine ⟨h.subscriptions, ?_, h.usageLogs, h.invoices⟩
    rw [← h.items]
    exact filter_modifyFirst? hm (h.isForeign_of_item_id hid) fun _ => rfl

theorem Aside.increment_without :
    (s.without (e.isForeign subscriber) subscriber).incrementUsage now id amount limit =
      (s.incrementUsage now id amount limit).map fun x =>
        (x.1, x.2.without (e.isForeign subscriber) subscriber) := by
  have hown : ∀ x ∈ s.items, (x.id == id) = true →
      (!e.isForeign subscriber x.subscriptionId) = true := by
    intro x hx hx'
    rw [h.isForeign_of_item_id hid x hx hx']
    rfl
  have hfilter : ∀ usage, modifyFirst? (·.id == id) (setUsage now usage)
      (s.items.filter (!e.isForeign subscriber ·.subscriptionId)) = _ :=
    fun usage => modifyFirst?_filter hown fun _ => rfl
  simp only [incrementUsage, without, find?_filter_of_imp hown, hfilter]
  cases s.items.find? (·.id == id) with
  | none => rfl
  | some item =>
    dsimp only
    cases item.usage.add amount with
    | error fault => rfl
    | ok usage =>
      dsimp only
      split
      · rfl
      · cases modifyFirst? (·.id == id) (setUsage now usage) s.items <;> rfl

end

/-! What is read of the rows of the subscriber is read without those of others as well. -/

section

variable {foreign : Id → Bool}

theorem filter_liveSubscriptions_without {p : Subscription → Bool}
    (hp : ∀ r, p r = true → r.belongsTo subscriber = true) :
    (s.without foreign subscriber).liveSubscriptions.filter p = s.liveSubscriptions.filter p := by
  have hlive : (s.without foreign subscriber).liveSubscriptions =
      s.liveSubscriptions.filter (·.belongsTo subscriber) := List.filter_comm ..
  rw [hlive, filter_filter_of_imp fun r _ => hp r]

theorem filter_validSubscriptions_without :
    (s.without foreign subscriber).validSubscriptions.filter (·.belongsTo subscriber) =
      s.validSubscriptions.filter (·.belongsTo subscriber) := by
  rw [validSubscriptions, validSubscriptions, List.filter_filter, List.filter_filter]
  exact filter_liveSubscriptions_without fun r hr => (Bool.and_eq_true_iff.mp hr).1

theorem findValidSubscription_without :
    (s.without foreign subscriber).findValidSubscription subscriber =
      s.findValidSubscription subscriber := by
  rw [findValidSubscription, filter_validSubscriptions_without, findValidSubscription]

theorem hasValidSubscription_without (slug : Option String) :
    (s.without foreign subscriber).hasValidSubscription subscriber slug =
      s.hasValidSubscription subscriber slug := by
  rw [hasValidSubscription, filter_validSubscriptions_without]
  rfl

theorem findResumable_without (now : Instant) :
    (s.without foreign subscriber).findResumable subscriber now =
      s.findResumable subscriber now := by
  have hbelongs : ∀ r : Subscription, (r.belongsTo subscriber && isTextOf .cancelled r.status &&
      r.endsAt.any (now < ·)) = true → r.belongsTo subscriber = true := by
    intro r hr
    rw [Bool.and_assoc] at hr
    exact (Bool.and_eq_true_iff.mp hr).1
  rw [findResumable, filter_liveSubscriptions_without hbelongs, findResumable]

theorem subscriptionsOf_without :
    (s.without foreign subscriber).subscriptionsOf subscriber = s.subscriptionsOf subscriber := by
  rw [subscriptionsOf, filter_liveSubscriptions_without fun _ hr => hr, subscriptionsOf]

theorem findItem_without (hid : foreign id = false) (slug : String) :
    (s.without foreign subscriber).findItem id slug = s.findItem id slug := by
  have hitems : (s.without foreign subscriber).items.filter (·.subscriptionId == id) =
      s.items.filter (·.subscriptionId == id) := by
    refine filter_filter_of_imp fun item _ hitem => ?_
    rw [beq_iff_eq.mp hitem, hid]
    rfl
  rw [findItem, itemsWithFeatures, hitems]
  rfl

theorem logsSince_without (hid : foreign id = false) (featureId : Id) (since : Instant) :
    (s.without foreign subscriber).logsSince id featureId since = s.logsSince id featureId since := by
  rw [logsSince, logsSince]
  refine congrArg (sortedBy _) (filter_filter_of_imp fun l _ hl => ?_)
  simp only [Bool.and_eq_true, beq_iff_eq] at hl
  rw [hl.1.1, hid]
  rfl

theorem invoicesOf_without {ids : List Id} (hids : ∀ id ∈ ids, foreign id = false) :
    (s.without foreign subscriber).invoicesOf ids = s.invoicesOf ids := by
  have hlive : (s.without foreign subscriber).liveInvoices =
      s.liveInvoices.filter (!foreign ·.subscriptionId) := List.filter_comm ..
  rw [invoicesOf, invoicesOf, hlive]
  refine congrArg (sortedBy _) (filter_filter_of_imp fun i _ hi => ?_)
  rw [hids _ (List.contains_iff_mem.mp hi)]
  rfl

theorem createUsageLog_without {row : NewUsageLog} (hrow : foreign row.subscriptionId = false) :
    (s.without foreign subscriber).createUsageLog now row =
      ((s.createUsageLog now row).1,
        (s.createUsageLog now row).2.without foreign subscriber) := by
  simp [createUsageLog, without, hrow, freshId]

end

end Store

end RecurringBilling
