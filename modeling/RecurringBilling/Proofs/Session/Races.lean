import Mathlib.Data.Bool.Count
import Mathlib.Data.Multiset.MapFold
import RecurringBilling.Proofs.Lifecycle.Entitlements
import RecurringBilling.Proofs.Lifecycle.Lookups
import RecurringBilling.Proofs.Session.Steps
import RecurringBilling.Proofs.Store.Ownership

/-! When two requests at the same time come out as one after the other. A request writes to the row
that it has found, whatever has become of it since; so requests that find the same row are not told
apart from requests that find different ones. -/

namespace RecurringBilling

def Subscription.timeless (r : Subscription) : Subscription :=
  { r with
    startsAt := .first, endsAt := none, trialEndsAt := none, cancelledAt := none
    createdAt := .first, updatedAt := .first }

def SubscriptionItem.timeless (item : SubscriptionItem) : SubscriptionItem :=
  { item with createdAt := .first, updatedAt := .first }

/-- A subscription with its items, without their times; an identifier tells nothing but which of the
rows that were there before it is. -/
structure Holding where
  id? : Option Id
  row : Subscription
  items : Multiset (Option Id × SubscriptionItem)

namespace Store

def known? (ids : List Id) (id : Id) : Option Id := if id ∈ ids then some id else none

def heldItem (old : Store) (item : SubscriptionItem) : Option Id × SubscriptionItem :=
  (known? (old.items.map (·.id)) item.id,
    { item.timeless with id := default, subscriptionId := default })

def holding (old s : Store) (r : Subscription) : Holding :=
  { id? := known? (old.subscriptions.map (·.id)) r.id
    row := { r.timeless with id := default }
    items := (s.itemsOf r.id).map old.heldItem }

/-- What the store holds that neither the clock nor the numbering of new rows decides. -/
def contents (old s : Store) : Multiset Holding := s.subscriptions.map (old.holding s)

/-- The same rows in the same places but for their times, and the same catalog. -/
structure Alike (s s' : Store) : Prop where
  subscriptions : s.subscriptions.map (·.timeless) = s'.subscriptions.map (·.timeless)
  items : s.items.map (·.timeless) = s'.items.map (·.timeless)
  created : s.created = s'.created
  grants : s.grants = s'.grants
  features : s.features = s'.features

variable {s s' s'' : Store} {id : Id} {t t' : Instant}

theorem Alike.refl (s : Store) : s.Alike s := ⟨rfl, rfl, rfl, rfl, rfl⟩

theorem Alike.symm (h : s.Alike s') : s'.Alike s :=
  ⟨h.subscriptions.symm, h.items.symm, h.created.symm, h.grants.symm, h.features.symm⟩

theorem Alike.trans (h : s.Alike s') (h' : s'.Alike s'') : s.Alike s'' :=
  ⟨h.subscriptions.trans h'.subscriptions, h.items.trans h'.items, h.created.trans h'.created,
    h.grants.trans h'.grants, h.features.trans h'.features⟩

theorem Alike.itemsOf (h : s.Alike s') (id : Id) :
    (s.itemsOf id).map (·.timeless) = (s'.itemsOf id).map (·.timeless) := by
  have hfilter : ∀ s : Store, (s.itemsOf id).map (·.timeless) =
      (s.items.map (·.timeless)).filter (·.subscriptionId == id) := by
    intro s
    rw [Store.itemsOf, List.filter_map]
    rfl
  rw [hfilter, hfilter, h.items]

theorem Alike.holding (h : s.Alike s') (old : Store) {r r' : Subscription}
    (hr : r.timeless = r'.timeless) : old.holding s r = old.holding s' r' := by
  have hid : r.id = r'.id := congrArg (·.id) hr
  have hitems : ∀ s : Store, (s.itemsOf r.id).map old.heldItem =
      ((s.itemsOf r.id).map (·.timeless)).map old.heldItem := by
    intro s
    rw [List.map_map]
    rfl
  rw [Store.holding, Store.holding, hr, ← hid, hitems, h.itemsOf, ← hitems]

theorem Alike.contents (h : s.Alike s') (old : Store) : old.contents s = old.contents s' := by
  have hrows : ∀ {rows rows' : List Subscription},
      rows.map (·.timeless) = rows'.map (·.timeless) →
        rows.map (old.holding s) = rows'.map (old.holding s') := by
    intro rows
    induction rows with
    | nil =>
      intro rows' hsame
      obtain rfl : rows' = [] := List.map_eq_nil_iff.mp hsame.symm
      rfl
    | cons r rest ih =>
      intro rows' hsame
      cases rows' with
      | nil => simp at hsame
      | cons r' rest' =>
        obtain ⟨hr, hrest⟩ := List.cons.inj hsame
        rw [List.map_cons, List.map_cons, h.holding old hr, ih hrest]
  exact congrArg Multiset.ofList (hrows h.subscriptions)

/-- Whether two updates are the same but for their times. -/
def SameButTimes (changes changes' : SubscriptionChanges) : Prop :=
  ∀ r r' : Subscription, r.timeless = r'.timeless →
    (changes.apply r).timeless = (changes'.apply r').timeless

theorem Alike.amend {changes changes' : SubscriptionChanges} (h : s.Alike s')
    (hchanges : SameButTimes changes changes') (id : Id) :
    (s.amend id changes).Alike (s'.amend id changes') := by
  have hids : ∀ r r' : Subscription, r.timeless = r'.timeless → (r.id == id) = (r'.id == id) := by
    intro r r' hsame
    have hid : r.id = r'.id := congrArg (·.id) hsame
    rw [hid]
  exact ⟨map_amendFirst_congr hids hchanges h.subscriptions, h.items, h.created, h.grants,
    h.features⟩

theorem Alike.addItem (h : s.Alike s') (t t' : Instant) (row : NewSubscriptionItem) :
    (createItem t s row).Alike (createItem t' s' row) := by
  have hid : s.freshId = s'.freshId := by rw [freshId, freshId, h.created]
  have hitems : (createItem t s row).items.map (·.timeless) =
      (createItem t' s' row).items.map (·.timeless) := by
    rw [createItem, createItem, List.map_append, List.map_append, h.items, hid]
    rfl
  exact ⟨h.subscriptions, hitems, congrArg (· + 1) h.created, h.grants, h.features⟩

theorem Alike.addItems (h : s.Alike s') (t t' : Instant) (rows : List NewSubscriptionItem) :
    (rows.foldl (createItem t) s).Alike (rows.foldl (createItem t') s') := by
  induction rows generalizing s s' with
  | nil => exact h
  | cons row rest ih => exact ih (h.addItem t t' row)

/-- A new subscription with its items comes behind the others. -/
theorem Alike.add (h : s.Alike s') (t t' : Instant) (owner : Subscriber) (package : Package)
    (seeds : List ItemSeed) :
    (s.createSubscription t (Subscribing.newSubscription owner package false t) seeds).2.Alike
      (s'.createSubscription t' (Subscribing.newSubscription owner package false t') seeds).2 := by
  have hid : s.freshId = s'.freshId := by rw [freshId, freshId, h.created]
  let row (t : Instant) : Subscription :=
    { Subscribing.newSubscription owner package false t with
      id := s.freshId, createdAt := t, updatedAt := t, deletedAt := none }
  have hrows : Alike
      { s with subscriptions := s.subscriptions ++ [row t], created := s.created + 1 }
      { s' with subscriptions := s'.subscriptions ++ [row t'], created := s'.created + 1 } := by
    refine ⟨?_, h.items, congrArg (· + 1) h.created, h.grants, h.features⟩
    rw [List.map_append, List.map_append, h.subscriptions]
    rfl
  rw [createSubscription, createSubscription, ← hid]
  exact hrows.addItems t t' _

theorem after_switchPlan {changes : SubscriptionChanges} {row : NewSubscription}
    {seeds : List ItemSeed} (hid : ∃ r ∈ s.subscriptions, r.id = id) :
    s.after (s.switchPlan t id changes row seeds) =
      ((s.amend id changes).createSubscription t row seeds).2 := by
  cases hu : s.updateSubscription id changes with
  | ok result =>
    have hstore := s.after_updateSubscription id changes
    rw [hu] at hstore
    have hbetween : result.2 = s.amend id changes := hstore
    rw [switchPlan, hu, ← hbetween]
    rfl
  | error refusal =>
    obtain ⟨r, hr, hsame⟩ := hid
    have hfound : s.subscriptions.find? (·.id == id) ≠ none := by
      simpa using ⟨r, hr, hsame⟩
    obtain ⟨old, hold⟩ := Option.ne_none_iff_exists'.mp hfound
    obtain ⟨rows, hm⟩ := modifyFirst?_of_find? hold changes.apply
    simp [updateSubscription, updated, hm] at hu

theorem seeds_congr (hgrants : s.grants = s'.grants) (hfeatures : s.features = s'.features)
    (package : Package) : s.seeds package = s'.seeds package := by
  have hfound : s.grantedFeature? = s'.grantedFeature? := by
    funext g
    rw [grantedFeature?, grantedFeature?, findFeature, findFeature, hfeatures]
  rw [seeds, seeds, grantedFeatures, grantedFeatures, hgrants, hfound]

theorem ids_amend (s : Store) (id : Id) (changes : SubscriptionChanges) :
    (s.amend id changes).subscriptions.map (·.id) = s.subscriptions.map (·.id) :=
  map_amendFirst (f := changes.apply) (·.id) (fun _ => rfl) _

theorem amend_comm {id' : Id} {changes changes' : SubscriptionChanges} (h : id ≠ id') (s : Store) :
    (s.amend id changes).amend id' changes' = (s.amend id' changes').amend id changes := by
  have hids : ∀ x : Subscription, (x.id == id') = true → (x.id == id) = false := by
    intro x hx
    rw [eq_of_beq hx]
    simpa using Ne.symm h
  have hrows : amendFirst (·.id == id') changes'.apply
      (amendFirst (·.id == id) changes.apply s.subscriptions) =
      amendFirst (·.id == id) changes.apply
        (amendFirst (·.id == id') changes'.apply s.subscriptions) :=
    amendFirst_comm (f := changes'.apply) (g := changes.apply) hids (fun _ => rfl) (fun _ => rfl) _
  exact congrArg (fun rows => { s with subscriptions := rows }) hrows

theorem amend_addItems (changes : SubscriptionChanges) (rows : List NewSubscriptionItem)
    (s : Store) :
    (rows.foldl (createItem t) s).amend id changes =
      rows.foldl (createItem t) (s.amend id changes) := by
  induction rows generalizing s with
  | nil => rfl
  | cons row rest ih => exact ih _

/-- What is added behind is not in the way of a change to a row that is there. -/
theorem amend_add {changes : SubscriptionChanges} {row : NewSubscription} {seeds : List ItemSeed}
    (hid : ∃ r ∈ s.subscriptions, r.id = id) :
    (s.createSubscription t row seeds).2.amend id changes =
      ((s.amend id changes).createSubscription t row seeds).2 := by
  have hfound : ∃ r ∈ s.subscriptions, (r.id == id) = true := by simpa using hid
  rw [createSubscription, createSubscription, amend_addItems]
  simp only [amend, amendFirst_append _ hfound, freshId]

end Store

namespace ChangeRequest

variable {c d : ChangeRequest} {s s' : Store} {r : Subscription} {subscriber : Subscriber}
  {t t' : Instant}

/-- Whether the request ends a subscription on the spot. -/
def EndsAtOnce : ChangeRequest → Bool
  | cancel immediate _ => immediate
  | resume => false
  | switchPlan _ => true

/-- What a request that is not to resume does to the subscription that it has found. -/
def ending (c : ChangeRequest) (t : Instant) : SubscriptionChanges :=
  match c with
  | cancel immediate reason => Subscribing.cancellation t immediate reason
  | _ => Subscribing.cancellation t true (some Subscribing.planSwitchReason)

/-- What it puts in the place of that. -/
def replace (c : ChangeRequest) (t : Instant) (owner : Subscriber) (s : Store) : Store :=
  match c with
  | switchPlan package =>
    (s.createSubscription t (Subscribing.newSubscription owner package false t)
      (s.seeds package)).2
  | _ => s

theorem write_resume (t : Instant) (r : Subscription) (s : Store) :
    resume.write t r s =
      if r.isResumableAt t then s.amend r.id (Subscribing.resumption t) else s := by
  rw [write, Store.after_updateSubscription]

theorem write_cancel (immediate : Bool) (reason : Option String) (t : Instant) (r : Subscription)
    (s : Store) : (cancel immediate reason).write t r s =
      s.amend r.id (Subscribing.cancellation t immediate reason) := s.after_updateSubscription ..

theorem write_of_ne_resume (hc : c ≠ .resume) {owner : Subscriber}
    (howner : r.subscriber? = some owner) (hr : ∃ x ∈ s.subscriptions, x.id = r.id) :
    c.write t r s = c.replace t owner (s.amend r.id (c.ending t)) := by
  cases c with
  | cancel immediate reason => exact write_cancel ..
  | resume => exact absurd rfl hc
  | switchPlan package =>
    simp only [write, howner]
    exact Store.after_switchPlan hr

theorem sameButTimes_ending (c : ChangeRequest) (t t' : Instant) :
    Store.SameButTimes (c.ending t) (c.ending t') := by
  have htimeless : ∀ t r, ((c.ending t).apply r).timeless =
      ((c.ending .first).apply r.timeless).timeless := by
    intro t r
    cases c <;> rfl
  intro r r' hsame
  exact ((htimeless t r).trans (by rw [hsame])).trans (htimeless t' r').symm

theorem sameButTimes_resumption (t : Instant) :
    Store.SameButTimes (Subscribing.resumption t) (Subscribing.resumption t) := by
  have htimeless : ∀ r : Subscription, ((Subscribing.resumption t).apply r).timeless =
      ((Subscribing.resumption t).apply r.timeless).timeless := fun _ => rfl
  intro r r' hsame
  exact ((htimeless r).trans (by rw [hsame])).trans (htimeless r').symm

theorem alike_replace (h : s.Alike s') (c : ChangeRequest) (t t' : Instant) (owner : Subscriber) :
    (c.replace t owner s).Alike (c.replace t' owner s') := by
  cases c with
  | switchPlan package =>
    have hseeds := Store.seeds_congr h.grants h.features package
    simp only [replace, hseeds]
    exact h.add t t' owner package _
  | _ => exact h

theorem amend_replace {id : Id} {changes : SubscriptionChanges}
    (hid : ∃ r ∈ s.subscriptions, r.id = id) (owner : Subscriber) :
    (c.replace t owner s).amend id changes = c.replace t owner (s.amend id changes) := by
  cases c with
  | switchPlan package => exact Store.amend_add hid
  | _ => rfl

/-- The subscription that comes in the place of the one that was found. -/
def replacement (c : ChangeRequest) (t : Instant) (owner : Subscriber) (s : Store) :
    List Subscription :=
  match c with
  | switchPlan package =>
    [(s.createSubscription t (Subscribing.newSubscription owner package false t)
      (s.seeds package)).1]
  | _ => []

theorem subscriptions_replace (c : ChangeRequest) (t : Instant) (owner : Subscriber) (s : Store) :
    (c.replace t owner s).subscriptions = s.subscriptions ++ c.replacement t owner s := by
  cases c with
  | switchPlan package => exact Store.subscriptions_createSubscription ..
  | _ => exact (List.append_nil _).symm

theorem of_mem_replacement {owner : Subscriber} (h : r ∈ c.replacement t owner s) :
    r.status = SubscriptionStatus.active.word ∧ r.isLive = true ∧ r.belongsTo owner = true ∧
      r.id = s.freshId := by
  cases c with
  | switchPlan package =>
    obtain rfl := List.mem_singleton.mp h
    exact ⟨rfl, rfl, Subscription.belongsTo_iff.mpr ⟨rfl, rfl⟩, rfl⟩
  | _ => cases h

theorem write_found {V : Subscription} (hV : s.findValidSubscription subscriber = some V)
    (hd : d ≠ .resume) (t : Instant) :
    d.write t V s = d.replace t subscriber (s.amend V.id (d.ending t)) := by
  obtain ⟨⟨hVmem, _, hVowner⟩, _⟩ := Store.findValidSubscription_eq_some hV
  exact write_of_ne_resume hd (Subscription.subscriber?_of_belongsTo hVowner) ⟨V, hVmem, rfl⟩

theorem alike_ended {V : Subscription} (hV : s.findValidSubscription subscriber = some V)
    (hd : d.EndsAtOnce = true) (t t' τ' : Instant) (R : Subscription) :
    (resume.write τ' R (d.write t V s)).Alike (resume.write τ' R (d.write t' V s)) := by
  have hne : d ≠ .resume := by
    rintro rfl
    cases hd
  have hwritten : (d.write t V s).Alike (d.write t' V s) := by
    rw [write_found hV hne, write_found hV hne]
    exact alike_replace ((Store.Alike.refl s).amend (d.sameButTimes_ending t t') V.id) d t t' _
  rw [write_resume, write_resume]
  split
  · exact hwritten.amend (sameButTimes_resumption τ') R.id
  · exact hwritten

section

variable {V R : Subscription} {τ τ' : Instant} (hids : (s.subscriptions.map (·.id)).Nodup)
  (hV : s.findValidSubscription subscriber = some V)

include hids hV

/-- What has been ended at an instant is not to be resumed then. -/
theorem findResumable_ended (hd : d.EndsAtOnce = true) (owner : Subscriber) :
    (d.replace τ owner (s.amend V.id (d.ending τ))).findResumable subscriber τ =
      s.findResumable subscriber τ := by
  obtain ⟨⟨hVmem, _, _⟩, hopen⟩ := Store.findValidSubscription_eq_some hV
  have hends : ∀ r : Subscription, ((d.ending τ).apply r).endsAt = some τ := by
    intro r
    cases d with
    | cancel immediate reason =>
      obtain rfl : immediate = true := hd
      rfl
    | resume => cases hd
    | switchPlan package => rfl
  have hnow : ¬ τ < τ := fun h => (Instant.lt_iff_le_and_ne.mp h).2 rfl
  have hold : ∀ x ∈ s.subscriptions, (x.id == V.id) = true →
      Store.isTextOf .cancelled x.status = false := by
    intro x hx hid
    obtain rfl : x = V := List.inj_on_of_nodup_map hids hx hVmem (eq_of_beq hid)
    rw [Bool.eq_false_iff, ne_eq, Subscription.isTextOf_cancelled_iff]
    rcases hopen with h | h <;> simp [h]
  have hnew : ∀ x ∈ d.replacement τ owner (s.amend V.id (d.ending τ)),
      Store.isTextOf .cancelled x.status = false := by
    intro x hx
    rw [(of_mem_replacement hx).1]
    decide
  have hrows : (d.replace τ owner (s.amend V.id (d.ending τ))).liveSubscriptions.filter (fun r =>
      r.belongsTo subscriber && Store.isTextOf .cancelled r.status && r.endsAt.any (τ < ·)) =
      s.liveSubscriptions.filter fun r =>
        r.belongsTo subscriber && Store.isTextOf .cancelled r.status && r.endsAt.any (τ < ·) := by
    simp only [Store.liveSubscriptions, List.filter_filter]
    rw [subscriptions_replace, List.filter_append, Store.amend, filter_amendFirst]
    · have hnone : (d.replacement τ owner (s.amend V.id (d.ending τ))).filter (fun r =>
          r.belongsTo subscriber && Store.isTextOf .cancelled r.status && r.endsAt.any (τ < ·) &&
            r.isLive) = [] :=
        List.filter_eq_nil_iff.mpr fun x hx => by simp [hnew x hx]
      exact (congrArg _ hnone).trans (List.append_nil _)
    · exact fun x hx hid => ⟨by simp [hold x hx hid], by simp [hends, hnow]⟩
  rw [Store.findResumable, hrows, Store.findResumable]

variable (hR : s.findResumable subscriber τ = some R)

include hR

theorem ids_ne_of_found : V.id ≠ R.id := by
  obtain ⟨⟨hVmem, _, _⟩, hopen⟩ := Store.findValidSubscription_eq_some hV
  obtain ⟨⟨hRmem, _, _⟩, hresumable, _⟩ := Store.findResumable_eq_some hR
  intro hid
  obtain rfl : V = R := List.inj_on_of_nodup_map hids hVmem hRmem hid
  have hcancelled := (Subscription.isResumableAt_iff.mp hresumable).1
  rcases hopen with h | h <;> simp [h] at hcancelled

/-- To resume one subscription and to end another can be done in either order. -/
theorem write_comm (hd : d ≠ .resume) (t τ' : Instant) :
    d.write t V (resume.write τ' R s) = resume.write τ' R (d.write t V s) := by
  obtain ⟨⟨hVmem, _, hVowner⟩, _⟩ := Store.findValidSubscription_eq_some hV
  obtain ⟨⟨hRmem, _, _⟩, _, _⟩ := Store.findResumable_eq_some hR
  have hne := ids_ne_of_found hids hV hR
  have hthere : ∀ (id : Id) (changes : SubscriptionChanges), ∀ r ∈ s.subscriptions,
      ∃ x ∈ (s.amend id changes).subscriptions, x.id = r.id := by
    intro id changes r hr
    exact List.mem_map.mp (s.ids_amend id changes ▸ List.mem_map_of_mem hr)
  rw [write_resume, write_resume]
  split
  · rw [write_of_ne_resume hd (Subscription.subscriber?_of_belongsTo hVowner)
        (hthere _ _ V hVmem),
      write_found hV hd, amend_replace (hthere _ _ R hRmem), Store.amend_comm hne.symm]
  · rfl

end

/-- The two requests take two steps each. -/
def Interleaves (turns : List (Bool × Instant)) : Prop :=
  (turns.map (·.1)).count true = 2 ∧ (turns.map (·.1)).count false = 2

/-- Whether one request after the other, at times of the race, leaves what the race leaves. They
come in order if those of the race do. -/
def Serialisable (requests : Bool → ChangeRequest) (subscriber : Subscriber) (s : Store)
    (turns : List (Bool × Instant)) : Prop :=
  ∃ x t₁ t₂ t₃ t₄, (∀ t ∈ [t₁, t₂, t₃, t₄], t ∈ turns.map (·.2)) ∧
    ((turns.map (·.2)).Pairwise (· ≤ ·) → [t₁, t₂, t₃, t₄].Pairwise (· ≤ ·)) ∧
    s.contents ((race requests subscriber s).run
        [(x, t₁), (x, t₂), (!x, t₃), (!x, t₄)]).world.store =
      s.contents ((race requests subscriber s).run turns).world.store

variable {requests : Bool → ChangeRequest} {turns : List (Bool × Instant)}

/-- Two requests with two steps each are one after the other, or both look up before one writes. -/
theorem Interleaves.cases (h : Interleaves turns) :
    (∃ x t₁ t₂ t₃ t₄, turns = [(x, t₁), (x, t₂), (!x, t₃), (!x, t₄)]) ∨
      ∃ z y t₁ t₂ t₃ t₄, turns = [(z, t₁), (!z, t₂), (y, t₃), (!y, t₄)] := by
  obtain ⟨htrue, hfalse⟩ := h
  have hlength : turns.length = 4 := by
    have hsum := List.count_true_add_count_false (turns.map (·.1))
    rw [List.length_map] at hsum
    omega
  obtain ⟨⟨x₁, t₁⟩, ⟨x₂, t₂⟩, ⟨x₃, t₃⟩, ⟨x₄, t₄⟩, rfl⟩ := List.length_eq_four.mp hlength
  clear hlength
  simp only [List.map_cons, List.map_nil] at htrue hfalse
  rcases Bool.eq_or_eq_not x₂ x₁ with rfl | rfl
  · obtain ⟨rfl, rfl⟩ : x₃ = (!x₂) ∧ x₄ = (!x₂) := by
      revert x₂ x₃ x₄
      decide
    exact .inl ⟨x₂, t₁, t₂, t₃, t₄, rfl⟩
  · obtain rfl : x₄ = (!x₃) := by
      revert x₁ x₃ x₄
      decide
    exact .inr ⟨x₁, x₃, t₁, t₂, t₃, t₄, rfl⟩

theorem target?_of_ne_resume (hd : d ≠ .resume) (t : Instant) (s : Store) :
    d.target? subscriber t s = s.findValidSubscription subscriber := by
  cases d with
  | resume => exact absurd rfl hd
  | _ => rfl

theorem writeAll_comm {τ τ' : Instant} (hids : (s.subscriptions.map (·.id)).Nodup)
    (hd : d ≠ .resume) :
    d.writeAll t (s.findValidSubscription subscriber)
        (resume.writeAll τ' (s.findResumable subscriber τ) s) =
      resume.writeAll τ' (s.findResumable subscriber τ)
        (d.writeAll t (s.findValidSubscription subscriber) s) := by
  cases hV : s.findValidSubscription subscriber with
  | none => rfl
  | some V =>
    cases hR : s.findResumable subscriber τ with
    | none => rfl
    | some R => exact write_comm hids hV hR hd t τ'

/-- What the two leave that both look up before one of them writes. -/
theorem store_resume_end (subscriber : Subscriber) {x : Bool}
    (hids : (s.subscriptions.map (·.id)).Nodup) (hx : requests x = .resume)
    (hd : requests (!x) ≠ .resume) (z y : Bool) (t₁ t₂ t₃ t₄ : Instant) :
    ((race requests subscriber s).run [(z, t₁), (!z, t₂), (y, t₃), (!y, t₄)]).world.store =
      resume.writeAll (if x = y then t₃ else t₄)
        (s.findResumable subscriber (if x = z then t₁ else t₂))
        ((requests !x).writeAll (if x = y then t₄ else t₃) (s.findValidSubscription subscriber)
          s) := by
  refine (store_atOnce requests subscriber s z y t₁ t₂ t₃ t₄).trans ?_
  have htarget : (requests x).target? subscriber (if x = z then t₁ else t₂) s =
      s.findResumable subscriber (if x = z then t₁ else t₂) := by rw [hx]; rfl
  rcases Bool.eq_or_eq_not y x with rfl | rfl
  · rw [htarget, target?_of_ne_resume hd, hx, writeAll_comm hids hd, if_pos rfl, if_pos rfl]
  · have hother : x ≠ !x := (Bool.eq_not_self x).mp
    rw [Bool.not_not, htarget, target?_of_ne_resume hd, hx, if_neg hother, if_neg hother]

theorem serialisable_resume {x : Bool} (hids : (s.subscriptions.map (·.id)).Nodup)
    (hx : requests x = .resume) (hd : (requests !x).EndsAtOnce = true) (z y : Bool)
    (t₁ t₂ t₃ t₄ : Instant) :
    Serialisable requests subscriber s [(z, t₁), (!z, t₂), (y, t₃), (!y, t₄)] := by
  have hne : requests (!x) ≠ .resume := by
    intro h
    rw [h] at hd
    cases hd
  have hrace := store_resume_end subscriber hids hx hne z y t₁ t₂ t₃ t₄
  have hclock : [t₁, t₂, t₃, t₄].Pairwise (· ≤ ·) →
      (if x = z then t₁ else t₂) ≤ (if x = y then t₃ else t₄) ∧
        (if x = z then t₁ else t₂) ≤ if x = y then t₄ else t₃ := by
    intro hordered
    simp only [List.pairwise_cons, List.mem_cons, List.not_mem_nil, or_false, forall_eq_or_imp,
      forall_eq] at hordered
    obtain ⟨⟨_, h₁₃, h₁₄⟩, ⟨h₂₃, h₂₄⟩, _⟩ := hordered
    constructor <;> split <;> split <;> assumption
  have hlooked : (if x = z then t₁ else t₂) ∈ [t₁, t₂, t₃, t₄] := by split <;> simp
  have hresumed : (if x = y then t₃ else t₄) ∈ [t₁, t₂, t₃, t₄] := by split <;> simp
  have hended : (if x = y then t₄ else t₃) ∈ [t₁, t₂, t₃, t₄] := by split <;> simp
  generalize (if x = z then t₁ else t₂) = τ at hrace hlooked hclock
  generalize (if x = y then t₃ else t₄) = τ' at hrace hresumed hclock
  generalize (if x = y then t₄ else t₃) = t at hrace hended hclock
  have hsame : ∀ t : Instant, t ≤ t := fun t => Int.le_refl t.nanos
  have hresume : ∀ between, (requests x).target? subscriber τ between =
      between.findResumable subscriber τ := by
    intro between
    rw [hx]
    rfl
  rw [Serialisable, hrace]
  -- A request that finds nothing goes where it still finds nothing: a resume first, before anything
  -- is ended, and a request to end last. Where both find something the end goes first, at the
  -- instant of the lookup, so that what it ends is not found by the resume.
  cases hR : s.findResumable subscriber τ with
  | none =>
    refine ⟨x, τ, τ, t, t, by simpa using And.intro hlooked hended,
      fun h => by simp [hclock h, hsame], ?_⟩
    rw [store_inTurn, hresume, hR]
    simp only [writeAll, target?_of_ne_resume hne]
  | some R =>
    refine ⟨!x, τ, τ, τ, τ', by simpa using And.intro hlooked hresumed,
      fun h => by simp [hclock h, hsame], ?_⟩
    rw [store_inTurn, target?_of_ne_resume hne, Bool.not_not, hx]
    cases hV : s.findValidSubscription subscriber with
    | none => simp only [writeAll, target?, hR]
    | some V =>
      have hfound : ((requests !x).write τ V s).findResumable subscriber τ = some R := by
        rw [write_found hV hne, findResumable_ended hids hV hd, hR]
      simp only [writeAll, target?, hfound]
      exact (alike_ended hV hd τ t τ' R).contents s

section

variable {midway : Race} {x y : Bool}

/-- Where a request stands that is to end a subscription. Until it has written, what it has found is
what there is to be found. -/
def Stands (d : ChangeRequest) (subscriber : Subscriber) (y : Bool) (midway : Race) : Prop :=
  (midway.world.store.subscriptions.map (·.id)).Nodup ∧
      (midway.requests y = .opened (d.operation { subscriber := subscriber }) ∨
        midway.requests y =
          .settled (d.rest (midway.world.store.findValidSubscription subscriber))) ∨
    ∃ o, midway.requests y = .ended o

theorem mem_writeAll (hids : (s.subscriptions.map (·.id)).Nodup) (hd : d ≠ .resume)
    (hr : r ∈ s.subscriptions) (hclosed : ¬ r.IsOpen) (t : Instant) :
    r ∈ (d.writeAll t (s.findValidSubscription subscriber) s).subscriptions := by
  cases hV : s.findValidSubscription subscriber with
  | none => exact hr
  | some V =>
    obtain ⟨⟨hVmem, _, _⟩, hopen⟩ := Store.findValidSubscription_eq_some hV
    have hother : (r.id == V.id) = false := by
      rw [beq_eq_false_iff_ne]
      intro hid
      obtain rfl : r = V := List.inj_on_of_nodup_map hids hr hVmem hid
      exact hclosed hopen
    rw [writeAll_some, write_found hV hd, subscriptions_replace]
    exact List.mem_append_left _ (mem_amendFirst hr hother)

theorem Stands.step (h : Stands d subscriber y midway) (hd : d ≠ .resume) (t : Instant) :
    Stands d subscriber y (midway.step (y, t)) ∧
      ∀ r ∈ midway.world.store.subscriptions, ¬ r.IsOpen →
        r ∈ (midway.step (y, t)).world.store.subscriptions := by
  rcases h with ⟨hids, hopened | hsettled⟩ | ⟨o, hended⟩
  · obtain ⟨hstore, hfound, _⟩ := Race.step_of_opened hopened t
    rw [target?_of_ne_resume hd, ← hstore] at hfound
    refine ⟨.inl ⟨by rwa [hstore], .inr hfound⟩, fun r hr _ => by rwa [hstore]⟩
  · obtain ⟨hstore, _, o, hended⟩ := Race.step_of_settled hsettled t
    refine ⟨.inr ⟨o, hended⟩, fun r hr hclosed => ?_⟩
    rw [hstore]
    exact mem_writeAll hids hd hr hclosed t
  · obtain ⟨hstore, hsame⟩ := Race.step_of_ended hended t
    exact ⟨.inr ⟨o, hsame⟩, fun r hr _ => by rwa [hstore]⟩

theorem Stands.run {turns : List (Bool × Instant)} (h : Stands d subscriber y midway)
    (hd : d ≠ .resume) (hturns : ∀ turn ∈ turns, turn.1 = y) :
    Stands d subscriber y (midway.run turns) ∧
      ∀ r ∈ midway.world.store.subscriptions, ¬ r.IsOpen →
        r ∈ (midway.run turns).world.store.subscriptions := by
  induction turns generalizing midway with
  | nil => exact ⟨h, fun r hr _ => hr⟩
  | cons turn rest ih =>
    obtain ⟨y', t⟩ := turn
    obtain rfl : y' = y := hturns (y', t) (by simp)
    obtain ⟨hstep, hkept⟩ := h.step hd t
    obtain ⟨hrun, hkept'⟩ := ih hstep fun turn hturn => hturns turn (by simp [hturn])
    exact ⟨hrun, fun r hr hclosed => hkept' r (hkept r hr hclosed) hclosed⟩

theorem run_others (midway : Race) {turns : List (Bool × Instant)}
    (hturns : ∀ turn ∈ turns, turn.1 = !x) : (midway.run turns).requests x = midway.requests x := by
  induction turns generalizing midway with
  | nil => rfl
  | cons turn rest ih =>
    have hne : x ≠ turn.1 := by simp [hturns turn]
    refine (ih _ fun turn hturn => hturns turn (by simp [hturn])).trans ?_
    simp [Race.step, hne]

/-- What a resume finds is still there as it was found when it is resumed, whatever the other
request ends in the meantime. -/
theorem found_unchanged {early between : List (Bool × Instant)} {τ : Instant}
    (hids : (s.subscriptions.map (·.id)).Nodup) (hx : requests x = .resume)
    (hd : requests (!x) ≠ .resume) (hearly : ∀ turn ∈ early, turn.1 = !x)
    (hbetween : ∀ turn ∈ between, turn.1 = !x)
    (hfound : ((race requests subscriber s).run early).world.store.findResumable subscriber τ =
      some r) :
    let midway := (race requests subscriber s).run (early ++ (x, τ) :: between)
    midway.requests x = .settled (resume.rest (some r)) ∧
      r ∈ midway.world.store.subscriptions := by
  have hopened : Stands (requests !x) subscriber (!x) (race requests subscriber s) :=
    .inl ⟨hids, .inl rfl⟩
  obtain ⟨hstands, _⟩ := hopened.run hd hearly
  have hresume : ((race requests subscriber s).run early).requests x =
      .opened (resume.operation { subscriber := subscriber }) :=
    hx ▸ run_others (race requests subscriber s) hearly
  have hturns : (race requests subscriber s).run (early ++ (x, τ) :: between) =
      (((race requests subscriber s).run early).step (x, τ)).run between := by
    rw [Race.run, List.foldl_append, List.foldl_cons]
    rfl
  rw [hturns]
  generalize (race requests subscriber s).run early = midway at hfound hstands hresume
  obtain ⟨hstore, hsettled, hother⟩ := Race.step_of_opened hresume τ
  have hstands' : Stands (requests !x) subscriber (!x) (midway.step (x, τ)) := by
    rwa [Stands, hstore, hother]
  obtain ⟨⟨hr, _, _⟩, hresumable, _⟩ := Store.findResumable_eq_some hfound
  have hclosed : ¬ r.IsOpen := by
    have hcancelled := (Subscription.isResumableAt_iff.mp hresumable).1
    rintro (h | h) <;> simp [h] at hcancelled
  refine ⟨?_, (hstands'.run hd hbetween).2 r (by rwa [hstore]) hclosed⟩
  rw [run_others _ hbetween, hsettled, target?, hfound]

end

end ChangeRequest

end RecurringBilling
