import RecurringBilling.Proofs.DailyRun.DayEffect
import RecurringBilling.Proofs.Session.Races

/-! Requests that find the same row. The second to write does not see that the first has been there,
so what comes out is not what one after the other leaves. From that follows which pairs of requests
are safe. -/

namespace RecurringBilling

/-- Whether the subscription is a valid one of the subscriber. -/
def Subscription.isValidOf (subscriber : Subscriber) (r : Subscription) : Bool :=
  r.isLive && SubscriptionStatus.isValidText r.status && r.belongsTo subscriber

namespace Store

variable {s : Store} {subscriber : Subscriber} {r : Subscription}

def validCount (s : Store) (subscriber : Subscriber) : Nat :=
  s.subscriptions.countP (·.isValidOf subscriber)

theorem isValidOf_iff (hr : r ∈ s.subscriptions) :
    r.isValidOf subscriber = true ↔ s.Holds subscriber r ∧ r.IsOpen := by
  simp only [Subscription.isValidOf, Bool.and_eq_true, Subscription.isValidText_iff_isOpen, Holds]
  tauto

theorem countP_contents (old s : Store) (q : Subscription → Bool)
    (hq : ∀ r : Subscription, q { r.timeless with id := default } = q r) :
    (old.contents s).countP (fun h => q h.row = true) = s.subscriptions.countP q := by
  rw [contents, Multiset.coe_countP, List.countP_map]
  refine List.countP_congr fun r _ => ?_
  simp [holding, hq]

theorem validCount_of_contents {old s' : Store} (subscriber : Subscriber)
    (h : old.contents s = old.contents s') :
    s.validCount subscriber = s'.validCount subscriber := by
  rw [validCount, validCount, ← countP_contents old s _ fun _ => rfl,
    ← countP_contents old s' _ fun _ => rfl, h]

theorem validCount_eq_zero (h : s.findValidSubscription subscriber = none) :
    s.validCount subscriber = 0 := by
  refine List.countP_eq_zero.mpr fun r hr hvalid => ?_
  obtain ⟨hholds, hopen⟩ := (isValidOf_iff hr).mp hvalid
  exact findValidSubscription_eq_none.mp h r hholds hopen

theorem validCount_pos (h : s.findValidSubscription subscriber = some r) :
    0 < s.validCount subscriber := by
  obtain ⟨hholds, hopen⟩ := findValidSubscription_eq_some h
  exact List.countP_pos_iff.mpr ⟨r, hholds.1, (isValidOf_iff hholds.1).mpr ⟨hholds, hopen⟩⟩

end Store

namespace ChangeRequest

variable {c d : ChangeRequest} {requests : Bool → ChangeRequest} {s : Store}
  {subscriber : Subscriber} {t t' : Instant}

/-- How many valid subscriptions a request adds. -/
def gain : ChangeRequest → Nat
  | switchPlan _ => 1
  | _ => 0

theorem isValidOf_ending (hc : c ≠ .resume) (t : Instant) (r : Subscription) :
    ((c.ending t).apply r).isValidOf subscriber = false := by
  cases c with
  | resume => exact absurd rfl hc
  | _ => simp [Subscription.isValidOf, ending, Subscribing.cancellation, SubscriptionChanges.apply,
      Change.apply, SubscriptionStatus.isValidText, SubscriptionStatus.valid,
      SubscriptionStatus.word]

theorem countP_replacement (c : ChangeRequest) (t : Instant) (subscriber : Subscriber) (s : Store) :
    (c.replacement t subscriber s).countP (·.isValidOf subscriber) = c.gain := by
  have hvalid : ∀ r ∈ c.replacement t subscriber s, r.isValidOf subscriber = true := by
    intro r hr
    obtain ⟨hstatus, hlive, howner, _⟩ := of_mem_replacement hr
    rw [Subscription.isValidOf, hstatus, hlive, howner]
    decide
  rw [List.countP_eq_length.mpr hvalid]
  cases c <;> rfl

section

variable {r x : Subscription} {earlier later : List Subscription}
  (hs : s.subscriptions = earlier ++ x :: later)
  (hearlier : ∀ y ∈ earlier, (y.id == r.id) = false) (hx : (x.id == r.id) = true)

include hs hearlier hx

theorem subscriptions_write (hc : c ≠ .resume) (howner : r.subscriber? = some subscriber)
    (t : Instant) : ∃ added, (c.write t r s).subscriptions =
        earlier ++ (c.ending t).apply x :: (later ++ added) ∧
      added.countP (·.isValidOf subscriber) = c.gain ∧ ∀ y ∈ added, y.id = s.freshId := by
  have hr : ∃ y ∈ s.subscriptions, y.id = r.id := ⟨x, by simp [hs], eq_of_beq hx⟩
  refine ⟨_, ?_, countP_replacement c t subscriber (s.amend r.id (c.ending t)), fun y hy =>
    (of_mem_replacement hy).2.2.2⟩
  rw [write_of_ne_resume hc howner hr, subscriptions_replace, Store.amend, hs,
    amendFirst_split hearlier hx, List.append_assoc]
  rfl

/-- A valid subscription that is ended is one less, unless another takes its place. -/
theorem validCount_write (hc : c ≠ .resume) (howner : r.subscriber? = some subscriber)
    (t : Instant) :
    (c.write t r s).validCount subscriber + (if x.isValidOf subscriber then 1 else 0) =
      s.validCount subscriber + c.gain := by
  obtain ⟨added, hwritten, hgain, _⟩ := subscriptions_write hs hearlier hx hc howner t
  rw [Store.validCount, Store.validCount, hwritten, hs]
  simp only [List.countP_append, List.countP_cons, hgain, isValidOf_ending hc, Bool.false_eq_true,
    if_false]
  omega

end

theorem split_of_found {V : Subscription} (hids : (s.subscriptions.map (·.id)).Nodup)
    (hV : s.findValidSubscription subscriber = some V) :
    ∃ earlier later, s.subscriptions = earlier ++ V :: later ∧
      (∀ y ∈ earlier, (y.id == V.id) = false) ∧ V.isValidOf subscriber = true ∧
      V.subscriber? = some subscriber := by
  obtain ⟨⟨hmem, hlive, howner⟩, hopen⟩ := Store.findValidSubscription_eq_some hV
  obtain ⟨earlier, later, hsplit⟩ := List.append_of_mem hmem
  refine ⟨earlier, later, hsplit, ?_, ?_, Subscription.subscriber?_of_belongsTo howner⟩
  · intro y hy
    rw [hsplit, List.map_append, List.map_cons] at hids
    have hne := (List.nodup_append.mp hids).2.2 _ (List.mem_map_of_mem hy) V.id (by simp)
    simpa using hne
  · exact (Store.isValidOf_iff hmem).mpr ⟨⟨hmem, hlive, howner⟩, hopen⟩

/-- Two requests that end what they have found, and have found the same. -/
theorem validCount_both {V : Subscription} (hids : (s.subscriptions.map (·.id)).Nodup)
    (hV : s.findValidSubscription subscriber = some V) (hc : c ≠ .resume) (hd : d ≠ .resume)
    (t t' : Instant) :
    (d.write t' V (c.write t V s)).validCount subscriber + 1 =
      s.validCount subscriber + c.gain + d.gain := by
  obtain ⟨earlier, later, hs, hearlier, hvalid, howner⟩ := split_of_found hids hV
  obtain ⟨added, hwritten, _⟩ := subscriptions_write hs hearlier (beq_self_eq_true V.id) hc howner t
  have hfirst := validCount_write hs hearlier (beq_self_eq_true V.id) hc howner t
  have hsecond := validCount_write hwritten hearlier (beq_self_eq_true V.id) hd howner t'
  rw [hvalid, if_pos rfl] at hfirst
  rw [isValidOf_ending hc, if_neg (by simp)] at hsecond
  omega

theorem nodup_write {V : Subscription} (hids : (s.subscriptions.map (·.id)).Nodup)
    (hfresh : s.freshId ∉ s.subscriptions.map (·.id))
    (hV : s.findValidSubscription subscriber = some V) (hc : c ≠ .resume) (t : Instant) :
    ((c.write t V s).subscriptions.map (·.id)).Nodup := by
  have hadded : ∀ (owner : Subscriber) (s : Store),
      ((c.replacement t owner s).map (·.id)).Nodup := by
    intro owner s
    cases c <;> simp [replacement]
  rw [write_found hV hc, subscriptions_replace, List.map_append, Store.ids_amend]
  refine List.nodup_append.mpr ⟨hids, hadded .., ?_⟩
  rintro id hid _ hnew rfl
  obtain ⟨r, hr, rfl⟩ := List.mem_map.mp hnew
  exact hfresh ((of_mem_replacement hr).2.2.2 ▸ hid)

/-- One request after the other: the second ends what the first has left, if that is anything. -/
theorem validCount_inTurn {V : Subscription} (hids : (s.subscriptions.map (·.id)).Nodup)
    (hfresh : s.freshId ∉ s.subscriptions.map (·.id))
    (hV : s.findValidSubscription subscriber = some V) (hc : c ≠ .resume) (hd : d ≠ .resume)
    (t t' : Instant) :
    let between := c.write t V s
    let after := d.writeAll t' (between.findValidSubscription subscriber) between
    between.validCount subscriber + 1 = s.validCount subscriber + c.gain ∧
      (between.validCount subscriber = 0 ∧ after.validCount subscriber = 0 ∨
        after.validCount subscriber + 1 = between.validCount subscriber + d.gain) := by
  intro between after
  obtain ⟨earlier, later, hs, hearlier, hvalid, howner⟩ := split_of_found hids hV
  have hfirst := validCount_write hs hearlier (beq_self_eq_true V.id) hc howner t
  rw [hvalid, if_pos rfl] at hfirst
  refine ⟨hfirst, ?_⟩
  cases hW : between.findValidSubscription subscriber with
  | none =>
    have hnone := Store.validCount_eq_zero hW
    have hafter : after = between := by
      simp only [after, hW]
      rfl
    exact .inl ⟨hnone, by rw [hafter, hnone]⟩
  | some W =>
    have hbetween := nodup_write hids hfresh hV hc t
    obtain ⟨earlier', later', hs', hearlier', hvalid', howner'⟩ := split_of_found hbetween hW
    have hsecond := validCount_write hs' hearlier' (beq_self_eq_true W.id) hd howner' t'
    rw [hvalid', if_pos rfl] at hsecond
    have hafter : after = d.write t' W between := by
      simp only [after, hW]
      rfl
    rw [hafter]
    exact .inr hsecond

/-- Whatever the order, a subscriber who has one subscription ended twice is left with one more than
if each request had ended its own. -/
theorem not_serialisable_of_found {V : Subscription} (hne : ∀ x, requests x ≠ .resume)
    (hids : (s.subscriptions.map (·.id)).Nodup)
    (hfresh : s.freshId ∉ s.subscriptions.map (·.id))
    (hV : s.findValidSubscription subscriber = some V)
    (hmany : 2 ≤ s.validCount subscriber ∨ ∃ x, 0 < (requests x).gain) (z y : Bool)
    (t₁ t₂ t₃ t₄ : Instant) :
    ¬ Serialisable requests subscriber s [(z, t₁), (!z, t₂), (y, t₃), (!y, t₄)] := by
  rintro ⟨x, t₁', t₂', t₃', t₄', _, _, hsame⟩
  have hcount := Store.validCount_of_contents subscriber hsame
  simp only [store_inTurn, store_atOnce, target?_of_ne_resume (hne x),
    target?_of_ne_resume (hne !x), target?_of_ne_resume (hne y), target?_of_ne_resume (hne !y), hV,
    writeAll_some] at hcount
  -- All counts come down to that before: one less for each request that ends a valid row, one more
  -- for each that adds one. In turn two rows are ended, in the race only the one that both found.
  have hrace := validCount_both hids hV (hne y) (hne !y) t₃ t₄
  obtain ⟨hbetween, hturns⟩ := validCount_inTurn hids hfresh hV (hne x) (hne !x) t₂' t₄'
  have hgain : (requests x).gain + (requests !x).gain = (requests y).gain + (requests !y).gain := by
    cases x <;> cases y <;> simp [Nat.add_comm]
  have hpositive : 2 ≤ s.validCount subscriber ∨
      0 < (requests x).gain + (requests !x).gain := by
    refine hmany.imp_right ?_
    rintro ⟨x', hx'⟩
    rcases Bool.eq_or_eq_not x' x with rfl | rfl <;> omega
  have hsome := Store.validCount_pos hV
  clear hmany
  omega

theorem not_serialisable_of_count {turns : List (Bool × Instant)} (q : Subscription → Bool)
    (hq : ∀ r : Subscription, q { r.timeless with id := default } = q r)
    (htimes : ∀ t' ∈ turns.map (·.2), t' = t)
    (hcount : ∀ x, ((race requests subscriber s).run
        [(x, t), (x, t), (!x, t), (!x, t)]).world.store.subscriptions.countP q ≠
      ((race requests subscriber s).run turns).world.store.subscriptions.countP q) :
    ¬ Serialisable requests subscriber s turns := by
  rintro ⟨x, t₁, t₂, t₃, t₄, hmem, _, hsame⟩
  have hall : ∀ t' ∈ [t₁, t₂, t₃, t₄], t' = t := fun t' ht' => htimes t' (hmem t' ht')
  obtain ⟨rfl, rfl, rfl, rfl⟩ : t₁ = t ∧ t₂ = t ∧ t₃ = t ∧ t₄ = t := by simpa using hall
  refine hcount x ?_
  rw [← Store.countP_contents s _ q hq, ← Store.countP_contents s _ q hq, hsame]

section

open DailyRun

def someUser : Subscriber := ⟨.user, .ofNat 1⟩

def heldRow : Subscription := plainSubscription 1 nextNoon true

/-- A subscription in its grace period. -/
def gracedRow (id : Nat) : Subscription :=
  { plainSubscription id nextNoon false with
    packageId := .ofNat 8, status := SubscriptionStatus.cancelled.word, startsAt := plainNoon
    cancelledAt := some .first }

def resumedRow (id : Nat) : Subscription := (Subscribing.resumption plainNoon).apply (gracedRow id)

def noonTurns : List (Bool × Instant) :=
  [(true, plainNoon), (false, plainNoon), (true, plainNoon), (false, plainNoon)]

theorem interleaves_noonTurns : Interleaves noonTurns := ⟨rfl, rfl⟩

/-- Two subscriptions to end, of which both requests find the same. -/
theorem not_serialisable_ends (hne : ∀ x, requests x ≠ .resume) : ¬ Serialisable requests someUser
    { subscriptions := [heldRow, plainSubscription 2 nextNoon true] } noonTurns := by
  have hV : Store.findValidSubscription
      { subscriptions := [heldRow, plainSubscription 2 nextNoon true] } someUser =
        some heldRow := by
    change (sortedBy _ [heldRow, plainSubscription 2 nextNoon true]).head? = _
    rw [sortedBy_pair, if_neg (by decide)]
    rfl
  exact not_serialisable_of_found hne (by decide) (by decide) hV (.inl (by decide)) true true
    plainNoon plainNoon plainNoon plainNoon

theorem isResumableAt_gracedRow (id : Nat) : (gracedRow id).isResumableAt plainNoon = true := rfl

/-- Two subscriptions to resume, of which both requests find the same. -/
theorem not_serialisable_resumes : ¬ Serialisable (fun _ => resume) someUser
    { subscriptions := [gracedRow 1, gracedRow 2] } noonTurns := by
  have hR : Store.findResumable { subscriptions := [gracedRow 1, gracedRow 2] } someUser plainNoon =
      some (gracedRow 1) := by
    change (sortedBy _ [gracedRow 1, gracedRow 2]).head? = _
    rw [sortedBy_pair, if_neg (by decide)]
    rfl
  have hR' : Store.findResumable { subscriptions := [resumedRow 1, gracedRow 2] } someUser
      plainNoon = some (gracedRow 2) := by
    change (sortedBy _ [gracedRow 2]).head? = _
    simp [sortedBy]
  have hrace : ((race (fun _ => resume) someUser
      { subscriptions := [gracedRow 1, gracedRow 2] }).run noonTurns).world.store =
        { subscriptions := [resumedRow 1, gracedRow 2] } := by
    refine (store_atOnce (fun _ => resume) someUser _ true true ..).trans ?_
    simp only [ite_self, target?, hR, writeAll_some, write_resume, isResumableAt_gracedRow, if_true]
    rfl
  have hserial : ∀ x, ((race (fun _ => resume) someUser
      { subscriptions := [gracedRow 1, gracedRow 2] }).run
        [(x, plainNoon), (x, plainNoon), (!x, plainNoon), (!x, plainNoon)]).world.store =
        { subscriptions := [resumedRow 1, resumedRow 2] } := by
    intro x
    have hbetween : Store.amend (gracedRow 1).id (Subscribing.resumption plainNoon)
        { subscriptions := [gracedRow 1, gracedRow 2] } =
          { subscriptions := [resumedRow 1, gracedRow 2] } := rfl
    rw [store_inTurn]
    simp only [target?, hR, writeAll_some, write_resume, isResumableAt_gracedRow, if_true, hbetween,
      hR']
    rfl
  refine not_serialisable_of_count (t := plainNoon)
    (fun r => r.status == SubscriptionStatus.active.word) (fun _ => rfl) (by decide) fun x => ?_
  rw [hrace, hserial]
  decide

/-- The subscription that is held, with a grace period from that noon on. -/
def endedRow (reason : Option String) : Subscription :=
  (Subscribing.cancellation plainNoon false reason).apply heldRow

section

variable {reason : Option String}

theorem found_held : Store.findValidSubscription { subscriptions := [heldRow, gracedRow 2] }
    someUser = some heldRow := by
  change (sortedBy _ [heldRow]).head? = _
  simp [sortedBy]

theorem found_graced : Store.findResumable { subscriptions := [heldRow, gracedRow 2] } someUser
    plainNoon = some (gracedRow 2) := by
  change (sortedBy _ [gracedRow 2]).head? = _
  simp [sortedBy]

variable (hx : requests x = .resume) (hd : requests (!x) = .cancel false reason)

include hx hd

/-- What has just been resumed started last, and is what the other request finds then. -/
theorem store_resume_cancel :
    ((race requests someUser { subscriptions := [heldRow, gracedRow 2] }).run
      [(x, plainNoon), (x, plainNoon), (!x, plainNoon), (!x, plainNoon)]).world.store =
        { subscriptions := [heldRow,
            (Subscribing.cancellation plainNoon false reason).apply (resumedRow 2)] } := by
  have hbetween : Store.amend (gracedRow 2).id (Subscribing.resumption plainNoon)
      { subscriptions := [heldRow, gracedRow 2] } =
        { subscriptions := [heldRow, resumedRow 2] } := rfl
  have hfound : Store.findValidSubscription { subscriptions := [heldRow, resumedRow 2] } someUser =
      some (resumedRow 2) := by
    change (sortedBy _ [heldRow, resumedRow 2]).head? = _
    rw [sortedBy_pair, if_pos (by decide)]
    rfl
  rw [store_inTurn]
  simp only [hx, hd, target?, found_graced, writeAll_some, write_resume, isResumableAt_gracedRow,
    if_true, hbetween, hfound, write_cancel]
  rfl

/-- What has just been ended was cancelled last, and is what the other request finds then. -/
theorem store_cancel_resume :
    ((race requests someUser { subscriptions := [heldRow, gracedRow 2] }).run
      [(!x, plainNoon), (!x, plainNoon), (x, plainNoon), (x, plainNoon)]).world.store =
        { subscriptions := [(Subscribing.resumption plainNoon).apply (endedRow reason),
            gracedRow 2] } := by
  have hbetween : Store.amend heldRow.id (Subscribing.cancellation plainNoon false reason)
      { subscriptions := [heldRow, gracedRow 2] } =
        { subscriptions := [endedRow reason, gracedRow 2] } := rfl
  have hfound : Store.findResumable { subscriptions := [endedRow reason, gracedRow 2] } someUser
      plainNoon = some (endedRow reason) := by
    have hlater : Store.cancelledBefore (gracedRow 2) (endedRow reason) = false := rfl
    change (sortedBy _ [endedRow reason, gracedRow 2]).head? = _
    rw [sortedBy_pair, hlater]
    rfl
  have hresumable : (endedRow reason).isResumableAt plainNoon = true := rfl
  have hturns := store_inTurn requests someUser { subscriptions := [heldRow, gracedRow 2] } (!x)
    plainNoon plainNoon plainNoon plainNoon
  rw [Bool.not_not] at hturns
  rw [hturns]
  simp only [hx, hd, target?, found_held, writeAll_some, write_cancel, hbetween, hfound,
    write_resume, hresumable, if_true]
  rfl

/-- A grace period that begins while another is called off. -/
theorem not_serialisable_grace : ¬ Serialisable requests someUser
    { subscriptions := [heldRow, gracedRow 2] } noonTurns := by
  have hrace : ((race requests someUser { subscriptions := [heldRow, gracedRow 2] }).run
      noonTurns).world.store = { subscriptions := [endedRow reason, resumedRow 2] } := by
    have hne : requests (!x) ≠ .resume := by simp [hd]
    refine (store_resume_end someUser (by decide) hx hne true true ..).trans ?_
    simp only [ite_self, hd, found_held, found_graced, writeAll_some, write_cancel, write_resume,
      isResumableAt_gracedRow, if_true]
    rfl
  -- What the race leaves active is the subscription to the second package, and neither order does.
  refine not_serialisable_of_count (t := plainNoon)
    (fun r => r.status == SubscriptionStatus.active.word && r.packageId == .ofNat 8)
    (fun _ => rfl) (by decide) fun y => ?_
  have hone : List.countP (fun r => r.status == SubscriptionStatus.active.word &&
      r.packageId == .ofNat 8) [endedRow reason, resumedRow 2] = 1 := rfl
  rw [hrace, hone]
  rcases Bool.eq_or_eq_not y x with rfl | rfl
  · rw [store_resume_cancel hx hd]
    exact (Nat.zero_ne_one : 0 ≠ 1)
  · rw [Bool.not_not, store_cancel_resume hx hd]
    exact (Nat.zero_ne_one : 0 ≠ 1)

end

theorem serialisable_always_iff (requests : Bool → ChangeRequest) :
    (∀ subscriber s turns, (s.subscriptions.map (·.id)).Nodup → Interleaves turns →
        Serialisable requests subscriber s turns) ↔
      ∃ x, requests x = .resume ∧ (requests !x).EndsAtOnce = true := by
  constructor
  · intro hall
    have hnoon : ∀ s, (s.subscriptions.map (·.id)).Nodup →
        Serialisable requests someUser s noonTurns :=
      fun s hids => hall someUser s noonTurns hids interleaves_noonTurns
    by_cases hresume : ∃ x, requests x = .resume
    · obtain ⟨x, hx⟩ := hresume
      refine ⟨x, hx, ?_⟩
      cases hd : requests !x with
      | cancel immediate reason =>
        cases immediate with
        | true => rfl
        | false => exact absurd (hnoon _ (by decide)) (not_serialisable_grace hx hd)
      | resume =>
        have hboth : requests = fun _ => .resume := by
          funext y
          rcases Bool.eq_or_eq_not y x with rfl | rfl
          · exact hx
          · exact hd
        rw [hboth] at hnoon
        exact absurd (hnoon _ (by decide)) not_serialisable_resumes
      | switchPlan package => rfl
    · exact absurd (hnoon _ (by decide)) (not_serialisable_ends (not_exists.mp hresume))
  · rintro ⟨x, hx, hd⟩ subscriber s turns hids hturns
    rcases hturns.cases with ⟨y, t₁, t₂, t₃, t₄, rfl⟩ | ⟨z, y, t₁, t₂, t₃, t₄, rfl⟩
    · exact ⟨y, t₁, t₂, t₃, t₄, fun t ht => ht, id, rfl⟩
    · exact serialisable_resume hids hx hd z y t₁ t₂ t₃ t₄

/-- Two switches that both find the subscription before one of them writes leave one too many. -/
theorem validCount_switches {V : Subscription}
    (hswitch : ∀ x, ∃ package, requests x = .switchPlan package)
    (hids : (s.subscriptions.map (·.id)).Nodup) (hV : s.findValidSubscription subscriber = some V)
    (z y : Bool) (t₁ t₂ t₃ t₄ : Instant) :
    ((race requests subscriber s).run
        [(z, t₁), (!z, t₂), (y, t₃), (!y, t₄)]).world.store.validCount subscriber =
      s.validCount subscriber + 1 := by
  have hne : ∀ x, requests x ≠ .resume := by
    intro x
    obtain ⟨package, hx⟩ := hswitch x
    simp [hx]
  have hgain : ∀ x, (requests x).gain = 1 := by
    intro x
    obtain ⟨package, hx⟩ := hswitch x
    rw [hx, gain]
  have hboth := validCount_both hids hV (hne y) (hne !y) t₃ t₄
  rw [store_atOnce, target?_of_ne_resume (hne y), target?_of_ne_resume (hne !y), hV]
  rw [hgain, hgain] at hboth
  exact Nat.succ_injective hboth

/-- Two requests come out as one after the other, whatever the store and the order of their steps,
exactly if one is to resume and the other ends a subscription at once. Two switches that find the
same subscription always leave one too many; a resume always finds its subscription as it was. -/
theorem serialisable_iff (requests : Bool → ChangeRequest) :
    ((∀ subscriber s turns, (s.subscriptions.map (·.id)).Nodup → Interleaves turns →
          Serialisable requests subscriber s turns) ↔
        ∃ x, requests x = .resume ∧ (requests !x).EndsAtOnce = true) ∧
      ((∀ x, ∃ package, requests x = .switchPlan package) →
        ∀ subscriber s V z y t₁ t₂ t₃ t₄, (s.subscriptions.map (·.id)).Nodup →
          s.findValidSubscription subscriber = some V →
          ((race requests subscriber s).run
              [(z, t₁), (!z, t₂), (y, t₃), (!y, t₄)]).world.store.validCount subscriber =
            s.validCount subscriber + 1) ∧
      ∀ x, requests x = .resume → requests (!x) ≠ .resume →
        ∀ subscriber s early between τ r, (s.subscriptions.map (·.id)).Nodup →
          (∀ turn ∈ early, turn.1 = !x) → (∀ turn ∈ between, turn.1 = !x) →
          ((race requests subscriber s).run early).world.store.findResumable subscriber τ =
            some r →
          let midway := (race requests subscriber s).run (early ++ (x, τ) :: between)
          midway.requests x = .settled (resume.rest (some r)) ∧
            r ∈ midway.world.store.subscriptions :=
  ⟨serialisable_always_iff requests,
    fun hswitch _ _ _ z y t₁ t₂ t₃ t₄ hids hV =>
      validCount_switches hswitch hids hV z y t₁ t₂ t₃ t₄,
    fun _ hx hd _ _ _ _ _ _ hids hearly hbetween hfound =>
      found_unchanged hids hx hd hearly hbetween hfound⟩

/-- Two switches of a subscriber who holds one subscription, to two packages. -/
def switches (x : Bool) : ChangeRequest :=
  .switchPlan (if x then plainPackage else { plainPackage with slug := "team", id := .ofNat 10 })

theorem switched_twice :
    let s : Store := { packages := [plainPackage], subscriptions := [heldRow] }
    (s.subscriptions.map (·.id)).Nodup ∧ Interleaves noonTurns ∧ s.validCount someUser = 1 ∧
      ((race switches someUser s).run noonTurns).world.store.validCount someUser = 2 ∧
      ¬ Serialisable switches someUser s noonTurns := by
  intro s
  have hids : (s.subscriptions.map (·.id)).Nodup := by decide
  have hV : s.findValidSubscription someUser = some heldRow := by
    change (sortedBy _ [heldRow]).head? = _
    simp [sortedBy]
  have hne : ∀ x, switches x ≠ .resume := by simp [switches]
  refine ⟨hids, interleaves_noonTurns, by decide, ?_, ?_⟩
  · exact validCount_switches (fun _ => ⟨_, rfl⟩) hids hV true true ..
  · exact not_serialisable_of_found hne hids (by decide) hV (.inr ⟨true, Nat.one_pos⟩) true true
      plainNoon plainNoon plainNoon plainNoon

end

end ChangeRequest

end RecurringBilling
