import RecurringBilling.Proofs.Usage.PrintedLimits

/-! Calls on items whose limits are the same numbers at other scales. Two runs that meet the same
chances are kept side by side: each request of the one is answered like that of the other, so that
both come to the same end and leave the same counts. -/

namespace RecurringBilling

open SubscriptionItem

variable {α β : Type} {item item' : SubscriptionItem}

/-! ### Stores -/

namespace Store

variable {s s' : Store} {id subscriptionId : Id}

/-- The stores differ in the values of items at most, and there only in the scale of a limit. -/
structure SameLimits (s s' : Store) : Prop where
  others : s' = { s with items := s'.items }
  items : List.Forall₂ SameLimit s.items s'.items

theorem SameLimits.refl (s : Store) : s.SameLimits s :=
  ⟨rfl, List.forall₂_same.mpr fun item _ => .refl item⟩

theorem SameLimits.findFeature (h : s.SameLimits s') (featureId : Id) :
    s'.findFeature featureId = s.findFeature featureId := by
  rw [h.others]
  rfl

/-- Two items found together with one feature. -/
def FoundAlike (found found' : SubscriptionItem × Feature) : Prop :=
  found.1.SameLimit found'.1 ∧ found'.2 = found.2

theorem SameLimits.findItem (h : s.SameLimits s') (subscriptionId : Id) (slug : String) :
    Option.Rel FoundAlike (s.findItem subscriptionId slug) (s'.findItem subscriptionId slug) := by
  have hrows := List.rel_filter (R := SameLimit) (p := fun i => i.subscriptionId == subscriptionId)
    (q := fun i => i.subscriptionId == subscriptionId)
    (fun _ _ hab => by simp only [hab.subscriptionId]) h.items
  have hpairs : List.Forall₂ FoundAlike (s.itemsWithFeatures subscriptionId)
      (s'.itemsWithFeatures subscriptionId) := by
    refine List.rel_filterMap ?_ hrows
    intro a b hab
    have hfeature : s'.findFeature b.featureId = s.findFeature a.featureId := by
      rw [h.findFeature, hab.featureId]
    beta_reduce
    rw [hfeature]
    cases s.findFeature a.featureId with
    | none => exact .none
    | some f => exact .some ⟨hab, rfl⟩
  exact rel_find? hpairs fun a b hab => by simp only [hab.2]

theorem SameLimit.setUsage (h : item.SameLimit item') (now : Instant) (usage : Decimal) :
    (setUsage now usage item).SameLimit (setUsage now usage item') := by
  refine ⟨?_, h.given, h.limit⟩
  rw [h.terms]
  rfl

/-- The same row of both stores is changed, or there is none in either. -/
theorem modifyFirst?_alike {l l' : List SubscriptionItem} (h : List.Forall₂ SameLimit l l')
    (id : Id) (now : Instant) (usage : Decimal) :
    Option.Rel (fun changed changed' => List.Forall₂ SameLimit changed.2 changed'.2)
      (modifyFirst? (·.id == id) (Store.setUsage now usage) l)
      (modifyFirst? (·.id == id) (Store.setUsage now usage) l') := by
  induction h with
  | nil => exact .none
  | @cons a b l l' hab htail ih =>
    rw [modifyFirst?, modifyFirst?, hab.id]
    by_cases hit : (a.id == id) = true
    · rw [if_pos hit, if_pos hit]
      exact .some (.cons (SameLimit.setUsage hab now usage) htail)
    · rw [if_neg hit, if_neg hit]
      generalize modifyFirst? (·.id == id) (Store.setUsage now usage) l = changed at ih
      generalize modifyFirst? (·.id == id) (Store.setUsage now usage) l' = changed' at ih
      cases ih with
      | none => exact .none
      | some hrows => exact .some (.cons hab hrows)

/-- Both requests are answered, or both are turned down for one reason. -/
inductive AnswersAlike (R : α → β → Prop) : Answer α → Answer β → Prop where
  | ok {a b s s'} : R a b → SameLimits s s' → AnswersAlike R (.ok (a, s)) (.ok (b, s'))
  | error (e) : AnswersAlike R (.error e) (.error e)

theorem SameLimits.incrementUsage (h : s.SameLimits s') (now : Instant) (amount : Decimal)
    {limit limit' : Option Decimal} (hlimit : limit'.map Decimal.toRat = limit.map Decimal.toRat) :
    AnswersAlike Eq (s.incrementUsage now id amount limit)
      (s'.incrementUsage now id amount limit') := by
  have hfind := rel_find? (p := (·.id == id)) (q := (·.id == id)) h.items
    fun _ _ hab => by simp only [hab.id]
  unfold Store.incrementUsage
  generalize s.items.find? (·.id == id) = found at hfind
  generalize s'.items.find? (·.id == id) = found' at hfind
  cases hfind with
  | none => exact .ok rfl h
  | @some a b hab =>
    simp only [hab.usage]
    cases a.usage.add amount with
    | error fault => exact .error _
    | ok new =>
      simp only [Usage.any_lt_congr hlimit new]
      split
      · exact .ok rfl h
      · have hrows := modifyFirst?_alike h.items id now new
        generalize modifyFirst? (·.id == id) (Store.setUsage now new) s.items = changed at hrows
        generalize modifyFirst? (·.id == id) (Store.setUsage now new) s'.items = changed' at hrows
        cases hrows with
        | none => exact .ok rfl h
        | some hrows =>
          refine .ok rfl ⟨?_, hrows⟩
          rw [h.others]

theorem SameLimits.createUsageLog (h : s.SameLimits s') (now : Instant) (row : NewUsageLog) :
    (s'.createUsageLog now row).1 = (s.createUsageLog now row).1 ∧
      (s.createUsageLog now row).2.SameLimits (s'.createUsageLog now row).2 := by
  have hothers := h.others
  refine ⟨by rw [hothers]; rfl, ⟨by rw [hothers]; rfl, h.items⟩⟩

end Store

/-! ### Runs -/

/-- Events of one meaning; a warning may give its limit at another scale. -/
inductive BillingEvent.SameLimit : BillingEvent → BillingEvent → Prop where
  | refl (event) : SameLimit event event
  | warning {subscription feature usage limit limit'} (h : limit'.toRat = limit.toRat) :
    SameLimit (.usageLimitWarning subscription feature usage limit)
      (.usageLimitWarning subscription feature usage limit')

structure World.SameLimits (w w' : World) : Prop where
  store : w.store.SameLimits w'.store
  calls : w'.calls.length = w.calls.length
  events : List.Forall₂ BillingEvent.SameLimit w.events w'.events

inductive Outcome.Rel (R : α → β → Prop) : Outcome α → Outcome β → Prop where
  | done {a b} : R a b → Rel R (.done a) (.done b)
  | failed (e) : Rel R (.failed e) (.failed e)
  | halted (fault) : Rel R (.halted fault) (.halted fault)

namespace Chances

/-- What each call meets, by how many were made before it. -/
def ofCalls (chance : Nat → Chance) : Chances := fun w => chance w.calls.length

end Chances

namespace Procedure

open Chances

variable {chance : Nat → Chance} {R : α → β → Prop} {p : Procedure α} {q : Procedure β}

/-- In worlds of the same limits the two procedures come to related ends, in such worlds again. -/
def RunsAlike (chance : Nat → Chance) (R : α → β → Prop) (p : Procedure α) (q : Procedure β) :
    Prop :=
  ∀ w w' : World, w.SameLimits w' →
    Outcome.Rel R ((ofCalls chance).run p w).1 ((ofCalls chance).run q w').1 ∧
      ((ofCalls chance).run p w).2.SameLimits ((ofCalls chance).run q w').2

theorem RunsAlike.bind {γ δ : Type} {S : γ → δ → Prop} {f : α → Procedure γ} {g : β → Procedure δ}
    (hp : RunsAlike chance R p q) (hf : ∀ a b, R a b → RunsAlike chance S (f a) (g b)) :
    RunsAlike chance S (p >>= f) (q >>= g) := by
  intro w w' hw
  rw [run_bind, run_bind]
  have hend := hp w w' hw
  generalize (ofCalls chance).run p w = first at hend
  generalize (ofCalls chance).run q w' = first' at hend
  obtain ⟨outcome, after⟩ := first
  obtain ⟨outcome', after'⟩ := first'
  obtain ⟨hrel, hafter⟩ := hend
  cases hrel with
  | done hab => exact hf _ _ hab after after' hafter
  | failed e => exact ⟨.failed e, hafter⟩
  | halted fault => exact ⟨.halted fault, hafter⟩

theorem runsAlike_pure {a : α} {b : β} (h : R a b) :
    RunsAlike chance R (pure a : Procedure α) (pure b : Procedure β) :=
  fun _ _ hw => ⟨.done h, hw⟩

theorem runsAlike_log {level level' : LogLevel} {target target' message message' : String}
    {fields fields' : List (String × LogValue)} :
    RunsAlike chance (fun _ _ => True) (log level target message fields)
      (log level' target' message' fields') :=
  fun _ _ hw => ⟨.done trivial, hw⟩

theorem runsAlike_publish {event event' : BillingEvent} (h : event.SameLimit event') :
    RunsAlike chance (fun _ _ => True) (publish event) (publish event') :=
  fun _ _ hw => ⟨.done trivial, hw.store, hw.calls, List.rel_append hw.events (.cons h .nil)⟩

theorem runsAlike_compute (result : Except ArithmeticFault α) :
    RunsAlike chance Eq (compute result) (compute result) := by
  intro w w' hw
  cases result with
  | ok a => exact ⟨.done rfl, hw⟩
  | error fault => exact ⟨.halted fault, hw⟩

theorem ofReply_alike {r r' : Request} {R : r.Reply → r'.Reply → Prop} {c : Chance} {w w' : World}
    (hw : w.SameLimits w')
    (h : Store.AnswersAlike R (w.store.answer c.now r) (w'.store.answer c.now r')) :
    Outcome.Rel R (Outcome.ofReply (w.answer c r)).1 (Outcome.ofReply (w'.answer c r')).1 ∧
      (Outcome.ofReply (w.answer c r)).2.SameLimits (Outcome.ofReply (w'.answer c r')).2 := by
  have hcalled {s s' : Store} (hs : s.SameLimits s') (reply : Except StorageError r.Reply)
      (reply' : Except StorageError r'.Reply) :
      ((w.withStore s).called r reply).SameLimits ((w'.withStore s').called r' reply') := by
    refine ⟨hs, ?_, hw.events⟩
    simp [World.called, World.withStore, hw.calls]
  unfold World.answer
  cases c.refusal with
  | some e => exact ⟨.failed _, hcalled hw.store _ _⟩
  | none =>
    generalize w.store.answer c.now r = answer at h
    generalize w'.store.answer c.now r' = answer' at h
    cases h with
    | ok hab hs => exact ⟨.done hab, hcalled hs _ _⟩
    | error refusal =>
      cases refusal with
      | error e => exact ⟨.failed _, hcalled hw.store _ _⟩
      | fault fault => exact ⟨.halted fault, hw⟩

theorem runsAlike_request (r r' : Request) {R : r.Reply → r'.Reply → Prop}
    (h : ∀ now s s', Store.SameLimits s s' →
      Store.AnswersAlike R (s.answer now r) (s'.answer now r')) :
    RunsAlike chance R (request r) (request r') := by
  intro w w' hw
  have hchance : ofCalls chance w' = ofCalls chance w := by rw [ofCalls, ofCalls, hw.calls]
  rw [run_request, run_request, hchance]
  exact ofReply_alike hw (h _ _ _ hw.store)

theorem runsAlike_requestOr (r r' : Request) {R : r.Reply → r'.Reply → Prop}
    {level : LogLevel} {target message : String}
    {fields fields' : StorageError → List (String × LogValue)}
    (h : ∀ now s s', Store.SameLimits s s' →
      Store.AnswersAlike R (s.answer now r) (s'.answer now r')) :
    RunsAlike chance R (requestOr r fun e => log level target message (fields e))
      (requestOr r' fun e => log level target message (fields' e)) := by
  intro w w' hw
  have hchance : ofCalls chance w' = ofCalls chance w := by rw [ofCalls, ofCalls, hw.calls]
  rw [run_requestOr, run_requestOr, hchance]
  exact ofReply_alike hw (h _ _ _ hw.store)

end Procedure

namespace Usage

open Procedure

variable {chance : Nat → Chance} {subscription : Subscription} {slug : String}
  {feature : Feature} {amount new : Decimal}

theorem runsAlike_findItem :
    RunsAlike chance (Option.Rel Store.FoundAlike) (request (.findItem subscription.id slug))
      (request (.findItem subscription.id slug)) :=
  runsAlike_request (.findItem subscription.id slug) (.findItem subscription.id slug)
    fun _ _ _ hs => .ok (hs.findItem subscription.id slug) hs

theorem runsAlike_writeLog (h : item.SameLimit item') (amount : Decimal) (description : String) :
    RunsAlike chance (fun _ _ => True) (writeLog subscription item amount description)
      (writeLog subscription item' amount description) := by
  unfold writeLog
  rw [h.featureId]
  refine (runsAlike_requestOr (.createUsageLog _) (.createUsageLog _) (R := Eq) ?_).bind
    fun _ _ _ => runsAlike_pure trivial
  intro now s s' hs
  obtain ⟨hrow, hafter⟩ := hs.createUsageLog now
    ⟨subscription.id, item.featureId, amount, some description, none⟩
  exact .ok hrow.symm hafter

theorem runsAlike_warnIfCrossed (h : item.SameLimit item') :
    RunsAlike chance (fun _ _ => True)
      (warnIfCrossed subscription slug item feature amount new)
      (warnIfCrossed subscription slug item' feature amount new) := by
  unfold warnIfCrossed
  split
  · refine (runsAlike_compute _).bind ?_
    rintro previous _ rfl
    rw [crossesThreshold_congr_limit h.limit]
    refine (runsAlike_compute _).bind ?_
    rintro crossed _ rfl
    split
    · exact runsAlike_log.bind fun _ _ _ => runsAlike_publish (.warning h.limit)
    · exact runsAlike_pure trivial
  · exact runsAlike_pure trivial

/-- An increment decides alike at every point, and what it writes does not mention the limit. -/
theorem runsAlike_increment :
    RunsAlike chance Eq (increment subscription slug amount)
      (increment subscription slug amount) := by
  refine runsAlike_findItem.bind ?_
  intro found found' hfound
  cases hfound with
  | none => exact runsAlike_log.bind fun _ _ _ => runsAlike_pure rfl
  | @some a b hab =>
    obtain ⟨item, feature⟩ := a
    obtain ⟨item', feature'⟩ := b
    obtain ⟨hitem, hfeature⟩ := hab
    obtain rfl : feature' = feature := hfeature
    have hitem : item.SameLimit item' := hitem
    have hlimit := enforcedLimit_congr hitem feature'
    simp only
    rw [exceeds_congr hitem hlimit]
    refine (runsAlike_compute _).bind ?_
    rintro exceeded _ rfl
    split
    · exact runsAlike_log.bind fun _ _ _ => runsAlike_pure rfl
    · rw [hitem.id]
      refine (runsAlike_requestOr (.incrementUsage item.id amount (enforcedLimit item feature'))
        (.incrementUsage item.id amount (enforcedLimit item' feature')) (R := Eq)
        fun now _ _ hs => hs.incrementUsage now amount hlimit).bind ?_
      rintro updated _ rfl
      split
      · exact runsAlike_log.bind fun _ _ _ => runsAlike_pure rfl
      · exact (runsAlike_warnIfCrossed hitem).bind fun _ _ _ =>
          (runsAlike_writeLog hitem amount incrementNote).bind fun _ _ _ => runsAlike_pure rfl

theorem check_alike {w w' : World} (hw : w.SameLimits w')
    (hflag : ∀ item feature, w.store.findItem subscription.id slug = some (item, feature) →
      feature.type? ≠ some .boolean) :
    ((Chances.ofCalls chance).run (check subscription slug amount) w').1 =
      ((Chances.ofCalls chance).run (check subscription slug amount) w).1 := by
  have hchance : Chances.ofCalls chance w' = Chances.ofCalls chance w := by
    rw [Chances.ofCalls, Chances.ofCalls, hw.calls]
  unfold check
  simp only [Chances.run_bind, Chances.run_now, Outcome.andThen_done, hchance]
  by_cases hvalid : subscription.isValidAt (Chances.ofCalls chance w).now = true
  · have hfound := @ofReply_alike (.findItem subscription.id slug) (.findItem subscription.id slug)
      (fun found found' => Option.Rel Store.FoundAlike found found' ∧
        found = w.store.findItem subscription.id slug) (Chances.ofCalls chance w) w w' hw
      (.ok ⟨hw.store.findItem subscription.id slug, rfl⟩ hw.store)
    simp only [hvalid, Bool.not_true, Bool.false_eq_true, if_false, Chances.run_bind,
      Chances.run_request, hchance]
    generalize Outcome.ofReply (w.answer _ (.findItem subscription.id slug)) = reply at hfound
    generalize Outcome.ofReply (w'.answer _ (.findItem subscription.id slug)) = reply' at hfound
    obtain ⟨outcome, after⟩ := reply
    obtain ⟨outcome', after'⟩ := reply'
    cases hfound.1 with
    | failed e => rfl
    | halted fault => rfl
    | @done found found' hab =>
      obtain ⟨hrel, hitem⟩ := hab
      cases hrel with
      | none => rfl
      | @some a b hab =>
        obtain ⟨item, feature⟩ := a
        obtain ⟨item', feature'⟩ := b
        obtain ⟨hlimit, rfl⟩ := hab
        have hallows := allows_congr hlimit (hflag item feature' hitem.symm) amount
        simp only [Outcome.andThen_done, hallows]
        cases allows item feature' amount <;> rfl
  · simp [hvalid]

theorem runsAlike_featureRemaining :
    RunsAlike chance (fun left left' => left'.map Decimal.toRat = left.map Decimal.toRat)
      (featureRemaining subscription slug) (featureRemaining subscription slug) := by
  refine runsAlike_findItem.bind ?_
  intro found found' hfound
  cases hfound with
  | none => exact runsAlike_pure rfl
  | @some a b hab =>
    have hleft := remaining_congr hab.1
    intro w w' hw
    simp only
    cases hremaining : a.1.remaining <;> cases hremaining' : b.1.remaining <;>
      simp [hremaining, hremaining', Except.map] at hleft
    · rw [hleft]
      exact ⟨.halted _, hw⟩
    · exact ⟨.done hleft, hw⟩

/-- The stores differ in the scales of printed values at most. -/
structure StoreRescaled (s s' : Store) : Prop where
  others : s' = { s with items := s'.items }
  items : List.Forall₂ (fun item item' => item' = item ∨ item.Rescaled item') s.items s'.items

theorem StoreRescaled.sameLimits {s s' : Store} (h : StoreRescaled s s') : s.SameLimits s' := by
  refine ⟨h.others, h.items.imp ?_⟩
  rintro item item' (rfl | hscaled)
  · exact .refl _
  · exact hscaled.sameLimit

theorem StoreRescaled.world {w : World} {s' : Store} (h : StoreRescaled w.store s') :
    w.SameLimits (w.withStore s') :=
  ⟨h.sameLimits, rfl, List.forall₂_same.mpr fun event _ => .refl event⟩

theorem eq_of_rel {outcome outcome' : Outcome α} (h : Outcome.Rel Eq outcome outcome') :
    outcome' = outcome := by
  cases h with
  | done hab => rw [hab]
  | failed e => rfl
  | halted fault => rfl

/-- What becomes of limits that are configured as printed decimals. -/
structure PrintedLimits : Prop where
  /-- The decimal is read back, at its scale; a zero comes back without a sign. -/
  read : ∀ (item : SubscriptionItem) (d : Decimal), item.HoldsPrinted d →
    item.limitValue.units = d.units ∧ item.limitValue.scale = d.scale ∧
      (d.isNegativeZero = false → item.limitValue = d)
  checked : ∀ (env : Chances) (w : World) (subscription : Subscription) (slug : String)
    (item : SubscriptionItem) (feature : Feature) (amount d : Decimal),
    w.store.findItem subscription.id slug = some (item, feature) → item.HoldsPrinted d → 0 < d →
    feature.isOfType .limit = true →
    (env.run (check subscription slug amount) w).1 = .done true →
      ∃ new, item.usage.add amount = .ok new ∧ new ≤ d
  incremented : ∀ (env : Chances) (w : World) (subscription : Subscription) (slug : String)
    (item : SubscriptionItem) (feature : Feature) (amount d : Decimal),
    w.store.findItem subscription.id slug = some (item, feature) → item.HoldsPrinted d → 0 < d →
    feature.isOfType .limit = true →
    (env.run (increment subscription slug amount) w).1 = .done true →
      ∃ new, item.usage.add amount = .ok new ∧ new ≤ d
  /-- No interleaving of calls takes a count past the limit. -/
  kept : ∀ (store : Store) (id : Id) (d : Decimal), 0 < d →
    (∀ item ∈ store.items, item.id = id → item.HoldsPrinted d ∧ item.usage ≤ d ∧
      ∀ feature, store.findFeature item.featureId = some feature →
        feature.isOfType .limit = true) →
    ∀ (calls : List UsageCall) (moves : List Move),
      ∀ item ∈ ((UsageCall.pool store calls).run moves).world.store.items,
        item.id = id → item.usage ≤ d
  overLimit : ∀ item item' : SubscriptionItem, item.Rescaled item' → ∀ additional,
    item'.isOverLimit additional = item.isOverLimit additional
  remaining : ∀ item item' : SubscriptionItem, item.Rescaled item' →
    item'.remaining.map (Option.map Decimal.toRat) = item.remaining.map (Option.map Decimal.toRat)
  threshold : ∀ item item' : SubscriptionItem, item.Rescaled item' → ∀ previous current,
    crossesThreshold previous current item'.limitValue =
      crossesThreshold previous current item.limitValue
  /-- A check of anything but a flag says the same. -/
  checksAlike : ∀ (chance : Nat → Chance) (w : World) (s' : Store) (subscription : Subscription)
    (slug : String) (amount : Decimal), StoreRescaled w.store s' →
    (∀ item feature, w.store.findItem subscription.id slug = some (item, feature) →
      feature.type? ≠ some .boolean) →
    ((Chances.ofCalls chance).run (check subscription slug amount) (w.withStore s')).1 =
      ((Chances.ofCalls chance).run (check subscription slug amount) w).1
  /-- An increment ends the same, and leaves the same but for the scales. -/
  incrementsAlike : ∀ (chance : Nat → Chance) (w : World) (s' : Store)
    (subscription : Subscription) (slug : String) (amount : Decimal), StoreRescaled w.store s' →
    ((Chances.ofCalls chance).run (increment subscription slug amount) (w.withStore s')).1 =
        ((Chances.ofCalls chance).run (increment subscription slug amount) w).1 ∧
      ((Chances.ofCalls chance).run (increment subscription slug amount) w).2.SameLimits
        ((Chances.ofCalls chance).run (increment subscription slug amount) (w.withStore s')).2
  remainingAlike : ∀ (chance : Nat → Chance) (w : World) (s' : Store)
    (subscription : Subscription) (slug : String), StoreRescaled w.store s' →
    Outcome.Rel (fun left left' => left'.map Decimal.toRat = left.map Decimal.toRat)
      ((Chances.ofCalls chance).run (featureRemaining subscription slug) w).1
      ((Chances.ofCalls chance).run (featureRemaining subscription slug) (w.withStore s')).1

theorem printedLimits : PrintedLimits where
  read := by
    intro item d h
    rw [h.limitValue_eq]
    exact ⟨rfl, rfl, Decimal.withZeroSign_eq_self⟩
  checked := fun _ _ _ _ _ _ _ _ => fits_of_check
  incremented := fun _ _ _ _ _ _ _ _ => fits_of_increment
  kept := fun _ _ _ => usage_le_printed
  overLimit := fun _ _ h => isOverLimit_congr h.sameLimit
  remaining := fun _ _ h => remaining_congr h.sameLimit
  threshold := fun _ _ h => crossesThreshold_congr_limit h.sameLimit.limit
  checksAlike := fun _ _ _ _ _ _ h => check_alike h.world
  incrementsAlike := by
    intro chance w s' subscription slug amount h
    obtain ⟨houtcome, hafter⟩ := runsAlike_increment w (w.withStore s') h.world
    exact ⟨eq_of_rel houtcome, hafter⟩
  remainingAlike := fun _ w s' _ _ h => (runsAlike_featureRemaining w (w.withStore s') h.world).1

/-! A flag is on if its value is the text `1`, and `1.0` is another text. -/

def flagFeature : Feature := { raceFeature with typeWord := "boolean" }

def flagItem (value : String) : SubscriptionItem := { raceItem with value := some value }

def flagWorld (value : String) : World :=
  { store := { raceStore with features := [flagFeature], items := [flagItem value] } }

theorem run_check_flag {value : String} {allowed : Bool}
    (hallows : allows (flagItem value) flagFeature 1 = .ok allowed) :
    (calmChances.run (check openSubscription "api-calls" 1) (flagWorld value)).1 =
      .done allowed := by
  have hfound : (flagWorld value).store.findItem openSubscription.id "api-calls" =
      some (flagItem value, flagFeature) := rfl
  have hvalid : openSubscription.isValidAt (calmChances (flagWorld value)).now = true := by
    change openSubscription.isValidAt .first = true
    decide +kernel
  obtain ⟨checked, hcheck, -⟩ := run_check calm_calmChances hvalid hfound hallows
  rw [hcheck]

theorem flag_of_rescaled :
    StoreRescaled (flagWorld "1").store (flagWorld "1.0").store ∧
      (calmChances.run (check openSubscription "api-calls" 1) (flagWorld "1")).1 = .done true ∧
      (calmChances.run (check openSubscription "api-calls" 1) (flagWorld "1.0")).1 =
        .done false := by
  have hscaled : (flagItem "1").Rescaled (flagItem "1.0") := by
    refine ⟨rfl, 1, ⟨10, 1, by decide, by decide, false, by simp⟩, ?_, ?_, by decide⟩
    · exact ⟨"1", rfl, [], [], nofun, nofun, by decide +kernel⟩
    · exact ⟨"1.0", rfl, [], [], nofun, nofun, by decide +kernel⟩
  exact ⟨⟨rfl, .cons (.inr hscaled) .nil⟩, run_check_flag (by decide +kernel),
    run_check_flag (by decide +kernel)⟩

end Usage

end RecurringBilling
