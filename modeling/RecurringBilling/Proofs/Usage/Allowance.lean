import RecurringBilling.Proofs.Usage.CompleteCalls

/-! What an item allows. A check, the look of an increment before its update, and the update itself
each decide on their own whether an amount may be used; the item says for itself whether an amount
is too much and how much is left. The first three agree, and so do the last two. But a stored value
that reads as zero or less means no limit to the first three and nothing left to the last two. -/

namespace RecurringBilling

namespace Usage

open Chances

variable {env : Chances} {w : World} {subscription : Subscription} {slug : String}
  {item : SubscriptionItem} {feature : Feature} {amount new : Decimal}

theorem enforcedLimit_eq_none (h : feature.isOfType .limit = true → item.limitValue ≤ 0) :
    enforcedLimit item feature = none := by
  have hno : ¬ (feature.isOfType .limit = true ∧ 0 < item.limitValue) :=
    fun hboth => Decimal.not_lt.mpr (h hboth.1) hboth.2
  simpa [enforcedLimit] using hno

/-- A check allows no more than an increment accepts, and no less where it looks at the limit. -/
theorem allows_eq_ok (feature : Feature) (hadd : item.usage.add amount = .ok new) :
    ∃ allowed, allows item feature amount = .ok allowed ∧
      (allowed = true → (enforcedLimit item feature).any (· < new) = false) ∧
      (feature.isActive = true → feature.type? ≠ some .boolean →
        allowed = !(enforcedLimit item feature).any (· < new)) := by
  cases hactive : feature.isActive with
  | false => exact ⟨false, by simp [allows, hactive, pure, Except.pure], by simp, by simp⟩
  | true =>
    by_cases hlimited : feature.type? = some .limit
    · have hof : feature.isOfType .limit = true := by simp [Feature.isOfType, hlimited]
      by_cases hpos : 0 < item.limitValue
      · have hlimit : ¬ item.limitValue ≤ 0 := Decimal.not_le.mpr hpos
        refine ⟨decide (new ≤ item.limitValue), ?_, ?_, ?_⟩
        · simp [allows, hactive, hlimited, hlimit, hadd, bind, Except.bind, pure, Except.pure]
        · simp [enforcedLimit_eq_some hpos hof, Decimal.not_lt]
        · simp [enforcedLimit_eq_some hpos hof, ← Decimal.not_lt]
      · have hnolimit : item.limitValue ≤ 0 := Decimal.not_lt.mp hpos
        refine ⟨true, ?_, ?_, ?_⟩
        · simp [allows, hactive, hlimited, hnolimit, pure, Except.pure]
        · simp [enforcedLimit_eq_none fun _ => hnolimit]
        · simp [enforcedLimit_eq_none fun _ => hnolimit]
    · -- an increment keeps no limit here, so that a check can only be the stricter of the two
      have hno : feature.isOfType .limit = false := by simpa [Feature.isOfType] using hlimited
      have hnone : enforcedLimit item feature = none := enforcedLimit_eq_none (by simp [hno])
      by_cases hflag : feature.type? = some .boolean
      · refine ⟨item.isEnabled, ?_, by simp [hnone], by simp [hflag]⟩
        simp [allows, hactive, hflag, pure, Except.pure]
      · refine ⟨true, ?_, by simp [hnone], by simp [hnone]⟩
        simp [allows, hactive, pure, Except.pure]

theorem isOverLimit_eq_ok (hadd : item.usage.add amount = .ok new) :
    ∃ exceeded, item.isOverLimit amount = .ok exceeded ∧
      (exceeded = false ↔ item.value = none ∨ new ≤ item.limitValue) := by
  cases hvalue : item.value with
  | none => exact ⟨false, by simp [SubscriptionItem.isOverLimit, hvalue], by simp⟩
  | some raw =>
    refine ⟨decide (item.limitValue < new), ?_, by simp [Decimal.not_lt]⟩
    simp [SubscriptionItem.isOverLimit, hvalue, hadd, bind, Except.bind, pure, Except.pure]

theorem remaining_eq_ok
    (hdifference : Decimal.Representable (item.limitValue.toRat - item.usage.toRat)) :
    ∃ left, item.remaining = .ok left ∧ (left = none ↔ item.value = none) ∧
      ∀ amount, 0 < amount → ((∀ rest, left = some rest → amount ≤ rest) ↔
        item.value = none ∨ item.usage.toRat + amount.toRat ≤ item.limitValue.toRat) := by
  cases hvalue : item.value with
  | none => exact ⟨none, by simp [SubscriptionItem.remaining, hvalue], by simp, by simp⟩
  | some raw =>
    obtain ⟨difference, hsub, hrat⟩ := Decimal.sub_exact hdifference
    refine ⟨some (max difference 0), ?_, by simp, ?_⟩
    · simp [SubscriptionItem.remaining, hvalue, hsub, bind, Except.bind, pure, Except.pure]
    · intro amount hpos
      -- the floor at zero covers no amount that is above zero
      have hle : amount ≤ max difference 0 ↔
          item.usage.toRat + amount.toRat ≤ item.limitValue.toRat := by
        rw [Decimal.le_max_zero_iff hpos, Decimal.le_iff_toRat_le, hrat]
        exact le_sub_iff_add_le'
      simpa using hle

theorem within_enforcedLimit_iff (item : SubscriptionItem) (new : Decimal)
    (hlimited : feature.isOfType .limit = true) :
    (!(enforcedLimit item feature).any (· < new)) = true ↔
      item.limitValue ≤ 0 ∨ new ≤ item.limitValue := by
  by_cases hlimit : 0 < item.limitValue
  · simp [enforcedLimit_eq_some hlimit hlimited, Decimal.not_lt, Decimal.not_le.mpr hlimit]
  · have hle : item.limitValue ≤ 0 := Decimal.not_lt.mp hlimit
    simp [enforcedLimit_eq_none fun _ => hle, hle]

/-- A value that is missing and one that is not positive are taken alike, unless the amount is
within the value anyhow. -/
theorem unlimited_iff (new : Decimal) :
    ((item.limitValue ≤ 0 ∨ new ≤ item.limitValue) ↔
        item.value = none ∨ new ≤ item.limitValue) ↔
      item.value = none ∨ 0 < item.limitValue ∨ new ≤ item.limitValue := by
  -- a missing value is read as a limit of zero, which is no limit to a check
  have hzero : item.value = none → item.limitValue ≤ 0 := by
    intro hvalue
    have hlimit : item.limitValue = 0 := by simp [SubscriptionItem.limitValue, hvalue]
    rw [hlimit]
    decide
  by_cases hle : item.limitValue ≤ 0
  · simp [hle, Decimal.not_lt.mpr hle]
  · have hvalue : item.value ≠ none := fun hnone => hle (hzero hnone)
    simp [hle, hvalue, Decimal.not_le.mp hle]

section

variable (hcalm : env.Calm)

include hcalm

theorem run_check (hvalid : subscription.isValidAt (env w).now = true) {allowed : Bool}
    (hfound : w.store.findItem subscription.id slug = some (item, feature))
    (hallows : allows item feature amount = .ok allowed) :
    ∃ checked, env.run (check subscription slug amount) w = (.done allowed, checked) ∧
      checked.store = w.store := by
  obtain ⟨w', ha, hstore⟩ := answered_findItem (w := w) hcalm subscription slug
  rw [hfound] at ha
  exact ⟨w', by simp [check, hvalid, ha, hallows], hstore⟩

theorem run_increment (hids : (w.store.items.map (·.id)).Nodup)
    (hfound : w.store.findItem subscription.id slug = some (item, feature))
    (hexact : IsExact item feature amount) (hadd : item.usage.add amount = .ok new) :
    ∃ counted, env.run (increment subscription slug amount) w =
      (.done (!(enforcedLimit item feature).any (· < new)), counted) := by
  cases hwithin : (enforcedLimit item feature).any (· < new) with
  | true =>
    obtain ⟨w', hrun, _⟩ := run_increment_rejected hcalm hfound hadd hwithin
    exact ⟨w', hrun⟩
  | false =>
    obtain ⟨_, _, w', hrun, _⟩ := run_increment_counted hcalm hids hfound hexact hadd hwithin
    exact ⟨w', hrun⟩

theorem run_featureRemaining {left : Option Decimal}
    (hfound : w.store.findItem subscription.id slug = some (item, feature))
    (hleft : item.remaining = .ok left) :
    ∃ w', env.run (featureRemaining subscription slug) w = (.done left, w') := by
  obtain ⟨w', ha, _⟩ := answered_findItem (w := w) hcalm subscription slug
  rw [hfound] at ha
  exact ⟨w', by simp [featureRemaining, item?, ha, hleft]⟩

end

/-- A check and an increment right after it, for a subscription that is valid. Where the check says
yes the increment counts, and for a feature that is active and no flag the check says yes nowhere
else, whatever the value of the item. -/
theorem check_predicts_increment (hids : (w.store.items.map (·.id)).Nodup)
    (hvalid : subscription.isValidAt (env w).now = true) (hcalm : env.Calm)
    (hexact : ∀ item feature, w.store.findItem subscription.id slug = some (item, feature) →
      IsExact item feature amount) :
    ∃ allowed accepted checked counted,
      env.run (check subscription slug amount) w = (.done allowed, checked) ∧
      env.run (increment subscription slug amount) checked = (.done accepted, counted) ∧
      (allowed = true → accepted = true) ∧
      ((∀ item feature, w.store.findItem subscription.id slug = some (item, feature) →
        feature.isActive = true ∧ feature.type? ≠ some .boolean) → allowed = accepted) := by
  cases hfound : w.store.findItem subscription.id slug with
  | none =>
    obtain ⟨w', ha, hstore⟩ := answered_findItem (w := w) hcalm subscription slug
    obtain ⟨w'', ha', _⟩ := answered_findItem (w := w') hcalm subscription slug
    rw [hfound] at ha
    rw [hstore, hfound] at ha'
    refine ⟨false, false, w', w'', ?_, ?_, by simp, by simp⟩
    · simp [check, hvalid, ha]
    · simp [increment, ha']
  | some found =>
    obtain ⟨item, feature⟩ := found
    obtain ⟨new, hadd, _⟩ := Decimal.add_exact (hexact item feature hfound).sum
    obtain ⟨allowed, hallows, hle, heq⟩ := allows_eq_ok feature hadd
    obtain ⟨checked, hchecked, hstore⟩ := run_check hcalm hvalid hfound hallows
    obtain ⟨counted, hcounted⟩ := run_increment (w := checked) hcalm (hstore ▸ hids)
      (hstore ▸ hfound) (hexact item feature hfound) hadd
    refine ⟨allowed, _, checked, counted, hchecked, hcounted, ?_, ?_⟩
    · intro hallowed
      simp [hle hallowed]
    · intro hkind
      obtain ⟨hactive, hflag⟩ := hkind item feature rfl
      exact heq hactive hflag

def openSubscription : Subscription :=
  { subscriberType := "user", subscriberId := .ofNat 5, packageId := .ofNat 6, status := "active"
    startsAt := .first, endsAt := none, trialEndsAt := none, cancelledAt := none
    cancellationReason := none, autoRenew := true, metadata := none, id := .ofNat 2
    createdAt := .first, updatedAt := .first, deletedAt := none }

def calmChances : Chances := fun _ => { now := .first }

def raceWorld : World := { store := raceStore }

theorem calm_calmChances : calmChances.Calm := fun _ => rfl

/-- Ten more than ninety of a hundred. -/
theorem isExact_race : IsExact raceItem raceFeature raceAmount where
  sum := ⟨.hundred, by norm_num [Decimal.toRat, Decimal.hundred, Decimal.whole, raceItem,
    raceAmount]⟩
  quotients := by
    intro _ new hadd _
    obtain rfl : Decimal.hundred = new := by
      refine Except.ok.inj (Eq.trans ?_ hadd)
      decide +kernel
    exact ⟨false, by decide +kernel⟩

theorem check_predicts_increment_race :
    (raceWorld.store.items.map (·.id)).Nodup ∧
      openSubscription.isValidAt (calmChances raceWorld).now = true ∧ calmChances.Calm ∧
      (∀ item feature, raceWorld.store.findItem openSubscription.id "api-calls" =
        some (item, feature) → IsExact item feature raceAmount) ∧
      ∃ checked counted,
        calmChances.run (check openSubscription "api-calls" raceAmount) raceWorld =
          (.done true, checked) ∧
        calmChances.run (increment openSubscription "api-calls" raceAmount) checked =
          (.done true, counted) := by
  have hids : (raceWorld.store.items.map (·.id)).Nodup := by decide
  have hvalid : openSubscription.isValidAt (calmChances raceWorld).now = true := by decide +kernel
  have hfound : raceWorld.store.findItem openSubscription.id "api-calls" =
      some (raceItem, raceFeature) := rfl
  have hexact : ∀ item feature, raceWorld.store.findItem openSubscription.id "api-calls" =
      some (item, feature) → IsExact item feature raceAmount := by
    intro item feature hitem
    obtain ⟨rfl, rfl⟩ : raceItem = item ∧ raceFeature = feature := by
      simpa using hfound.symm.trans hitem
    exact isExact_race
  refine ⟨hids, hvalid, calm_calmChances, hexact, ?_⟩
  obtain ⟨allowed, accepted, checked, counted, hcheck, hincrement, hle, _⟩ :=
    check_predicts_increment hids hvalid calm_calmChances hexact
  have hallowed : (calmChances.run (check openSubscription "api-calls" raceAmount) raceWorld).1 =
      .done true := rfl
  obtain rfl : allowed = true := by simpa [hcheck] using hallowed
  obtain rfl := hle rfl
  exact ⟨checked, counted, hcheck, hincrement⟩

/-- What is said of an amount: by a check, by an increment, and by the item itself. -/
structure Views where
  allowed : Bool
  accepted : Bool
  exceeded : Bool
  left : Option Decimal

namespace Views

structure Of (env : Chances) (w : World) (subscription : Subscription) (slug : String)
    (item : SubscriptionItem) (amount : Decimal) (v : Views) : Prop where
  allowed : (env.run (check subscription slug amount) w).1 = .done v.allowed
  accepted : (env.run (increment subscription slug amount) w).1 = .done v.accepted
  exceeded : item.isOverLimit amount = .ok v.exceeded
  left : item.remaining = .ok v.left
  told : (env.run (featureRemaining subscription slug) w).1 = .done v.left

def Covers (amount : Decimal) (v : Views) : Prop := ∀ left, v.left = some left → amount ≤ left

def Agree (amount : Decimal) (v : Views) : Prop :=
  (v.allowed = true ↔ v.exceeded = false) ∧ (v.accepted = true ↔ v.exceeded = false) ∧
    (v.Covers amount ↔ v.exceeded = false)

end Views

theorem views_agree_iff (hids : (w.store.items.map (·.id)).Nodup)
    (hvalid : subscription.isValidAt (env w).now = true) (hcalm : env.Calm)
    (hfound : w.store.findItem subscription.id slug = some (item, feature))
    (hactive : feature.isActive = true) (hlimited : feature.isOfType .limit = true)
    (hpos : 0 < amount) (hexact : IsExact item feature amount)
    (hdifference : Decimal.Representable (item.limitValue.toRat - item.usage.toRat)) :
    ∃ v : Views, v.Of env w subscription slug item amount ∧
      v.allowed = v.accepted ∧ (v.Covers amount ↔ v.exceeded = false) ∧
      (v.left = none ↔ item.value = none) ∧ (item.limitValue ≤ 0 → v.allowed = true) ∧
      (v.Agree amount ↔ item.value = none ∨ 0 < item.limitValue ∨
        item.usage.toRat + amount.toRat ≤ item.limitValue.toRat) := by
  obtain ⟨new, hadd, hnew⟩ := Decimal.add_exact hexact.sum
  have htype : feature.type? = some .limit := by simpa [Feature.isOfType] using hlimited
  obtain ⟨allowed, hallows, _, hequal⟩ := allows_eq_ok feature hadd
  obtain rfl := hequal hactive (by simp [htype])
  obtain ⟨checked, hchecked, _⟩ := run_check hcalm hvalid hfound hallows
  obtain ⟨counted, hcounted⟩ := run_increment hcalm hids hfound hexact hadd
  obtain ⟨exceeded, hover, hunder⟩ := isOverLimit_eq_ok hadd
  obtain ⟨left, hleft, hnone, hcovers⟩ := remaining_eq_ok hdifference
  obtain ⟨told, htold⟩ := run_featureRemaining hcalm hfound hleft
  have hpermitted := within_enforcedLimit_iff item new hlimited
  -- a check and an increment of this feature come down to one Boolean
  generalize (!(enforcedLimit item feature).any (· < new)) = permitted at *
  have hsum : item.usage.toRat + amount.toRat ≤ item.limitValue.toRat ↔
      new ≤ item.limitValue := by
    rw [Decimal.le_iff_toRat_le, hnew]
  have hcovers := hcovers amount hpos
  rw [hsum] at hcovers ⊢
  refine ⟨⟨permitted, permitted, exceeded, left⟩, ?_, rfl, ?_, hnone, ?_, ?_⟩
  · exact ⟨by rw [hchecked], by rw [hcounted], hover, hleft, by rw [htold]⟩
  · exact hcovers.trans hunder.symm
  · exact fun hle => hpermitted.mpr (.inl hle)
  · rw [← unlimited_iff]
    simp only [Views.Agree, Views.Covers, hpermitted, hunder, hcovers, iff_self, and_true,
      and_self]

theorem views_agree_iff_race :
    (raceWorld.store.items.map (·.id)).Nodup ∧
      openSubscription.isValidAt (calmChances raceWorld).now = true ∧ calmChances.Calm ∧
      raceWorld.store.findItem openSubscription.id "api-calls" = some (raceItem, raceFeature) ∧
      raceFeature.isActive = true ∧ raceFeature.isOfType .limit = true ∧ 0 < raceAmount ∧
      IsExact raceItem raceFeature raceAmount ∧
      Decimal.Representable (raceItem.limitValue.toRat - raceItem.usage.toRat) ∧
      ∃ v : Views, v.Of calmChances raceWorld openSubscription "api-calls" raceItem raceAmount ∧
        v.Agree raceAmount := by
  have hids : (raceWorld.store.items.map (·.id)).Nodup := by decide
  have hvalid : openSubscription.isValidAt (calmChances raceWorld).now = true := by decide +kernel
  have hfound : raceWorld.store.findItem openSubscription.id "api-calls" =
      some (raceItem, raceFeature) := rfl
  have hlimited : raceFeature.isOfType .limit = true := by decide +kernel
  have hamount : 0 < raceAmount := by decide
  have hlimit : raceItem.limitValue = .hundred := by decide +kernel
  have hdifference : Decimal.Representable (raceItem.limitValue.toRat - raceItem.usage.toRat) := by
    rw [hlimit]
    exact ⟨.whole 10 (by decide), by
      norm_num [Decimal.toRat, Decimal.hundred, Decimal.whole, raceItem]⟩
  obtain ⟨v, hof, _, _, _, _, hagree⟩ := views_agree_iff hids hvalid calm_calmChances hfound rfl
    hlimited hamount isExact_race hdifference
  have hpos : 0 < raceItem.limitValue := by
    rw [hlimit]
    decide
  exact ⟨hids, hvalid, calm_calmChances, hfound, rfl, hlimited, hamount, isExact_race, hdifference, v,
    hof, hagree.mpr (.inr (.inl hpos))⟩

/-! An item whose value is zero. -/

def zeroItem : SubscriptionItem := { raceItem with value := some "0", usage := 0 }

def zeroWorld : World := { store := { raceStore with items := [zeroItem] } }

def zeroViews : Views := ⟨true, true, true, some 0⟩

theorem allowed_and_none_left :
    zeroViews.Of calmChances zeroWorld openSubscription "api-calls" zeroItem 1 ∧
      ¬ zeroViews.Agree 1 := by
  refine ⟨⟨rfl, rfl, by decide +kernel, by decide +kernel, rfl⟩, ?_⟩
  simp [Views.Agree, zeroViews]

end Usage

end RecurringBilling
