import RecurringBilling.Proofs.Decimal.Texts
import RecurringBilling.Proofs.Usage.Allowance

/-! Limits that were configured as printed decimals. Such a value is read as the decimal that was
printed, and what an item decides depends on its limit as a number, not on how many places the text
gave to it. -/

namespace RecurringBilling

variable {item item' : SubscriptionItem} {feature : Feature} {amount : Decimal} {d d' : Decimal}

namespace SubscriptionItem

/-- The value is the decimal as it is printed, with blanks around it. -/
def HoldsPrinted (item : SubscriptionItem) (d : Decimal) : Prop :=
  ∃ raw, item.value = some raw ∧ Decimal.IsPrinted raw d

theorem HoldsPrinted.isSome (h : item.HoldsPrinted d) : item.value.isSome = true := by
  obtain ⟨raw, hvalue, -⟩ := h
  rw [hvalue]
  rfl

theorem HoldsPrinted.limitValue_eq (h : item.HoldsPrinted d) :
    item.limitValue = d.withZeroSign false := by
  obtain ⟨raw, hvalue, hprinted⟩ := h
  simp only [limitValue, hvalue]
  rw [hprinted.trim_eq, Decimal.ofText?_text]
  rfl

theorem HoldsPrinted.limitValue_of_pos (h : item.HoldsPrinted d) (hpos : 0 < d) :
    item.limitValue = d := by
  rw [h.limitValue_eq, Decimal.withZeroSign_eq_self]
  cases hzero : d.isNegativeZero with
  | false => rfl
  | true =>
    have hunits := Decimal.units_pos hpos
    rw [d.units_eq_zero hzero] at hunits
    omega

/-- Two items that differ in their values at most, with limits that are the same number. -/
structure SameLimit (item item' : SubscriptionItem) : Prop where
  terms : item' = { item with value := item'.value }
  given : item'.value.isSome = item.value.isSome
  limit : item'.limitValue.toRat = item.limitValue.toRat

theorem SameLimit.refl (item : SubscriptionItem) : item.SameLimit item := ⟨rfl, rfl, rfl⟩

theorem SameLimit.usage (h : item.SameLimit item') : item'.usage = item.usage := by rw [h.terms]

theorem SameLimit.id (h : item.SameLimit item') : item'.id = item.id := by rw [h.terms]

theorem SameLimit.subscriptionId (h : item.SameLimit item') :
    item'.subscriptionId = item.subscriptionId := by rw [h.terms]

theorem SameLimit.featureId (h : item.SameLimit item') : item'.featureId = item.featureId := by
  rw [h.terms]

/-- The two items have values that print one number, each at a scale of its own. -/
structure Rescaled (item item' : SubscriptionItem) : Prop where
  terms : item' = { item with value := item'.value }
  printed : ∃ d d' : Decimal, item.HoldsPrinted d ∧ item'.HoldsPrinted d' ∧ d.Same d'

theorem Rescaled.sameLimit (h : item.Rescaled item') : item.SameLimit item' := by
  obtain ⟨hterms, d, d', hd, hd', hsame⟩ := h
  refine ⟨hterms, by rw [hd.isSome, hd'.isSome], ?_⟩
  rw [hd.limitValue_eq, hd'.limitValue_eq]
  exact (Decimal.units_mul_eq_iff.mp hsame).symm

theorem isOverLimit_congr (h : item.SameLimit item') (additional : Decimal) :
    item'.isOverLimit additional = item.isOverLimit additional := by
  have hlt (new : Decimal) : item'.limitValue < new ↔ item.limitValue < new := by
    rw [Decimal.lt_iff_toRat_lt, Decimal.lt_iff_toRat_lt, h.limit]
  have hgiven := h.given
  simp only [isOverLimit, h.usage, hlt]
  cases hvalue : item.value <;> cases hvalue' : item'.value <;> simp [hvalue, hvalue'] at hgiven ⊢

/-- What is left is the same number, or there is no limit to either, or it is refused for both. -/
theorem remaining_congr (h : item.SameLimit item') :
    item'.remaining.map (Option.map Decimal.toRat) =
      item.remaining.map (Option.map Decimal.toRat) := by
  have hgiven := h.given
  have hsub := Decimal.sub_congr h.limit item.usage
  simp only [remaining, h.usage]
  cases hvalue : item.value <;> cases hvalue' : item'.value <;> simp [hvalue, hvalue'] at hgiven ⊢
  cases hleft : item.limitValue.sub item.usage <;>
    cases hleft' : item'.limitValue.sub item.usage <;>
    simp [hleft, hleft', Except.map] at hsub
  · exact congrArg Except.error hsub
  · exact congrArg (fun q => Except.ok (some q)) (Decimal.max_zero_congr hsub)

end SubscriptionItem

namespace Usage

open SubscriptionItem

theorem crossesThreshold_congr_limit (h : d.toRat = d'.toRat) (previous current : Decimal) :
    crossesThreshold previous current d = crossesThreshold previous current d' := by
  have hle : d ≤ 0 ↔ d' ≤ 0 := by
    rw [Decimal.le_iff_toRat_le, Decimal.le_iff_toRat_le, h]
  simp only [crossesThreshold, hle, Decimal.div_congr_right h]

/-- A flag is read from the text itself, so that it alone may depend on the scale. -/
theorem allows_congr (h : item.SameLimit item') (hflag : feature.type? ≠ some .boolean)
    (amount : Decimal) : allows item' feature amount = allows item feature amount := by
  have hle (a : Decimal) : a ≤ item'.limitValue ↔ a ≤ item.limitValue := by
    rw [Decimal.le_iff_toRat_le, Decimal.le_iff_toRat_le, h.limit]
  have hnone : item'.limitValue ≤ 0 ↔ item.limitValue ≤ 0 := by
    rw [Decimal.le_iff_toRat_le, Decimal.le_iff_toRat_le, h.limit]
  unfold allows
  split
  · rfl
  · split
    · simp only [hnone, hle, h.usage]
    · rename_i hboolean
      exact absurd hboolean hflag
    · rfl

theorem enforcedLimit_congr (h : item.SameLimit item') (feature : Feature) :
    (enforcedLimit item' feature).map Decimal.toRat =
      (enforcedLimit item feature).map Decimal.toRat := by
  have hpos : 0 < item'.limitValue ↔ 0 < item.limitValue := by
    rw [Decimal.lt_iff_toRat_lt, Decimal.lt_iff_toRat_lt, h.limit]
  simp only [enforcedLimit, hpos]
  split
  · exact congrArg some h.limit
  · rfl

/-- An amount passes a limit or not, whatever the scale of the limit. -/
theorem any_lt_congr {limit limit' : Option Decimal}
    (h : limit'.map Decimal.toRat = limit.map Decimal.toRat) (new : Decimal) :
    limit'.any (· < new) = limit.any (· < new) := by
  cases limit <;> cases limit' <;> simp at h ⊢
  rw [Decimal.lt_iff_toRat_lt, Decimal.lt_iff_toRat_lt, h]

theorem exceeds_congr (h : item.SameLimit item') {limit limit' : Option Decimal}
    (hlimit : limit'.map Decimal.toRat = limit.map Decimal.toRat) (amount : Decimal) :
    exceeds item' amount limit' = exceeds item amount limit := by
  cases limit <;> cases limit' <;> simp at hlimit
  · rfl
  · simp only [exceeds, h.usage, Decimal.lt_iff_toRat_lt, hlimit]

/-- A check of a limited feature compares with the decimal that was printed. -/
theorem allows_printed (h : item.HoldsPrinted d) (hpos : 0 < d) (hactive : feature.isActive = true)
    (hlimited : feature.isOfType .limit = true) (amount : Decimal) :
    allows item feature amount = (item.usage.add amount).map fun new => decide (new ≤ d) := by
  have htype : feature.type? = some .limit := by simpa [Feature.isOfType] using hlimited
  have hnot : ¬ d ≤ 0 := Decimal.not_le.mpr hpos
  simp only [allows, hactive, htype, h.limitValue_of_pos hpos, hnot]
  cases item.usage.add amount <;> rfl

theorem enforcedLimit_printed (h : item.HoldsPrinted d) (hpos : 0 < d)
    (hlimited : feature.isOfType .limit = true) : enforcedLimit item feature = some d := by
  have hlimit := h.limitValue_of_pos hpos
  rw [← hlimit] at hpos
  rw [enforcedLimit_eq_some hpos hlimited, hlimit]

theorem exceeds_printed (h : item.HoldsPrinted d) (hpos : 0 < d)
    (hlimited : feature.isOfType .limit = true) (amount : Decimal) :
    exceeds item amount (enforcedLimit item feature) =
      (item.usage.add amount).map fun new => decide (d < new) := by
  rw [enforcedLimit_printed h hpos hlimited]
  cases hadd : item.usage.add amount <;> simp only [exceeds, hadd] <;> rfl

/-! ### Calls -/

section

variable {env : Chances} {w : World} {subscription : Subscription} {slug : String}

theorem ofReply_findItem (env : Chances) (w : World) (subscriptionId : Id) (slug : String) :
    ∃ w', Outcome.ofReply (w.answer (env w) (.findItem subscriptionId slug)) =
        (.done (w.store.findItem subscriptionId slug), w') ∨
      ∃ e, Outcome.ofReply (w.answer (env w) (.findItem subscriptionId slug)) = (.failed e, w') := by
  unfold World.answer
  cases (env w).refusal with
  | some e => exact ⟨_, .inr ⟨_, rfl⟩⟩
  | none => exact ⟨_, .inl rfl⟩

/-- A check that says yes has compared the sum with the decimal that was printed. -/
theorem fits_of_check (hfound : w.store.findItem subscription.id slug = some (item, feature))
    (h : item.HoldsPrinted d) (hpos : 0 < d) (hlimited : feature.isOfType .limit = true)
    (hdone : (env.run (check subscription slug amount) w).1 = .done true) :
    ∃ new, item.usage.add amount = .ok new ∧ new ≤ d := by
  obtain ⟨w', hreply | ⟨e, hreply⟩⟩ := ofReply_findItem env w subscription.id slug
  · by_cases hvalid : subscription.isValidAt (env w).now = true
    · cases hactive : feature.isActive with
      | false => simp [check, hvalid, hreply, hfound, allows, hactive, pure, Except.pure] at hdone
      | true =>
        cases hadd : item.usage.add amount with
        | error fault =>
          simp [check, hvalid, hreply, hfound, allows_printed h hpos hactive hlimited, hadd,
            Except.map] at hdone
        | ok new =>
          refine ⟨new, rfl, ?_⟩
          simpa [check, hvalid, hreply, hfound, allows_printed h hpos hactive hlimited, hadd,
            Except.map] using hdone
    · simp [check, hvalid] at hdone
  · by_cases hvalid : subscription.isValidAt (env w).now = true
    · simp [check, hvalid, hreply] at hdone
    · simp [check, hvalid] at hdone

theorem fits_of_increment (hfound : w.store.findItem subscription.id slug = some (item, feature))
    (h : item.HoldsPrinted d) (hpos : 0 < d) (hlimited : feature.isOfType .limit = true)
    (hdone : (env.run (increment subscription slug amount) w).1 = .done true) :
    ∃ new, item.usage.add amount = .ok new ∧ new ≤ d := by
  obtain ⟨w', hreply | ⟨e, hreply⟩⟩ := ofReply_findItem env w subscription.id slug
  · cases hadd : item.usage.add amount with
    | error fault =>
      simp [increment, hreply, hfound, exceeds_printed h hpos hlimited, hadd, Except.map] at hdone
    | ok new =>
      refine ⟨new, rfl, ?_⟩
      by_cases hover : d < new
      · simp [increment, hreply, hfound, exceeds_printed h hpos hlimited, hadd, Except.map,
          hover] at hdone
      · exact Decimal.not_lt.mp hover
  · simp [increment, hreply] at hdone

end

/-- However the steps of any calls are interleaved, no count passes a printed limit. -/
theorem usage_le_printed {store : Store} {id : Id} (hpos : 0 < d)
    (h : ∀ item ∈ store.items, item.id = id → item.HoldsPrinted d ∧ item.usage ≤ d ∧
      ∀ feature, store.findFeature item.featureId = some feature → feature.isOfType .limit = true)
    (calls : List UsageCall) (moves : List Move) :
    ∀ item ∈ ((UsageCall.pool store calls).run moves).world.store.items,
      item.id = id → item.usage ≤ d := by
  have hlimited : store.Limited id d := by
    intro item hmem hid
    obtain ⟨hprinted, husage, hfeature⟩ := h item hmem hid
    exact ⟨hprinted.limitValue_of_pos hpos, husage, hfeature⟩
  have hpool : (UsageCall.pool store calls).Keeps
      (LimitKept id d (store.items.map (·.id))) := by
    refine ⟨⟨hlimited, rfl⟩, ?_⟩
    intro p hp
    obtain ⟨call, _, rfl⟩ := List.mem_map.mp hp
    exact keeps_procedure hpos call
  intro item hmem hid
  exact ((hpool.run moves).holds.1 item hmem hid).2.1

end Usage

end RecurringBilling
