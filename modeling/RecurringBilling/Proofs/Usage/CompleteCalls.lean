import RecurringBilling.Proofs.Usage.Warnings

/-! Complete calls on a storage that refuses nothing. Each leaves one of four things behind it: all as
it was, a count with its entry, an item that is reset with an entry of nothing, or the items of a
subscription reset with no entry at all. -/

namespace RecurringBilling

variable {s : Store} {item : SubscriptionItem} {now : Instant} {usage : Decimal}

/-! ### Rows -/

theorem modifyFirst?_of_nodup {items : List SubscriptionItem} (hids : (items.map (·.id)).Nodup)
    (hitem : item ∈ items) (f : SubscriptionItem → SubscriptionItem) :
    modifyFirst? (·.id == item.id) f items =
      some (f item, items.map fun x => if x.id = item.id then f x else x) := by
  induction items with
  | nil => exact absurd hitem List.not_mem_nil
  | cons x rest ih =>
    obtain ⟨hx, hrest⟩ := List.nodup_cons.mp hids
    by_cases hid : x.id = item.id
    · obtain rfl : x = item := List.inj_on_of_nodup_map hids List.mem_cons_self hitem hid
      have hothers : (rest.map fun y => if y.id = x.id then f y else y) = rest := by
        refine (List.map_congr_left fun y hy => if_neg fun hsame => hx ?_).trans (List.map_id' rest)
        exact List.mem_map.mpr ⟨y, hy, hsame⟩
      simp [modifyFirst?, hothers]
    · have hmem : item ∈ rest := by
        rcases List.mem_cons.mp hitem with rfl | hmem
        · exact absurd rfl hid
        · exact hmem
      simp [modifyFirst?, hid, ih hrest hmem]

namespace Store

/-- What a count has no part in stays as it is. -/
theorem map_setUsage {β : Type} {items : List SubscriptionItem} {p : SubscriptionItem → Prop}
    [DecidablePred p] (g : SubscriptionItem → β) (hg : ∀ x, g (setUsage now usage x) = g x) :
    (items.map fun x => if p x then setUsage now usage x else x).map g = items.map g := by
  rw [List.map_map]
  refine List.map_congr_left fun x _ => ?_
  rw [Function.comp_apply, apply_ite g, hg, ite_self]

/-- The store with another count for an item. -/
def withUsage (s : Store) (now : Instant) (id : Id) (usage : Decimal) : Store :=
  { s with items := s.items.map fun item => if item.id = id then setUsage now usage item else item }

/-- The store with one more entry in the log. -/
def logging (s : Store) (now : Instant) (row : NewUsageLog) : Store := (s.createUsageLog now row).2

theorem usageLogs_logging (s : Store) (now : Instant) (row : NewUsageLog) :
    (s.logging now row).usageLogs.map (·.toNewUsageLog) =
      s.usageLogs.map (·.toNewUsageLog) ++ [row] := by
  simp [logging, createUsageLog]

section

variable (hids : (s.items.map (·.id)).Nodup) (hitem : item ∈ s.items)

include hids hitem

theorem resetUsage_of_mem (now : Instant) :
    s.resetUsage now item.id = .ok ((), s.withUsage now item.id 0) := by
  rw [resetUsage, modifyFirst?_of_nodup hids hitem]
  rfl

theorem incrementUsage_of_mem (now : Instant) {amount new : Decimal} {limit : Option Decimal}
    (hadd : item.usage.add amount = .ok new) (hwithin : limit.any (· < new) = false) :
    s.incrementUsage now item.id amount limit =
      .ok (some new, s.withUsage now item.id new) := by
  have hfind : s.items.find? (·.id == item.id) = some item := item?_of_mem hids hitem
  simp only [incrementUsage, hfind, hadd, hwithin, modifyFirst?_of_nodup hids hitem]
  rfl

end

end Store

namespace Usage

open Chances

variable {env : Chances} {w : World} {subscription : Subscription} {slug : String}
  {feature : Feature} {amount new : Decimal}

theorem crossesThreshold_congr {previous previous' : Decimal}
    (h : previous.toRat = previous'.toRat) (current limit : Decimal) :
    crossesThreshold previous current limit = crossesThreshold previous' current limit := by
  rw [crossesThreshold, crossesThreshold, Decimal.div_congr h]

theorem exceeds_eq_ok (hadd : item.usage.add amount = .ok new) (limit : Option Decimal) :
    exceeds item amount limit = .ok (limit.any (· < new)) := by
  cases limit with
  | none => rfl
  | some limit => simp [exceeds, hadd, bind, Except.bind, pure, Except.pure]

/-- Whether a use is counted as it is, without rounding, and the quotients exist that are compared
with the threshold if it is accepted. -/
structure IsExact (item : SubscriptionItem) (feature : Feature) (amount : Decimal) : Prop where
  sum : Decimal.Representable (item.usage.toRat + amount.toRat)
  quotients : feature.isMetered = true → ∀ new, item.usage.add amount = .ok new →
    (enforcedLimit item feature).any (· < new) = false →
      ∃ crossed, crossesThreshold item.usage new item.limitValue = .ok crossed

theorem run_warnIfCrossed (env : Chances) (w : World) (subscription : Subscription) (slug : String)
    (hexact : IsExact item feature amount) (hadd : item.usage.add amount = .ok new)
    (hwithin : (enforcedLimit item feature).any (· < new) = false) :
    ∃ w', env.run (warnIfCrossed subscription slug item feature amount new) w = (.done (), w') := by
  unfold warnIfCrossed
  by_cases hmetered : feature.isMetered = true
  · have hnew : new.toRat - amount.toRat = item.usage.toRat := by
      obtain ⟨sum, hsum, hrat⟩ := Decimal.add_exact hexact.sum
      obtain rfl := Except.ok.inj (hsum.symm.trans hadd)
      linarith
    obtain ⟨previous, hprevious, hrat⟩ :=
      Decimal.sub_exact (hnew ▸ item.usage.representable_toRat)
    obtain ⟨crossed, hcrossed⟩ := hexact.quotients hmetered new hadd hwithin
    rw [← crossesThreshold_congr (hrat.trans hnew)] at hcrossed
    rw [if_pos hmetered, hprevious, run_bind, run_compute_ok, Outcome.andThen_done, hcrossed]
    cases crossed <;> simp
  · rw [if_neg hmetered]
    exact ⟨w, rfl⟩

theorem store_warnIfCrossed (env : Chances) (w : World) (subscription : Subscription)
    (slug : String) (item : SubscriptionItem) (feature : Feature) (amount new : Decimal) :
    (env.run (warnIfCrossed subscription slug item feature amount new) w).2.store = w.store := by
  unfold warnIfCrossed
  split
  · cases hsub : new.sub amount with
    | error fault => simp
    | ok previous =>
      cases hcrossed : crossesThreshold previous new item.limitValue with
      | error fault => simp [hcrossed]
      | ok crossed => cases crossed <;> simp [hcrossed, World.announced]
  · rfl

section

variable (hcalm : env.Calm)

include hcalm

theorem answered_findItem (subscription : Subscription) (slug : String) :
    ∃ w', w.answer (env w) (.findItem subscription.id slug) =
      (.ok (.ok (w.store.findItem subscription.id slug)), w') ∧ w'.store = w.store :=
  hcalm.answer rfl

theorem run_log (w : World) (subscription : Subscription) (item : SubscriptionItem)
    (amount : Decimal) (description : String) :
    ∃ now w', env.run (writeLog subscription item amount description) w = (.done (), w') ∧
      w'.store = w.store.logging now
        ⟨subscription.id, item.featureId, amount, some description, none⟩ := by
  obtain ⟨w', ha, hstore⟩ := hcalm.answer (w := w) (r := .createUsageLog
    ⟨subscription.id, item.featureId, amount, some description, none⟩) rfl
  exact ⟨_, w', by simp [writeLog, ha], hstore⟩

theorem run_increment_missing (amount : Decimal)
    (hfound : w.store.findItem subscription.id slug = none) :
    ∃ w', env.run (increment subscription slug amount) w = (.done false, w') ∧
      w'.store = w.store := by
  obtain ⟨w', ha, hstore⟩ := answered_findItem (w := w) hcalm subscription slug
  rw [hfound] at ha
  exact ⟨w', by simp [increment, ha], hstore⟩

theorem run_increment_rejected
    (hfound : w.store.findItem subscription.id slug = some (item, feature))
    (hadd : item.usage.add amount = .ok new)
    (hover : (enforcedLimit item feature).any (· < new) = true) :
    ∃ w', env.run (increment subscription slug amount) w = (.done false, w') ∧
      w'.store = w.store := by
  obtain ⟨w', ha, hstore⟩ := answered_findItem (w := w) hcalm subscription slug
  rw [hfound] at ha
  exact ⟨w', by simp [increment, ha, exceeds_eq_ok hadd, hover], hstore⟩

theorem run_increment_counted (hids : (w.store.items.map (·.id)).Nodup)
    (hfound : w.store.findItem subscription.id slug = some (item, feature))
    (hexact : IsExact item feature amount) (hadd : item.usage.add amount = .ok new)
    (hwithin : (enforcedLimit item feature).any (· < new) = false) :
    ∃ now now' w', env.run (increment subscription slug amount) w = (.done true, w') ∧
      w'.store = (w.store.withUsage now item.id new).logging now'
        ⟨subscription.id, item.featureId, amount, some incrementNote, none⟩ := by
  obtain ⟨w', ha, hstore⟩ := answered_findItem (w := w) hcalm subscription slug
  rw [hfound] at ha
  have hmem := (Store.findItem_eq_some hfound).1
  have hupdate := Store.incrementUsage_of_mem hids hmem (env w').now hadd hwithin
  rw [← hstore] at hupdate
  obtain ⟨updated, hupdated, hcounted⟩ := hcalm.answer (w := w')
    (r := .incrementUsage item.id amount (enforcedLimit item feature)) hupdate
  obtain ⟨warned, hwarned⟩ := run_warnIfCrossed env updated subscription slug hexact hadd hwithin
  have hkept := store_warnIfCrossed env updated subscription slug item feature amount new
  rw [hwarned] at hkept
  obtain ⟨now', logged, hlogged, hlog⟩ := run_log hcalm warned subscription item amount incrementNote
  refine ⟨(env w').now, now', logged, ?_, ?_⟩
  · simp [increment, ha, exceeds_eq_ok hadd, hwithin, hupdated, hwarned, hlogged]
  · rw [hlog, show warned.store = updated.store from hkept, hcounted, hstore]

theorem run_reset_missing (hfound : w.store.findItem subscription.id slug = none) :
    ∃ w', env.run (reset subscription slug) w = (.done false, w') ∧ w'.store = w.store := by
  obtain ⟨w', ha, hstore⟩ := answered_findItem (w := w) hcalm subscription slug
  rw [hfound] at ha
  exact ⟨w', by simp [reset, ha], hstore⟩

theorem run_reset_found (hids : (w.store.items.map (·.id)).Nodup)
    (hfound : w.store.findItem subscription.id slug = some (item, feature)) :
    ∃ now now' w', env.run (reset subscription slug) w = (.done true, w') ∧
      w'.store = (w.store.withUsage now item.id 0).logging now'
        ⟨subscription.id, item.featureId, 0, some resetNote, none⟩ := by
  obtain ⟨w', ha, hstore⟩ := answered_findItem (w := w) hcalm subscription slug
  rw [hfound] at ha
  have hupdate := Store.resetUsage_of_mem hids (Store.findItem_eq_some hfound).1 (env w').now
  rw [← hstore] at hupdate
  obtain ⟨updated, hupdated, hcleared⟩ := hcalm.answer (w := w') (r := .resetUsage item.id) hupdate
  obtain ⟨now', logged, hlogged, hlog⟩ := run_log hcalm updated subscription item 0 resetNote
  refine ⟨(env w').now, now', logged, ?_, ?_⟩
  · simp [reset, ha, hupdated, hlogged]
  · rw [hlog, hcleared, hstore]

theorem run_resetAll (w : World) (subscription : Subscription) :
    ∃ now w', env.run (resetAll subscription) w =
        (.done (w.store.resetAllUsage now subscription.id).1, w') ∧
      w'.store = (w.store.resetAllUsage now subscription.id).2 := by
  obtain ⟨w', ha, hstore⟩ := hcalm.answer (w := w) (r := .resetAllUsage subscription.id) rfl
  exact ⟨_, w', by simp [resetAll, ha, Store.resetAllUsage], hstore⟩

end

end Usage

end RecurringBilling
