import RecurringBilling.Proofs.Usage.Calls

/-! Warnings of increments and resets at the same time. A call takes the count before its update
from the count after it, so that it sees the step that the update made, whatever happened since its
read. The steps tile the history of the count, and only one of those between two resets can cross
the threshold upwards. -/

namespace RecurringBilling

open Usage

namespace Decimal

variable {usage usage' limit : Decimal}

/-- Whether the rounded quotient of a count and its limit is less than four fifths. -/
def IsBelow (usage limit : Decimal) : Prop :=
  (usage.div limit).toOption.any fun quotient => quotient < warningThreshold

def HasReached (usage limit : Decimal) : Prop :=
  (usage.div limit).toOption.any fun quotient => warningThreshold ≤ quotient

instance (usage limit : Decimal) : Decidable (usage.IsBelow limit) :=
  inferInstanceAs (Decidable (_ = true))

instance (usage limit : Decimal) : Decidable (usage.HasReached limit) :=
  inferInstanceAs (Decidable (_ = true))

theorem isBelow_iff :
    usage.IsBelow limit ↔
      ∃ quotient, usage.div limit = .ok quotient ∧ quotient < warningThreshold := by
  cases h : usage.div limit <;> simp [IsBelow, h, Except.toOption]

theorem hasReached_iff :
    usage.HasReached limit ↔
      ∃ quotient, usage.div limit = .ok quotient ∧ warningThreshold ≤ quotient := by
  cases h : usage.div limit <;> simp [HasReached, h, Except.toOption]

theorem isBelow_congr (h : usage.toRat = usage'.toRat) :
    usage.IsBelow limit ↔ usage'.IsBelow limit := by
  rw [IsBelow, IsBelow, div_congr h]

/-- What has reached the threshold is not below it, nor is anything greater. -/
theorem HasReached.not_isBelow (h : usage.HasReached limit) (hpos : 0 < limit)
    (hle : usage ≤ usage') : ¬ usage'.IsBelow limit := by
  intro hbelow
  obtain ⟨quotient, hquotient, hreached⟩ := hasReached_iff.mp h
  obtain ⟨quotient', hquotient', hlt⟩ := isBelow_iff.mp hbelow
  have hmono := div_mono hle hpos hquotient hquotient'
  rw [le_iff_toRat_le] at hreached hmono
  rw [lt_iff_toRat_lt] at hlt
  linarith

end Decimal

namespace Usage

theorem crossesThreshold_eq_ok {previous current limit : Decimal} {crossed : Bool}
    (hpos : 0 < limit) (h : crossesThreshold previous current limit = .ok crossed) :
    (∃ quotient, current.div limit = .ok quotient) ∧
      (crossed = true ↔ previous.IsBelow limit ∧ current.HasReached limit) := by
  have hpos' : ¬ limit ≤ 0 := Decimal.not_le.mpr hpos
  cases hcurrent : current.div limit with
  | error fault => simp [crossesThreshold, hpos', hcurrent, bind, Except.bind] at h
  | ok quotient =>
    refine ⟨⟨quotient, rfl⟩, ?_⟩
    by_cases hreached : warningThreshold ≤ quotient
    · cases hprevious : previous.div limit with
      | error fault =>
        simp [crossesThreshold, hpos', hcurrent, hreached, hprevious, bind, Except.bind] at h
      | ok before =>
        have hcrossed : decide (before < warningThreshold) = crossed := by
          simpa [crossesThreshold, hpos', hcurrent, hreached, hprevious, bind, Except.bind, pure,
            Except.pure] using h
        simp [← hcrossed, Decimal.isBelow_iff, Decimal.hasReached_iff, hprevious, hcurrent,
          hreached]
    · have hcrossed : false = crossed := by
        simpa [crossesThreshold, hpos', hcurrent, hreached, bind, Except.bind, pure,
          Except.pure] using h
      simp [← hcrossed, Decimal.hasReached_iff, hcurrent, hreached]

end Usage

namespace Addition

variable {limit usage usage' : Decimal} {x : Addition} {xs : List Addition}

def Crosses (limit : Decimal) (x : Addition) : Prop := x.old.IsBelow limit ∧ x.new.HasReached limit

instance (limit : Decimal) (x : Addition) : Decidable (x.Crosses limit) :=
  inferInstanceAs (Decidable (_ ∧ _))

theorem Tile.le (h : Tile usage xs usage') (hexact : ∀ x ∈ xs, x.IsRepresentable)
    (hnonneg : ∀ x ∈ xs, 0 ≤ x.amount) : ∀ x ∈ xs, usage ≤ x.old := by
  induction xs generalizing usage with
  | nil => simp
  | cons x rest ih =>
    obtain ⟨rfl, hadd, hrest⟩ := h
    obtain ⟨hx, hexact⟩ := List.forall_mem_cons.mp hexact
    obtain ⟨hamount, hnonneg⟩ := List.forall_mem_cons.mp hnonneg
    have hnew := new_eq hadd hx
    have hzero := Decimal.le_iff_toRat_le.mp hamount
    have hle : x.old ≤ x.new := by
      rw [Decimal.le_iff_toRat_le]
      rw [Decimal.toRat_zero] at hzero
      linarith
    refine List.forall_mem_cons.mpr ⟨?_, fun y hy => ?_⟩
    · exact Decimal.le_iff_toRat_le.mpr le_rfl
    · have hlater := ih hrest hexact hnonneg y hy
      rw [Decimal.le_iff_toRat_le] at hle hlater ⊢
      exact hle.trans hlater

/-- Once the threshold is reached, no addition crosses it again. -/
theorem Tile.filter_crosses_eq_nil (h : Tile usage xs usage')
    (hexact : ∀ x ∈ xs, x.IsRepresentable) (hnonneg : ∀ x ∈ xs, 0 ≤ x.amount) (hpos : 0 < limit)
    (hreached : usage.HasReached limit) : xs.filter (·.Crosses limit) = [] := by
  rw [List.filter_eq_nil_iff]
  intro x hx hcrosses
  have hbelow := (of_decide_eq_true hcrosses).1
  exact hreached.not_isBelow hpos (h.le hexact hnonneg x hx) hbelow

theorem Tile.length_crosses_le (h : Tile usage xs usage')
    (hexact : ∀ x ∈ xs, x.IsRepresentable) (hnonneg : ∀ x ∈ xs, 0 ≤ x.amount) (hpos : 0 < limit) :
    (xs.filter (·.Crosses limit)).length ≤ 1 := by
  induction xs generalizing usage with
  | nil => simp
  | cons x rest ih =>
    obtain ⟨_, _, hrest⟩ := h
    obtain ⟨_, hexact⟩ := List.forall_mem_cons.mp hexact
    obtain ⟨_, hnonneg⟩ := List.forall_mem_cons.mp hnonneg
    by_cases hcrosses : x.Crosses limit
    · simp [hcrosses, hrest.filter_crosses_eq_nil hexact hnonneg hpos hcrosses.2]
    · simpa [hcrosses] using ih hrest hexact hnonneg

theorem Tile.length_crosses_eq (h : Tile usage xs usage')
    (hexact : ∀ x ∈ xs, x.IsRepresentable) (hnonneg : ∀ x ∈ xs, 0 ≤ x.amount) (hpos : 0 < limit)
    (hquotients : ∀ x ∈ xs, ∃ quotient, x.new.div limit = .ok quotient)
    (hbelow : usage.IsBelow limit) (hreached : usage'.HasReached limit) :
    (xs.filter (·.Crosses limit)).length = 1 := by
  induction xs generalizing usage with
  | nil =>
    obtain rfl : usage' = usage := h
    exact absurd hbelow (hreached.not_isBelow hpos (Decimal.le_iff_toRat_le.mpr le_rfl))
  | cons x rest ih =>
    obtain ⟨rfl, _, hrest⟩ := h
    obtain ⟨_, hexact⟩ := List.forall_mem_cons.mp hexact
    obtain ⟨_, hnonneg⟩ := List.forall_mem_cons.mp hnonneg
    obtain ⟨⟨quotient, hquotient⟩, hquotients⟩ := List.forall_mem_cons.mp hquotients
    by_cases hnew : x.new.HasReached limit
    · have hcrosses : x.Crosses limit := ⟨hbelow, hnew⟩
      simp [hcrosses, hrest.filter_crosses_eq_nil hexact hnonneg hpos hnew]
    · have hcrosses : ¬ x.Crosses limit := fun hcrosses => hnew hcrosses.2
      have hstill : x.new.IsBelow limit := by
        rw [Decimal.isBelow_iff]
        refine ⟨quotient, hquotient, Decimal.not_le.mp fun hge => hnew ?_⟩
        exact Decimal.hasReached_iff.mpr ⟨quotient, hquotient, hge⟩
      simpa [hcrosses] using ih hrest hexact hnonneg hquotients hstill

end Addition

namespace Usage

open Deed

variable {store : Store} {item : SubscriptionItem} {feature : Feature}
  {subscription : Subscription} {slug : String} {amount : Decimal} {deeds : List Deed}
  {o : Outcome Bool}

/-- What a call did that adds to a metered item: it adds at most once, the count has a rounded
quotient afterwards, and it warns exactly if it crosses the threshold. -/
structure WarnsOfCrossing (subscription : Subscription) (item : SubscriptionItem)
    (feature : Feature) (deeds : List Deed) : Prop where
  additions : (additions item.id deeds).length ≤ 1
  quotients : ∀ x ∈ Deed.additions item.id deeds,
    ∃ quotient, x.new.div item.limitValue = .ok quotient
  events : deeds.filterMap event? =
    ((Deed.additions item.id deeds).filter (·.Crosses item.limitValue)).map fun x =>
      .usageLimitWarning subscription feature x.new item.limitValue

theorem warnsOfCrossing (h : (increment subscription slug amount).Ends deeds o)
    (hfinished : ∀ fault, o ≠ .halted fault)
    (hterms : ∀ before after call, .asked before after call ∈ deeds → store.SameTerms before)
    (hitem : store.findItem subscription.id slug = some (item, feature))
    (hmetered : feature.isMetered = true) (hpos : 0 < item.limitValue)
    (hexact : ∀ x ∈ additions item.id deeds, x.IsRepresentable) :
    WarnsOfCrossing subscription item feature deeds := by
  cases increments_of_ends h with
  | idle hidle =>
    have hevents : deeds.filterMap event? = [] :=
      List.filterMap_eq_nil_iff.mpr fun d hd => (hidle d hd).event?
    have hnone := additions_of_idle hidle item.id
    exact ⟨by simp [hnone], by simp [hnone], by simp [hnone, hevents]⟩
  | @counted s before after now found feature' new warnings late logged hread hupdate hwarns
      hlogs =>
    obtain ⟨item', hitem', hsame⟩ := (hterms s s _ List.mem_cons_self).findItem_eq_some hread
    obtain ⟨rfl, rfl⟩ : item' = item ∧ feature' = feature := by
      simpa using hitem'.symm.trans hitem
    have hid : found.id = item'.id := (congrArg (·.id) hsame).symm
    have hvalue : found.value = item'.value := (congrArg (·.value) hsame).symm
    have hlimit : found.limitValue = item'.limitValue := by
      rw [SubscriptionItem.limitValue, SubscriptionItem.limitValue, hvalue]
    obtain ⟨old, _, _, hold, hadd, _⟩ := Store.incrementUsage_eq_some hupdate
    rw [additions_of_counted hlogs hwarns hold, if_pos hid] at hexact
    have hnew := Addition.new_eq (x := ⟨found.id, old.usage, amount, new⟩) hadd (hexact _ (by simp))
    have hwarned := hwarns
    cases hwarned with
    | unmetered hunmetered => simp [hmetered] at hunmetered
    | @checked previous crossed _ hprevious hcrossed =>
      -- the count before the update is the difference, in whatever form that is written
      have hprevious : previous.toRat = old.usage.toRat := by
        have hdifference : new.toRat - amount.toRat = old.usage.toRat := by linarith
        obtain ⟨_, hsub, hrat⟩ := Decimal.sub_exact (hdifference ▸ old.usage.representable_toRat)
        obtain rfl := Except.ok.inj (hsub.symm.trans hprevious)
        exact hrat.trans hdifference
      rw [hlimit] at hcrossed
      obtain ⟨hquotient, hcrosses⟩ := crossesThreshold_eq_ok hpos hcrossed
      rw [Decimal.isBelow_congr hprevious] at hcrosses
      refine ⟨?_, ?_, ?_⟩ <;> rw [additions_of_counted hlogs hwarns hold, if_pos hid]
      · simp
      · simpa using hquotient
      · rw [events_of_counted hlogs]
        cases crossed with
        | true =>
          have hx : Addition.Crosses item'.limitValue ⟨found.id, old.usage, amount, new⟩ :=
            hcrosses.mp rfl
          simp [hx, hlimit]
        | false =>
          have hx : ¬ Addition.Crosses item'.limitValue ⟨found.id, old.usage, amount, new⟩ :=
            fun hx => by simpa using hcrosses.mpr hx
          simp [hx]
  | halted _ _ fault => exact absurd rfl (hfinished fault)

/-- The deeds that count an item up, of the calls that warn. -/
def warners (id : Id) (deeds during : List (Nat × Deed)) : List (Nat × Deed) :=
  during.filter fun d =>
    !(additions id [d.2]).isEmpty && !((Deed.of d.1 deeds).filterMap event?).isEmpty

/-- A stretch of an interleaving between two stores, in which an item is not reset and nothing is
taken off its count. -/
structure Stretch (store : Store) (id : Id) (deeds during : List (Nat × Deed)) (s s' : Store) :
    Prop where
  within : ∃ before after, deeds = before ++ during ++ after ∧
    Chained store (before.map (·.2)) s
  chained : Chained s (during.map (·.2)) s'
  unreset : ∀ d ∈ during, d.2.resets id = false
  amounts : ∀ x ∈ additions id (during.map (·.2)), 0 ≤ x.amount

/-- The warnings for an item are those of the updates that take its count across the threshold. -/
structure WarnsAtCrossings (store : Store) (item : SubscriptionItem) (calls : List UsageCall)
    (deeds : List (Nat × Deed)) : Prop where
  warning : ∀ (i : Nat) subscription slug amount feature,
    calls[i]? = some (.increment subscription slug amount) →
    store.findItem subscription.id slug = some (item, feature) →
    WarnsOfCrossing subscription item feature (Deed.of i deeds)
  caller : ∀ i d, (i, d) ∈ deeds → additions item.id [d] ≠ [] →
    ∃ subscription slug amount feature,
      calls[i]? = some (.increment subscription slug amount) ∧
        store.findItem subscription.id slug = some (item, feature)
  once : ∀ during s s', Stretch store item.id deeds during s s' →
    (warners item.id deeds during).length ≤ 1
  reached : ∀ during s s' old new, Stretch store item.id deeds during s s' →
    s.item? item.id = some old → s'.item? item.id = some new →
    old.usage.IsBelow item.limitValue → new.usage.HasReached item.limitValue →
    (warners item.id deeds during).length = 1

theorem isUse_of_mem_deeds (store : Store) (calls : List UsageCall) (moves : List Move) :
    ∀ d ∈ ((UsageCall.pool store calls).deeds moves).map (·.2), d.IsUse :=
  Pool.forall_deeds_map fun _ _ _ => isUse_of_ends

section

variable {calls : List UsageCall} {moves : List Move} {outcomes : List (Outcome UsageAnswer)}
  (hended : ((UsageCall.pool store calls).run moves).calls = outcomes.map .ended)

include hended

theorem ends_of_increment {i : Nat}
    (hcall : calls[i]? = some (.increment subscription slug amount)) :
    ∃ answer o, outcomes[i]? = some answer ∧ answer = o.map .incremented ∧
      (increment subscription slug amount).Ends
        (Deed.of i ((UsageCall.pool store calls).deeds moves)) o := by
  obtain ⟨answer, hanswer, hends⟩ := Pool.ends_map hended hcall
  obtain ⟨o, hends, ho⟩ := hends.map
  exact ⟨answer, o, hanswer, ho, hends⟩

theorem caller_of_addition (hids : (store.items.map (·.id)).Nodup) (hitem : item ∈ store.items)
    {i : Nat} {d : Deed} (hd : (i, d) ∈ (UsageCall.pool store calls).deeds moves)
    (hadds : additions item.id [d] ≠ []) :
    ∃ subscription slug amount feature, calls[i]? = some (.increment subscription slug amount) ∧
      store.findItem subscription.id slug = some (item, feature) := by
  have hlt : i < calls.length := Pool.lt_of_mem_deeds_map hd
  have hd := mem_of.mpr hd
  obtain ⟨x, hx⟩ := List.exists_mem_of_ne_nil _ hadds
  have hnone (h : d.addition? = none) : False := hadds (by simp [additions_singleton, h])
  obtain ⟨call, hcall⟩ : ∃ call, calls[i]? = some call := ⟨_, List.getElem?_eq_getElem hlt⟩
  obtain ⟨answer, _, hends⟩ := Pool.ends_map hended hcall
  cases call with
  | increment subscription slug amount =>
    obtain ⟨o, hends, _⟩ := hends.map
    obtain ⟨s, found, feature, hread, hid, hmem⟩ := (increments_of_ends hends).read_of_additions
      (List.ne_nil_of_mem (mem_additions_of_mem hx hd))
    obtain ⟨item', hitem', hsame⟩ :=
      (sameTerms_of_pool (isUse_of_mem_deeds store calls moves) hmem).findItem_eq_some hread
    have hid' : item'.id = item.id := (congrArg (·.id) hsame).trans hid
    have hmem' := (Store.findItem_eq_some hitem').1
    exact ⟨subscription, slug, amount, feature, hcall,
      List.inj_on_of_nodup_map hids hmem' hitem hid' ▸ hitem'⟩
  | reset subscription slug =>
    obtain ⟨o, hends, _⟩ := hends.map
    exact (hnone (isUse_of_ends_reset hends d hd).2).elim
  | resetAll subscription =>
    obtain ⟨o, hends, _⟩ := hends.map
    exact (hnone (isUse_of_ends_resetAll hends d hd).2).elim

end

/-- As often as the threshold is crossed in a stretch, a call warns that crossed it there. -/
theorem length_warners {calls : List UsageCall} {deeds : List (Nat × Deed)}
    (hwarning : ∀ (i : Nat) subscription slug amount feature,
      calls[i]? = some (.increment subscription slug amount) →
      store.findItem subscription.id slug = some (item, feature) →
      WarnsOfCrossing subscription item feature (Deed.of i deeds))
    (hcaller : ∀ i d, (i, d) ∈ deeds → additions item.id [d] ≠ [] →
      ∃ subscription slug amount feature,
        calls[i]? = some (.increment subscription slug amount) ∧
          store.findItem subscription.id slug = some (item, feature))
    {during : List (Nat × Deed)} (hduring : ∀ d ∈ during, d ∈ deeds) :
    (warners item.id deeds during).length =
      ((additions item.id (during.map (·.2))).filter (·.Crosses item.limitValue)).length := by
  induction during with
  | nil => rfl
  | cons d rest ih =>
    obtain ⟨hd, hrest⟩ := List.forall_mem_cons.mp hduring
    rw [List.map_cons, additions_cons, List.filter_append, List.length_append, ← ih hrest]
    cases hadded : d.2.addition?.filter (·.item = item.id) with
    | none =>
      have hadds : additions item.id [d.2] = [] := by rw [additions_singleton, hadded]; rfl
      simp [warners, hadds]
    | some x =>
      have hadds : additions item.id [d.2] = [x] := by rw [additions_singleton, hadded]; rfl
      obtain ⟨subscription, slug, amount, feature, hcall, hfound⟩ :=
        hcaller d.1 d.2 hd (by simp [hadds])
      obtain ⟨hlength, _, hevents⟩ := hwarning d.1 subscription slug amount feature hcall hfound
      have hx : x ∈ additions item.id (Deed.of d.1 deeds) :=
        mem_additions_of_mem (by simp [hadds]) (mem_of.mpr hd)
      have hof : additions item.id (Deed.of d.1 deeds) = [x] := by
        obtain ⟨y, hy⟩ := List.length_eq_one_iff.mp
          (Nat.le_antisymm hlength (List.length_pos_of_mem hx))
        rw [hy] at hx ⊢
        rw [List.mem_singleton.mp hx]
      rw [hof] at hevents
      by_cases hcrosses : x.Crosses item.limitValue
      · simp [warners, hadds, hevents, hcrosses, Nat.add_comm]
      · simp [warners, hadds, hevents, hcrosses]

theorem Stretch.mem {deeds during : List (Nat × Deed)} {s s' : Store} {id : Id}
    (h : Stretch store id deeds during s s') : ∀ d ∈ during, d ∈ deeds := by
  obtain ⟨before, after, rfl, _⟩ := h.within
  intro d hd
  exact List.mem_append_left _ (List.mem_append_right _ hd)

theorem Stretch.tile {deeds during : List (Nat × Deed)} {s s' : Store} {id : Id}
    (h : Stretch store id deeds during s s') (huse : ∀ d ∈ deeds.map (·.2), d.IsUse)
    (hitem : store.item? id = some item) :
    ∃ old new, s.item? id = some old ∧ s'.item? id = some new ∧
      Addition.Tile old.usage (additions id (during.map (·.2))) new.usage := by
  obtain ⟨before, after, rfl, hbefore⟩ := h.within
  simp only [List.map_append] at huse
  have hterms := hbefore.sameTerms fun d hd =>
    huse d (List.mem_append_left _ (List.mem_append_left _ hd))
  obtain ⟨old, hold⟩ := hterms.item? hitem
  obtain ⟨new, hnew, htile, _⟩ := h.chained.tile
    (fun d hd => huse d (List.mem_append_left _ (List.mem_append_right _ hd)))
    (List.forall_mem_map.mpr h.unreset) hold
  exact ⟨old, new, hold, hnew, htile⟩

/-- However the steps of any increments and resets are interleaved, an increment of a metered item
warns exactly if its own update takes the rounded quotient of the count and the limit to four fifths
or more. Between two resets that happens at most once, and once if the count gets there. -/
theorem warns_at_crossings {store : Store} (hids : (store.items.map (·.id)).Nodup)
    {item : SubscriptionItem} (hitem : item ∈ store.items)
    (hmetered : ∀ feature, store.findFeature item.featureId = some feature → feature.isMetered)
    (hpos : 0 < item.limitValue) (calls : List UsageCall) (moves : List Move)
    (outcomes : List (Outcome UsageAnswer))
    (hended : ((UsageCall.pool store calls).run moves).calls = outcomes.map .ended)
    (hfinished : ∀ o ∈ outcomes, ∀ fault, o ≠ .halted fault)
    (hexact : ∀ x ∈ additions item.id (((UsageCall.pool store calls).deeds moves).map (·.2)),
      x.IsRepresentable) :
    WarnsAtCrossings store item calls ((UsageCall.pool store calls).deeds moves) := by
  have hchain := ((UsageCall.pool store calls).leads_run moves).stores
  have huse := isUse_of_mem_deeds store calls moves
  have hcaller : ∀ i d, (i, d) ∈ (UsageCall.pool store calls).deeds moves →
      additions item.id [d] ≠ [] → ∃ subscription slug amount feature,
        calls[i]? = some (.increment subscription slug amount) ∧
          store.findItem subscription.id slug = some (item, feature) :=
    fun i d => caller_of_addition hended hids hitem
  have hwarning : ∀ (i : Nat) subscription slug amount feature,
      calls[i]? = some (.increment subscription slug amount) →
      store.findItem subscription.id slug = some (item, feature) →
      WarnsOfCrossing subscription item feature
        (Deed.of i ((UsageCall.pool store calls).deeds moves)) := by
    intro i subscription slug amount feature hcall hfound
    obtain ⟨answer, o, hanswer, rfl, hends⟩ := ends_of_increment hended hcall
    have ho : ∀ fault, o ≠ .halted fault := by
      rintro fault rfl
      exact hfinished _ (List.mem_of_getElem? hanswer) fault rfl
    refine warnsOfCrossing hends ho (fun _ _ _ => sameTerms_of_pool huse) hfound
      (hmetered feature (Store.findItem_eq_some hfound).2) hpos fun x hx => hexact x ?_
    obtain ⟨d, hd, hx⟩ := List.mem_filterMap.mp hx
    exact List.mem_filterMap.mpr ⟨d, List.mem_map.mpr ⟨(i, d), mem_of.mp hd, rfl⟩, hx⟩
  have hmem {during : List (Nat × Deed)}
      (hduring : ∀ d ∈ during, d ∈ (UsageCall.pool store calls).deeds moves) {x : Addition}
      (hx : x ∈ additions item.id (during.map (·.2))) :
      ∃ i d, (i, d) ∈ (UsageCall.pool store calls).deeds moves ∧ x ∈ additions item.id [d] := by
    obtain ⟨d, hd, hadds⟩ := List.mem_filterMap.mp hx
    obtain ⟨⟨i, d⟩, hin, rfl⟩ := List.mem_map.mp hd
    exact ⟨i, d, hduring _ hin, List.mem_filterMap.mpr ⟨d, List.mem_singleton_self d, hadds⟩⟩
  have hrepresentable {during : List (Nat × Deed)}
      (hduring : ∀ d ∈ during, d ∈ (UsageCall.pool store calls).deeds moves) :
      ∀ x ∈ additions item.id (during.map (·.2)), x.IsRepresentable := by
    intro x hx
    obtain ⟨i, d, hd, hx⟩ := hmem hduring hx
    exact hexact x (mem_additions_of_mem hx (List.mem_map.mpr ⟨(i, d), hd, rfl⟩))
  refine ⟨hwarning, hcaller, ?_, ?_⟩
  · intro during s s' hstretch
    obtain ⟨old, new, _, _, htile⟩ := hstretch.tile huse (Store.item?_of_mem hids hitem)
    rw [length_warners hwarning hcaller hstretch.mem]
    exact htile.length_crosses_le (hrepresentable hstretch.mem) hstretch.amounts hpos
  · intro during s s' old new hstretch hold hnew hbelow hreached
    obtain ⟨old', new', hold', hnew', htile⟩ :=
      hstretch.tile huse (Store.item?_of_mem hids hitem)
    obtain rfl := Option.some.inj (hold'.symm.trans hold)
    obtain rfl := Option.some.inj (hnew'.symm.trans hnew)
    rw [length_warners hwarning hcaller hstretch.mem]
    refine htile.length_crosses_eq (hrepresentable hstretch.mem) hstretch.amounts hpos ?_
      hbelow hreached
    intro x hx
    obtain ⟨i, d, hd, hx⟩ := hmem hstretch.mem hx
    obtain ⟨subscription, slug, amount, feature, hcall, hfound⟩ :=
      hcaller i d hd (List.ne_nil_of_mem hx)
    exact (hwarning i subscription slug amount feature hcall hfound).quotients x
      (mem_additions_of_mem hx (mem_of.mpr hd))

/-! Both calls read sixty-five of a hundred, and neither sees that the other adds ten as well. The
update that comes second crosses the threshold. -/

def nearItem : SubscriptionItem := { raceItem with usage := .whole 65 (by decide) }

def nearStore : Store := { raceStore with items := [nearItem] }

def nearPool : Pool UsageAnswer := UsageCall.pool nearStore [raceCall, raceCall]

def nearMoves : List Move := [0, 1, 0, 1, 0, 1, 1, 1].map fun call => ⟨call, { now := .first }⟩

def nearOutcomes : List (Outcome UsageAnswer) :=
  [.done (.incremented true), .done (.incremented true)]

theorem warns_at_crossings_near :
    (nearStore.items.map (·.id)).Nodup ∧ nearItem ∈ nearStore.items ∧
      (∀ feature, nearStore.findFeature nearItem.featureId = some feature → feature.isMetered) ∧
      0 < nearItem.limitValue ∧
      (nearPool.run nearMoves).calls = nearOutcomes.map .ended ∧
      (∀ o ∈ nearOutcomes, ∀ fault, o ≠ .halted fault) ∧
      (∀ x ∈ additions nearItem.id ((nearPool.deeds nearMoves).map (·.2)), x.IsRepresentable) ∧
      (nearPool.deeds nearMoves).filterMap (fun d => d.2.event?.map fun _ => d.1) = [1] ∧
      WarnsAtCrossings nearStore nearItem [raceCall, raceCall] (nearPool.deeds nearMoves) := by
  have hids : (nearStore.items.map (·.id)).Nodup := by decide
  have hitem : nearItem ∈ nearStore.items := List.mem_singleton_self _
  have hmetered : ∀ feature, nearStore.findFeature nearItem.featureId = some feature →
      feature.isMetered := by
    intro feature hfeature
    obtain rfl : raceFeature = feature := Option.some.inj hfeature
    decide +kernel
  have hpos : 0 < nearItem.limitValue := by decide +kernel
  have hended : (nearPool.run nearMoves).calls = nearOutcomes.map .ended := rfl
  have hfinished : ∀ o ∈ nearOutcomes, ∀ fault, o ≠ .halted fault := by simp [nearOutcomes]
  have hadditions : additions nearItem.id ((nearPool.deeds nearMoves).map (·.2)) =
      [⟨.ofNat 3, .whole 65 (by decide), .whole 10 (by decide), .whole 75 (by decide)⟩,
        ⟨.ofNat 3, .whole 75 (by decide), .whole 10 (by decide), .whole 85 (by decide)⟩] := rfl
  have hexact : ∀ x ∈ additions nearItem.id ((nearPool.deeds nearMoves).map (·.2)),
      x.IsRepresentable := by
    rw [hadditions]
    refine List.forall_mem_cons.mpr ⟨⟨.whole 75 (by decide), ?_⟩,
      List.forall_mem_cons.mpr ⟨⟨.whole 85 (by decide), ?_⟩, by simp⟩⟩ <;>
      norm_num [Decimal.toRat, Decimal.whole]
  exact ⟨hids, hitem, hmetered, hpos, hended, hfinished, hexact, rfl,
    warns_at_crossings hids hitem hmetered hpos [raceCall, raceCall] nearMoves _ hended hfinished
      hexact⟩

end Usage

end RecurringBilling
