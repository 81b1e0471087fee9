import RecurringBilling.Proofs.Usage.Accounting
import RecurringBilling.Proofs.Usage.Allowance

/-! Counters and the log of use. Whatever complete calls are made one after the other, the entries
since the last reset of an item add up to its count. -/

namespace RecurringBilling

variable {s : Store} {item : SubscriptionItem} {now : Instant} {usage : Decimal}

namespace UsageCall

/-- Whether the call resets the item. -/
def resets (s : Store) (id : Id) : UsageCall → Bool
  | increment .. => false
  | reset subscription slug => (s.findItem subscription.id slug).any (·.1.id == id)
  | resetAll subscription => (s.item? id).any (·.subscriptionId == subscription.id)

/-- Whether what the call counts is counted without rounding and without overflow. -/
def IsExact (s : Store) : UsageCall → Prop
  | increment subscription slug amount => ∀ item feature,
    s.findItem subscription.id slug = some (item, feature) → Usage.IsExact item feature amount
  | reset .. | resetAll _ => True

/-- The world after a call, which meets what it meets. -/
def next (w : World) (use : Chances × UsageCall) : World := (use.1.run use.2.procedure w).2

/-- The world after calls that are made one after the other. -/
def after (w : World) (uses : List (Chances × UsageCall)) : World := uses.foldl next w

/-- No request of the calls is refused, and what they count is exact. -/
def RunExactly : World → List (Chances × UsageCall) → Prop
  | _, [] => True
  | w, use :: rest => use.1.Calm ∧ use.2.IsExact w.store ∧ RunExactly (next w use) rest

/-- How many entries the log had when the item was last reset, as many as at the start if it never
was. -/
def lastReset (id : Id) : World → List (Chances × UsageCall) → Nat → Nat
  | _, [], start => start
  | w, use :: rest, start => lastReset id (next w use) rest
    (if use.2.resets w.store id then w.store.usageLogs.length else start)

/-- The amounts of the entries for the item, from some place in the log on. -/
def loggedFrom (start : Nat) (s : Store) (item : SubscriptionItem) : ℚ :=
  Increment.loggedFor item ((s.usageLogs.map (·.toNewUsageLog)).drop start)

/-- The log explains the counts: each item has counted what was logged for it from its start on. -/
structure Explains (start : Id → Nat) (s : Store) : Prop where
  ids : (s.items.map (·.id)).Nodup
  features : (s.items.map fun item => (item.subscriptionId, item.featureId)).Nodup
  starts : ∀ id, start id ≤ s.usageLogs.length
  counts : ∀ item ∈ s.items, item.usage.toRat = loggedFrom (start item.id) s item

variable {start start' : Id → Nat} {w : World} {subscription : Subscription} {slug : String}

open Usage

theorem loggedFrom_logging {k : Nat} (hk : k ≤ s.usageLogs.length) (now : Instant)
    (row : NewUsageLog) (item : SubscriptionItem) :
    loggedFrom k (s.logging now row) item = loggedFrom k s item +
      if row.subscriptionId = item.subscriptionId ∧ row.featureId = item.featureId
      then row.amount.toRat else 0 := by
  have hdrop : ((s.logging now row).usageLogs.map (·.toNewUsageLog)).drop k =
      (s.usageLogs.map (·.toNewUsageLog)).drop k ++ [row] := by
    rw [Store.usageLogs_logging, List.drop_append_of_le_length (by simpa using hk)]
  rw [loggedFrom, loggedFrom, hdrop]
  by_cases hrow : row.subscriptionId = item.subscriptionId ∧ row.featureId = item.featureId
  · simp [Increment.loggedFor, hrow]
  · simp [Increment.loggedFor, hrow]

theorem loggedFrom_end (s : Store) (item : SubscriptionItem) :
    loggedFrom s.usageLogs.length s item = 0 := by
  rw [loggedFrom, List.drop_of_length_le (by simp)]
  rfl

/-- An item that is set to a count and an entry for it, from which the count follows. -/
theorem Explains.counted (h : Explains start s) (hitem : item ∈ s.items) {new : Decimal}
    (row : NewUsageLog) (hrow : row.subscriptionId = item.subscriptionId ∧
      row.featureId = item.featureId) (now now' : Instant) {k : Nat} (hk : k ≤ s.usageLogs.length)
    (hcount : new.toRat = loggedFrom k s item + row.amount.toRat) :
    Explains (Function.update start item.id k) ((s.withUsage now item.id new).logging now' row) := by
  have hlength : ((s.withUsage now item.id new).logging now' row).usageLogs.length =
      s.usageLogs.length + 1 := by
    simp [Store.logging, Store.createUsageLog, Store.withUsage]
  have hlogged {k : Nat} (hk : k ≤ s.usageLogs.length) (x : SubscriptionItem) :
      loggedFrom k ((s.withUsage now item.id new).logging now' row) x = loggedFrom k s x +
        if row.subscriptionId = x.subscriptionId ∧ row.featureId = x.featureId
        then row.amount.toRat else 0 :=
    @loggedFrom_logging (s.withUsage now item.id new) k hk now' row x
  refine ⟨?_, ?_, ?_, ?_⟩
  · change ((s.items.map _).map _).Nodup
    rw [Store.map_setUsage _ fun _ => rfl]
    exact h.ids
  · change ((s.items.map _).map _).Nodup
    rw [Store.map_setUsage _ fun _ => rfl]
    exact h.features
  · intro id
    rw [hlength]
    by_cases hid : id = item.id
    · subst hid
      rw [Function.update_self]
      omega
    · have hstart := h.starts id
      rw [Function.update_of_ne hid]
      omega
  · intro x hx
    obtain ⟨y, hy, rfl⟩ := List.mem_map.mp hx
    by_cases hid : y.id = item.id
    · obtain rfl := List.inj_on_of_nodup_map h.ids hy hitem hid
      rw [if_pos rfl]
      change new.toRat = loggedFrom (Function.update start y.id k y.id) _ y
      rw [Function.update_self]
      exact hcount.trans (by rw [hlogged hk, if_pos hrow])
    -- No two items have the same subscription and feature, so the entry is for this one alone.
    · have hother : ¬ (row.subscriptionId = y.subscriptionId ∧ row.featureId = y.featureId) := by
        intro hsame
        have hkey : (y.subscriptionId, y.featureId) = (item.subscriptionId, item.featureId) :=
          Prod.ext (hsame.1.symm.trans hrow.1) (hsame.2.symm.trans hrow.2)
        exact hid (congrArg (·.id) (List.inj_on_of_nodup_map h.features hy hitem hkey))
      rw [if_neg hid, Function.update_of_ne hid, hlogged (h.starts y.id), if_neg hother,
        add_zero]
      exact h.counts y hy

theorem Explains.clearedAll (h : Explains start s) (now : Instant) (subscriptionId : Id) :
    Explains (fun id => if (s.item? id).any (·.subscriptionId == subscriptionId)
      then s.usageLogs.length else start id) (s.resetAllUsage now subscriptionId).2 := by
  refine ⟨?_, ?_, ?_, ?_⟩
  · change ((s.items.map _).map _).Nodup
    rw [Store.map_setUsage _ fun _ => rfl]
    exact h.ids
  · change ((s.items.map _).map _).Nodup
    rw [Store.map_setUsage _ fun _ => rfl]
    exact h.features
  · intro id
    change _ ≤ s.usageLogs.length
    split
    · exact le_rfl
    · exact h.starts id
  · intro x hx
    obtain ⟨y, hy, rfl⟩ := List.mem_map.mp hx
    have hfound := Store.item?_of_mem h.ids hy
    by_cases hon : y.subscriptionId = subscriptionId
    -- Nothing is logged, but from its end on the log has nothing either.
    · rw [if_pos hon]
      change (0 : Decimal).toRat = loggedFrom (if (s.item? y.id).any _ then _ else _) s y
      rw [hfound, Option.any_some, if_pos (by simpa using hon), loggedFrom_end, Decimal.toRat_zero]
    · rw [if_neg hon]
      change y.usage.toRat = loggedFrom (if (s.item? y.id).any _ then _ else _) s y
      rw [hfound, Option.any_some, if_neg (by simpa using hon)]
      exact h.counts y hy

/-- Where each item starts after a call. -/
def restarted (w : World) (use : Chances × UsageCall) (start : Id → Nat) : Id → Nat :=
  fun id => if use.2.resets w.store id then w.store.usageLogs.length else start id

theorem run_map {α β : Type} (env : Chances) (f : α → β) (p : Procedure α) (w : World) :
    env.run (f <$> p) w = ((env.run p w).1.map f, (env.run p w).2) := by
  change env.run (p >>= fun a => pure (f a)) w = _
  rw [Chances.run_bind]
  exact Outcome.andThen_map f (env.run p w).1 (env.run p w).2

theorem restarted_of_found {env : Chances} {feature : Feature}
    (hfound : w.store.findItem subscription.id slug = some (item, feature)) :
    restarted w (env, .reset subscription slug) start =
      Function.update start item.id w.store.usageLogs.length := by
  funext id
  simp only [restarted, resets, hfound, Option.any_some]
  by_cases hid : id = item.id
  · simp [hid]
  · simp [hid, Ne.symm hid]

/-- A complete call comes to its end, and the log still explains the counts. -/
theorem Explains.next {env : Chances} {call : UsageCall} (h : Explains start w.store)
    (hcalm : env.Calm) (hexact : call.IsExact w.store) :
    (∃ answer, (env.run call.procedure w).1 = .done answer) ∧
      Explains (restarted w (env, call) start) (next w (env, call)).store := by
  cases call with
  | increment subscription slug amount =>
    have hstarts : restarted w (env, .increment subscription slug amount) start = start := rfl
    rw [hstarts, UsageCall.next, procedure, run_map]
    cases hfound : w.store.findItem subscription.id slug with
    | none =>
      obtain ⟨w', hrun, hstore⟩ := run_increment_missing hcalm amount hfound
      rw [hrun, hstore]
      exact ⟨⟨_, rfl⟩, h⟩
    | some found =>
      obtain ⟨item, feature⟩ := found
      have hitem := (Store.findItem_eq_some hfound).1
      have hexact := hexact item feature hfound
      obtain ⟨new, hadd, hrat⟩ := Decimal.add_exact hexact.sum
      cases hwithin : (enforcedLimit item feature).any (· < new) with
      | true =>
        obtain ⟨w', hrun, hstore⟩ := run_increment_rejected hcalm hfound hadd hwithin
        rw [hrun, hstore]
        exact ⟨⟨_, rfl⟩, h⟩
      | false =>
        obtain ⟨now, now', w', hrun, hstore⟩ :=
          run_increment_counted hcalm h.ids hfound hexact hadd hwithin
        rw [hrun, hstore]
        have hrow := (Store.subscriptionId_of_findItem hfound).symm
        -- The item starts where it did: its entries so far are what it had counted.
        have hcounted := h.counted hitem
          ⟨subscription.id, item.featureId, amount, some incrementNote, none⟩ ⟨hrow, rfl⟩ now now'
          (h.starts item.id) (hrat.trans (by rw [h.counts item hitem]))
        rw [Function.update_eq_self] at hcounted
        exact ⟨⟨_, rfl⟩, hcounted⟩
  | reset subscription slug =>
    rw [UsageCall.next, procedure, run_map]
    cases hfound : w.store.findItem subscription.id slug with
    | none =>
      obtain ⟨w', hrun, hstore⟩ := run_reset_missing hcalm hfound
      have hstarts : restarted w (env, .reset subscription slug) start = start := by
        funext id
        simp [restarted, resets, hfound]
      rw [hrun, hstore, hstarts]
      exact ⟨⟨_, rfl⟩, h⟩
    | some found =>
      obtain ⟨item, feature⟩ := found
      obtain ⟨now, now', w', hrun, hstore⟩ := run_reset_found hcalm h.ids hfound
      rw [hrun, hstore, restarted_of_found hfound]
      refine ⟨⟨_, rfl⟩, h.counted (Store.findItem_eq_some hfound).1 _
        ⟨(Store.subscriptionId_of_findItem hfound).symm, rfl⟩ now now' le_rfl ?_⟩
      rw [loggedFrom_end, zero_add]
  | resetAll subscription =>
    obtain ⟨now, w', hrun, hstore⟩ := run_resetAll hcalm w subscription
    rw [UsageCall.next, procedure, run_map, hrun, hstore]
    exact ⟨⟨_, rfl⟩, h.clearedAll now subscription.id⟩

theorem Explains.after {uses : List (Chances × UsageCall)} (h : Explains start w.store)
    (hruns : RunExactly w uses) :
    Explains (fun id => lastReset id w uses (start id)) (UsageCall.after w uses).store := by
  induction uses generalizing w start with
  | nil => exact h
  | cons use rest ih =>
    obtain ⟨hcalm, hexact, hrest⟩ := hruns
    exact ih (h.next hcalm hexact).2 hrest

theorem runExactly_append {before rest : List (Chances × UsageCall)} :
    RunExactly w (before ++ rest) ↔ RunExactly w before ∧ RunExactly (after w before) rest := by
  induction before generalizing w with
  | nil => simp [RunExactly, UsageCall.after]
  | cons use before ih => simp only [List.cons_append, RunExactly, ih, and_assoc]; rfl

theorem sameTerms_after (w : World) (uses : List (Chances × UsageCall)) :
    w.store.SameTerms (after w uses).store := by
  induction uses generalizing w with
  | nil => exact .refl _
  | cons use rest ih =>
    obtain ⟨hends, hleads⟩ := use.1.ends_run use.2.procedure w
    exact (hleads.stores.sameTerms (isUse_of_ends hends)).trans (ih (next w use))

/-- What a single call makes of a store, whatever it found. -/
structure ResetsAlone (w : World) : Prop where
  missing : ∀ (env : Chances) (subscription : Subscription) (slug : String), env.Calm →
    w.store.findItem subscription.id slug = none →
    ∃ w', env.run (Usage.reset subscription slug) w = (.done false, w') ∧ w'.store = w.store
  found : ∀ (env : Chances) (subscription : Subscription) (slug : String) (item : SubscriptionItem)
    (feature : Feature), env.Calm →
    w.store.findItem subscription.id slug = some (item, feature) →
    ∃ now entry w', env.run (Usage.reset subscription slug) w = (.done true, w') ∧
      w'.store = { w.store with
        items := w.store.items.map fun x => if x.id = item.id then Store.setUsage now 0 x else x
        usageLogs := w.store.usageLogs ++ [entry]
        created := w.store.created + 1 } ∧
      entry.amount = 0 ∧ entry.subscriptionId = item.subscriptionId ∧
      entry.featureId = item.featureId
  all : ∀ (env : Chances) (subscription : Subscription), env.Calm →
    ∃ now w', env.run (Usage.resetAll subscription) w =
        (.done (w.store.items.filter (·.subscriptionId == subscription.id)).length, w') ∧
      w'.store = { w.store with
        items := w.store.items.map fun x =>
          if x.subscriptionId = subscription.id then Store.setUsage now 0 x else x }

theorem resetsAlone (hids : (w.store.items.map (·.id)).Nodup) : ResetsAlone w where
  missing := fun _ _ _ hcalm hfound => run_reset_missing hcalm hfound
  found := by
    intro env subscription slug item feature hcalm hfound
    obtain ⟨now, now', w', hrun, hstore⟩ := run_reset_found hcalm hids hfound
    exact ⟨now, _, w', hrun, hstore, rfl, (Store.subscriptionId_of_findItem hfound).symm, rfl⟩
  all := fun _ subscription hcalm => run_resetAll hcalm w subscription

/-- Items that are yet to be used: nothing is counted or logged, and each is the only one of its
subscription and feature. -/
structure Fresh (s : Store) : Prop where
  ids : (s.items.map (·.id)).Nodup
  features : (s.items.map fun item => (item.subscriptionId, item.featureId)).Nodup
  unused : ∀ item ∈ s.items, item.usage.toRat = 0
  unlogged : s.usageLogs = []

theorem Fresh.explains (h : Fresh s) : Explains (fun _ => 0) s where
  ids := h.ids
  features := h.features
  starts := fun _ => Nat.zero_le _
  counts := by
    intro item hitem
    simp [h.unused item hitem, loggedFrom, Increment.loggedFor, h.unlogged]

/-- The account of complete calls on fresh items. -/
structure Accounted (store : Store) (uses : List (Chances × UsageCall)) : Prop where
  completed : ∀ before use rest, uses = before ++ use :: rest →
    ∃ answer, (use.1.run use.2.procedure (after { store := store } before)).1 = .done answer
  terms : store.SameTerms (after { store := store } uses).store
  /-- The count of each item is the sum of its entries since it was last reset. -/
  counts : ∀ item ∈ (after { store := store } uses).store.items, item.usage.toRat =
    loggedFrom (lastReset item.id { store := store } uses 0) (after { store := store } uses).store
      item
  resets : ResetsAlone (after { store := store } uses)

/-- Since only the entries after a reset count, it does not matter that one kind of reset is not
logged. -/
theorem log_explains_counts {store : Store} (hfresh : Fresh store)
    {uses : List (Chances × UsageCall)} (hruns : RunExactly { store := store } uses) :
    Accounted store uses := by
  have hstart : Explains (fun _ => 0) ({ store := store } : World).store := hfresh.explains
  have hexplains := hstart.after hruns
  refine ⟨?_, sameTerms_after { store := store } uses, hexplains.counts,
    resetsAlone hexplains.ids⟩
  rintro before use rest rfl
  obtain ⟨hbefore, hcalm, hexact, -⟩ := runExactly_append.mp hruns
  exact ((hstart.after hbefore).next hcalm hexact).1

/-! Ten counted after one reset of either kind. -/

def freshItem : SubscriptionItem := { raceItem with usage := 0 }

def freshWorld : World := { store := { raceStore with items := [freshItem] } }

def freshUses : List (Chances × UsageCall) :=
  [(calmChances, .reset openSubscription "api-calls"), (calmChances, .resetAll openSubscription),
    (calmChances, .increment openSubscription "api-calls" raceAmount)]

theorem isExact_fresh : Usage.IsExact freshItem raceFeature raceAmount where
  sum := ⟨raceAmount, by norm_num [Decimal.toRat, freshItem, raceAmount, Decimal.whole]; rfl⟩
  quotients := by
    intro _ new hadd _
    obtain rfl : raceAmount = new := by
      refine Except.ok.inj (Eq.trans ?_ hadd)
      decide +kernel
    exact ⟨false, by decide +kernel⟩

theorem runExactly_fresh : RunExactly freshWorld freshUses := by
  refine ⟨calm_calmChances, trivial, calm_calmChances, trivial, calm_calmChances, ?_, trivial⟩
  intro item feature hfound
  obtain ⟨rfl, rfl⟩ : freshItem = item ∧ raceFeature = feature := by
    have hitem : (after freshWorld (freshUses.take 2)).store.findItem openSubscription.id
        "api-calls" = some (freshItem, raceFeature) := rfl
    simpa using hitem.symm.trans hfound
  exact isExact_fresh

theorem log_explains_counts_fresh :
    Fresh freshWorld.store ∧ RunExactly freshWorld freshUses ∧
      Accounted freshWorld.store freshUses ∧
      (after freshWorld freshUses).store.items.map (·.usage) = [raceAmount] ∧
      (after freshWorld freshUses).store.usageLogs.map (·.amount) = [0, raceAmount] ∧
      lastReset freshItem.id freshWorld freshUses 0 = 1 := by
  have hfresh : Fresh freshWorld.store := by
    refine ⟨by decide, by decide, ?_, rfl⟩
    intro item hitem
    obtain rfl : item = freshItem := by simpa [freshWorld] using hitem
    exact Decimal.toRat_zero
  exact ⟨hfresh, runExactly_fresh, log_explains_counts hfresh runExactly_fresh, rfl, rfl, rfl⟩

end UsageCall

end RecurringBilling
