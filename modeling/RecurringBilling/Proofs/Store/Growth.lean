import RecurringBilling.Proofs.Interleaving
import RecurringBilling.Proofs.Store.Rows

/-! How the table of subscriptions grows. Rows are only added at its end, under the identifiers that
come next, and as long as these have not come round no two rows have the same. -/

namespace RecurringBilling

/-- Whether the request can change the table of subscriptions. -/
def Request.writesSubscriptions : Request → Bool
  | createSubscription .. | switchPlan .. | updateSubscription .. => true
  | _ => false

namespace Store

variable {s s' s'' : Store} {now : Instant}

/-- A request that only reads, with an answer that need not be. -/
theorem eq_of_map_eq_ok {α : Type} {x : Except Refusal α} {reply : α}
    (h : x.map (·, s) = .ok (reply, s')) : s' = s := by
  cases x with
  | error refusal => cases h
  | ok listed =>
    cases h
    rfl

theorem answer_of_not_writes {r : Request} {reply : r.Reply} (hr : r.writesSubscriptions = false)
    (h : s.answer now r = .ok (reply, s')) :
    s'.subscriptions = s.subscriptions ∧ s.created ≤ s'.created := by
  cases r with
  | createSubscription row items => cases hr
  | switchPlan id changes row items => cases hr
  | updateSubscription id changes => cases hr
  | listExpiring date autoRenew =>
    obtain rfl := eq_of_map_eq_ok (x := s.expiring date autoRenew) h
    exact ⟨rfl, Nat.le_refl _⟩
  | totalRevenue =>
    obtain rfl := eq_of_map_eq_ok (x := s.totalRevenue) h
    exact ⟨rfl, Nat.le_refl _⟩
  | _ =>
    simp only [answer, upsertFeature, upsertPackage, createFeature, createPackage, syncFeatures,
      incrementUsage, resetUsage, resetAllUsage, createUsageLog, createInvoice, updateInvoice,
      createTransaction, updateTransaction, updated] at h
    repeat' split at h
    all_goals grind

/-- The identifier of the row that is stored after so many others. -/
def idOf (number : Nat) : Id := .ofNat (0xffff000000000000 + number + 1)

theorem idOf_inj {m n : Nat} (hm : m < Id.bound) (hn : n < Id.bound) (h : idOf m = idOf n) :
    m = n := by
  have hvalue : (0xffff000000000000 + m + 1) % Id.bound = (0xffff000000000000 + n + 1) % Id.bound :=
    congrArg Id.value h
  simp only [Id.bound, Nat.pow_eq, Nat.reducePow] at hm hn hvalue
  omega

/-- Subscriptions keep their places, and those that are added have the identifiers that come
next. -/
structure Grows (s s' : Store) : Prop where
  created : s.created ≤ s'.created
  ids : ∃ numbers : List Nat, numbers.Pairwise (· < ·) ∧
    (∀ n ∈ numbers, s.created ≤ n ∧ n < s'.created) ∧
    s'.subscriptions.map (·.id) = s.subscriptions.map (·.id) ++ numbers.map idOf

theorem Grows.of_ids (hcreated : s.created ≤ s'.created)
    (hids : s'.subscriptions.map (·.id) = s.subscriptions.map (·.id)) : s.Grows s' :=
  ⟨hcreated, [], by simp, by simp, by simpa using hids⟩

theorem Grows.refl (s : Store) : s.Grows s := .of_ids (Nat.le_refl _) rfl

theorem Grows.trans (h : s.Grows s') (h' : s'.Grows s'') : s.Grows s'' := by
  obtain ⟨numbers, hsorted, hbounds, hids⟩ := h.ids
  obtain ⟨numbers', hsorted', hbounds', hids'⟩ := h'.ids
  refine ⟨Nat.le_trans h.created h'.created, numbers ++ numbers', ?_, ?_, ?_⟩
  · refine List.pairwise_append.mpr ⟨hsorted, hsorted', ?_⟩
    intro m hm n hn
    have hlt := (hbounds m hm).2
    have hle := (hbounds' n hn).1
    omega
  · intro n hn
    have hcreated := h.created
    have hcreated' := h'.created
    rcases List.mem_append.mp hn with hn | hn
    · have hn := hbounds n hn
      omega
    · have hn := hbounds' n hn
      omega
  · rw [hids', hids, List.map_append, List.append_assoc]

/-- The subscriptions that are added stand behind all others. -/
theorem Grows.ids_drop (h : s.Grows s') : s'.subscriptions.map (·.id) =
    s.subscriptions.map (·.id) ++ (s'.subscriptions.drop s.subscriptions.length).map (·.id) := by
  obtain ⟨numbers, _, _, hids⟩ := h.ids
  have htake := congrArg (List.take (s.subscriptions.map (·.id)).length) hids
  rw [List.take_left, List.length_map, ← List.map_take] at htake
  rw [← htake, ← List.map_append, List.take_append_drop]

theorem foldl_createItem (now : Instant) (rows : List NewSubscriptionItem) (s : Store) :
    ∃ added, rows.foldl (createItem now) s =
        { s with items := s.items ++ added, created := s.created + rows.length } ∧
      added.map (·.toNewSubscriptionItem) = rows := by
  induction rows generalizing s with
  | nil => exact ⟨[], by simp, rfl⟩
  | cons row rest ih =>
    obtain ⟨added, hstore, hadded⟩ := ih (createItem now s row)
    refine ⟨⟨row, s.freshId, now, now⟩ :: added, ?_, by rw [List.map_cons, hadded]⟩
    rw [List.foldl_cons, hstore]
    simp [createItem, Nat.add_comm, Nat.add_left_comm]

theorem subscriptions_foldl_createItem (now : Instant) (rows : List NewSubscriptionItem)
    (s : Store) : (rows.foldl (createItem now) s).subscriptions = s.subscriptions := by
  obtain ⟨added, hstore, _⟩ := foldl_createItem now rows s
  rw [hstore]

theorem le_created_foldl_createItem (now : Instant) (rows : List NewSubscriptionItem) {n : Nat}
    (hn : n ≤ s.created) : n ≤ (rows.foldl (createItem now) s).created := by
  obtain ⟨added, hstore, _⟩ := foldl_createItem now rows s
  rw [hstore]
  exact Nat.le_add_right_of_le hn

theorem subscriptions_createSubscription (s : Store) (now : Instant) (row : NewSubscription)
    (seeds : List ItemSeed) :
    (s.createSubscription now row seeds).2.subscriptions =
      s.subscriptions ++ [(s.createSubscription now row seeds).1] :=
  subscriptions_foldl_createItem ..

theorem grows_createSubscription (s : Store) (now : Instant) (row : NewSubscription)
    (seeds : List ItemSeed) : s.Grows (s.createSubscription now row seeds).2 := by
  have hcreated : s.created + 1 ≤ (s.createSubscription now row seeds).2.created :=
    le_created_foldl_createItem _ _ (Nat.le_refl _)
  refine ⟨Nat.le_of_succ_le hcreated, [s.created], by simp, ?_, ?_⟩
  · intro n hn
    obtain rfl := List.mem_singleton.mp hn
    exact ⟨Nat.le_refl _, hcreated⟩
  · rw [subscriptions_createSubscription, List.map_append]
    rfl

/-- An update changes one row, and neither its place nor its identifier. -/
theorem updateSubscription_eq_ok {id : Id} {changes : SubscriptionChanges} {row : Subscription}
    (h : s.updateSubscription id changes = .ok (row, s')) :
    s' = { s with subscriptions := s'.subscriptions } ∧
      s'.subscriptions.map (·.id) = s.subscriptions.map (·.id) ∧
      ∀ x ∈ s'.subscriptions, x ∈ s.subscriptions ∨
        ∃ old ∈ s.subscriptions, old.id = id ∧ x = changes.apply old := by
  obtain ⟨rows, hm, rfl⟩ := updated_eq_ok h
  refine ⟨rfl, map_modifyFirst? hm _ fun _ => rfl, ?_⟩
  intro x hx
  rcases mem_of_modifyFirst? hm hx with hx | ⟨old, hold, hid, rfl⟩
  · exact .inl hx
  · exact .inr ⟨old, hold, by simpa using hid, rfl⟩

/-- The row that is updated is the first of its identifier. -/
theorem updateSubscription_split {id : Id} {changes : SubscriptionChanges} {row : Subscription}
    (h : s.updateSubscription id changes = .ok (row, s')) :
    ∃ earlier old later, s.subscriptions = earlier ++ old :: later ∧ old.id = id ∧
      (∀ r ∈ earlier, r.id ≠ id) ∧ row = changes.apply old ∧
      s' = { s with subscriptions := earlier ++ row :: later } := by
  obtain ⟨rows, hm, rfl⟩ := updated_eq_ok h
  obtain ⟨earlier, old, later, hold, hfound, rfl, rfl, hfirst⟩ := modifyFirst?_eq_some hm
  exact ⟨earlier, old, later, hold, by simpa using List.find?_some hfound, by simpa using hfirst,
    rfl, rfl⟩

theorem grows_updateSubscription {id : Id} {changes : SubscriptionChanges} {row : Subscription}
    (h : s.updateSubscription id changes = .ok (row, s')) : s.Grows s' := by
  obtain ⟨hstore, hids, _⟩ := updateSubscription_eq_ok h
  exact .of_ids (Nat.le_of_eq (congrArg Store.created hstore).symm) hids

theorem switchPlan_eq_ok {id : Id} {changes : SubscriptionChanges} {row : NewSubscription}
    {seeds : List ItemSeed} {rows : Subscription × Subscription}
    (h : s.switchPlan now id changes row seeds = .ok (rows, s')) :
    ∃ between, s.updateSubscription id changes = .ok (rows.1, between) ∧
      between.createSubscription now row seeds = (rows.2, s') := by
  unfold switchPlan at h
  cases hu : s.updateSubscription id changes with
  | error refusal => simp [hu] at h
  | ok result =>
    obtain ⟨old, between⟩ := result
    simp only [hu, Except.ok.injEq, Prod.mk.injEq] at h
    obtain ⟨rfl, hstore⟩ := h
    exact ⟨between, rfl, Prod.ext rfl hstore⟩

theorem grows_answer {r : Request} {reply : r.Reply} (h : s.answer now r = .ok (reply, s')) :
    s.Grows s' := by
  cases r with
  | createSubscription row items =>
    obtain rfl : (s.createSubscription now row items).2 = s' :=
      congrArg Prod.snd (Except.ok.inj h)
    exact grows_createSubscription s now row items
  | switchPlan id changes row items =>
    obtain ⟨between, hu, hcreated⟩ := switchPlan_eq_ok h
    obtain rfl : (between.createSubscription now row items).2 = s' := congrArg Prod.snd hcreated
    exact (grows_updateSubscription hu).trans (grows_createSubscription ..)
  | updateSubscription id changes => exact grows_updateSubscription h
  | _ =>
    obtain ⟨hsubscriptions, hcreated⟩ := answer_of_not_writes rfl h
    exact .of_ids hcreated (by rw [hsubscriptions])

theorem Grows.nodup (h : s.Grows s') (hnone : s.subscriptions = [])
    (hbound : s'.created ≤ Id.bound) : (s'.subscriptions.map (·.id)).Nodup := by
  obtain ⟨numbers, hsorted, hbounds, hids⟩ := h.ids
  rw [hids, hnone, List.map_nil, List.nil_append]
  refine List.Nodup.map_on ?_ (hsorted.imp Nat.ne_of_lt)
  intro m hm n hn heq
  have hm := (hbounds m hm).2
  have hn := (hbounds n hn).2
  exact idOf_inj (by omega) (by omega) heq

end Store

theorem Procedure.keeps_of_answer {α : Type} {inv : Store → Prop}
    (h : ∀ s now r reply s', inv s → s.answer now r = .ok (reply, s') → inv s')
    (p : Procedure α) : p.Keeps inv fun _ => True := by
  induction p with
  | done a => trivial
  | fail e => trivial
  | halt fault => trivial
  | ask r next ih =>
    refine ⟨fun e => ih _, ?_⟩
    intro now s reply s' hs ha
    exact ⟨h s now r reply s' hs ha, ih _⟩
  | note record next ih => exact ih
  | announce event next ih => exact ih
  | clock next ih => exact fun now => ih now
  | drawNumber next ih => exact fun number => ih number

theorem Chances.grows_run {α : Type} (env : Chances) (p : Procedure α) (w : World) :
    w.store.Grows (env.run p w).2.store := by
  have hkeeps : p.Keeps w.store.Grows fun _ => True :=
    Procedure.keeps_of_answer (fun s now r reply s' hs ha => hs.trans (Store.grows_answer ha)) p
  exact hkeeps.run env (.refl _)

end RecurringBilling
