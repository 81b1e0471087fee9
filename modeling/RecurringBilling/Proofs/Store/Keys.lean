import RecurringBilling.Proofs.Store.Growth
import RecurringBilling.Proofs.Usage.Deeds

/-! Rows stay and keep their keys, and new ones come behind. So a store in which no two rows have
the same identifier has come from stores of which that holds too. -/

namespace RecurringBilling

/-- Whether the request can change the table of items. -/
def Request.writesItems : Request → Bool
  | createSubscription .. | switchPlan .. | incrementUsage .. | resetUsage _
  | resetAllUsage _ => true
  | _ => false

/-- Whether the request can make a subscription. -/
def Request.makesSubscription : Request → Bool
  | createSubscription .. | switchPlan .. => true
  | _ => false

namespace Store

variable {s s' s'' : Store} {now : Instant}

theorem items_of_not_writes {r : Request} {reply : r.Reply} (hr : r.writesItems = false)
    (h : s.answer now r = .ok (reply, s')) : s'.items = s.items := by
  cases r with
  | createSubscription row items => cases hr
  | switchPlan id changes row items => cases hr
  | incrementUsage id amount limit => cases hr
  | resetUsage id => cases hr
  | resetAllUsage id => cases hr
  | updateSubscription id changes => rw [(updateSubscription_eq_ok h).1]
  | listExpiring date autoRenew =>
    obtain rfl := eq_of_map_eq_ok (x := s.expiring date autoRenew) h
    rfl
  | totalRevenue =>
    obtain rfl := eq_of_map_eq_ok (x := s.totalRevenue) h
    rfl
  | _ =>
    simp only [answer, upsertFeature, upsertPackage, createFeature, createPackage, syncFeatures,
      createUsageLog, createInvoice, updateInvoice, createTransaction, updateTransaction,
      updated] at h
    repeat' split at h
    all_goals grind

/-- Only what makes a subscription changes which items there are. -/
theorem terms_of_not_makes {r : Request} {reply : r.Reply} (hr : r.makesSubscription = false)
    (h : s.answer now r = .ok (reply, s')) :
    s'.items.map (·.terms) = s.items.map (·.terms) := by
  cases r with
  | createSubscription row seeds => cases hr
  | switchPlan id changes row seeds => cases hr
  | incrementUsage id amount limit =>
    cases reply with
    | none => rw [incrementUsage_eq_none h]
    | some new =>
      obtain ⟨_, _, rows, _, _, hm, rfl⟩ := incrementUsage_eq_some h
      exact (sameTerms_setUsage hm).items
  | resetUsage id =>
    obtain ⟨_, rows, hm, rfl⟩ := resetUsage_eq_ok h
    exact (sameTerms_setUsage hm).items
  | resetAllUsage subscriptionId =>
    obtain rfl : (s.resetAllUsage now subscriptionId).2 = s' := congrArg Prod.snd (Except.ok.inj h)
    exact (sameTerms_resetAllUsage ..).items
  | _ => rw [items_of_not_writes rfl h]

theorem items_createSubscription (s : Store) (now : Instant) (row : NewSubscription)
    (seeds : List ItemSeed) : s.items <+: (s.createSubscription now row seeds).2.items := by
  obtain ⟨added, hstore, _⟩ := foldl_createItem now (seeds.map (·.forSubscription s.freshId))
    { s with
      subscriptions := s.subscriptions ++ [(s.createSubscription now row seeds).1]
      created := s.created + 1 }
  have hitems : (s.createSubscription now row seeds).2.items = s.items ++ added :=
    congrArg Store.items hstore
  rw [hitems]
  exact List.prefix_append _ _

/-- All subscriptions and items are there still, under the same keys. -/
structure Retains (s s' : Store) : Prop where
  subscriptions : s.subscriptions.map (·.id) <+: s'.subscriptions.map (·.id)
  items : s.items.map (·.terms) <+: s'.items.map (·.terms)

theorem Retains.refl (s : Store) : s.Retains s := ⟨List.prefix_rfl, List.prefix_rfl⟩

theorem Retains.trans (h : s.Retains s') (h' : s'.Retains s'') : s.Retains s'' :=
  ⟨h.subscriptions.trans h'.subscriptions, h.items.trans h'.items⟩

theorem terms_prefix_of_answer {r : Request} {reply : r.Reply}
    (h : s.answer now r = .ok (reply, s')) :
    s.items.map (·.terms) <+: s'.items.map (·.terms) := by
  cases r with
  | createSubscription row seeds =>
    obtain rfl : (s.createSubscription now row seeds).2 = s' :=
      congrArg Prod.snd (Except.ok.inj h)
    exact (items_createSubscription ..).map _
  | switchPlan id changes row seeds =>
    obtain ⟨between, hu, hcreated⟩ := switchPlan_eq_ok h
    have hitems := items_createSubscription between now row seeds
    rw [hcreated, (updateSubscription_eq_ok hu).1] at hitems
    exact hitems.map _
  | _ => rw [terms_of_not_makes rfl h]

theorem retains_of_answer {r : Request} {reply : r.Reply}
    (h : s.answer now r = .ok (reply, s')) : s.Retains s' := by
  refine ⟨?_, terms_prefix_of_answer h⟩
  rw [(grows_answer h).ids_drop]
  exact List.prefix_append _ _

/-- No two subscriptions and no two items have the same identifier. -/
structure UniqueIds (s : Store) : Prop where
  subscriptions : (s.subscriptions.map (·.id)).Nodup
  items : (s.items.map (·.id)).Nodup

theorem UniqueIds.of_retains (h : s.Retains s') (hs' : s'.UniqueIds) : s.UniqueIds := by
  have hids : ∀ s : Store, (s.items.map (·.terms)).map (·.id) = s.items.map (·.id) := by
    intro s
    simp [SubscriptionItem.terms, Function.comp_def]
  refine ⟨hs'.subscriptions.sublist h.subscriptions.sublist, ?_⟩
  have hsublist := (h.items.map (·.id)).sublist
  rw [hids, hids] at hsublist
  exact hs'.items.sublist hsublist

/-- Whoever refers to a subscription refers to one that is there. -/
structure Linked (s : Store) : Prop where
  items : ∀ item ∈ s.items, ∃ r ∈ s.subscriptions, r.id = item.subscriptionId
  usageLogs : ∀ entry ∈ s.usageLogs, ∃ r ∈ s.subscriptions, r.id = entry.subscriptionId
  invoices : ∀ invoice ∈ s.invoices, ∃ r ∈ s.subscriptions, r.id = invoice.subscriptionId

end Store

theorem Chances.retains_run {α : Type} (env : Chances) (p : Procedure α) (w : World) :
    w.store.Retains (env.run p w).2.store := by
  have hkeeps : p.Keeps w.store.Retains fun _ => True :=
    Procedure.keeps_of_answer
      (fun s now r reply s' hs ha => hs.trans (Store.retains_of_answer ha)) p
  exact hkeeps.run env (.refl _)

end RecurringBilling
