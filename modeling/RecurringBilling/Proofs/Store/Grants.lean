import RecurringBilling.Proofs.Lifecycle.Creation
import RecurringBilling.Proofs.Store.Keys

/-! What packages grant. Each feature is granted by a package once, so that the features that a
package makes available are listed once each. -/

namespace RecurringBilling

namespace Store

variable {s s' : Store} {now : Instant} {packageId : Id}

/-- Whether no package grants a feature twice. -/
def GrantsOnce (s : Store) : Prop := (s.grants.map fun g => (g.packageId, g.featureId)).Nodup

theorem nodup_syncGrant {grants : List Grant} (row : NewGrant)
    (h : (grants.map fun g => (g.packageId, g.featureId)).Nodup) :
    ((syncGrant now grants row).map fun g => (g.packageId, g.featureId)).Nodup := by
  unfold syncGrant
  split
  · rename_i changed rows hm
    rw [map_modifyFirst? hm (fun g => (g.packageId, g.featureId)) fun _ => rfl]
    exact h
  · rename_i hm
    have hnew :
        (row.packageId, row.featureId) ∉ grants.map fun g => (g.packageId, g.featureId) := by
      intro hmem
      obtain ⟨g, hg, hkey⟩ := List.mem_map.mp hmem
      have hother := modifyFirst?_eq_none hm g hg
      obtain ⟨hpackage, hfeature⟩ := Prod.mk.inj hkey
      simp [hpackage, hfeature] at hother
    rw [List.map_append, List.map_singleton]
    exact List.nodup_append.mpr ⟨h, List.nodup_singleton _, by grind⟩

theorem nodup_syncGrants {rows : List NewGrant} {grants : List Grant}
    (h : (grants.map fun g => (g.packageId, g.featureId)).Nodup) :
    ((rows.foldl (syncGrant now) grants).map fun g => (g.packageId, g.featureId)).Nodup := by
  induction rows generalizing grants with
  | nil => exact h
  | cons row rest ih => exact ih (nodup_syncGrant row h)

theorem grantsOnce_of_answer {r : Request} {reply : r.Reply} (h : s.GrantsOnce)
    (ha : s.answer now r = .ok (reply, s')) : s'.GrantsOnce := by
  have hsame : s'.grants = s.grants → s'.GrantsOnce := fun hsame => by
    rw [GrantsOnce, hsame]
    exact h
  cases r with
  | syncFeatures packageId rows =>
    obtain rfl : s.syncFeatures now packageId rows = s' := congrArg Prod.snd (Except.ok.inj ha)
    exact nodup_syncGrants h
  | createSubscription row seeds =>
    exact hsame (by rw [(adds_of_created (Except.ok.inj ha)).others])
  | switchPlan id changes row seeds =>
    obtain ⟨between, hu, hcreated⟩ := switchPlan_eq_ok ha
    exact hsame (by rw [(adds_of_created hcreated).others, (updateSubscription_eq_ok hu).1])
  | updateSubscription id changes =>
    exact hsame (by rw [(updateSubscription_eq_ok ha).1])
  | listExpiring date autoRenew =>
    obtain rfl := eq_of_map_eq_ok (x := s.expiring date autoRenew) ha
    exact h
  | totalRevenue =>
    obtain rfl := eq_of_map_eq_ok (x := s.totalRevenue) ha
    exact h
  | _ =>
    refine hsame ?_
    simp only [answer, upsertFeature, upsertPackage, createFeature, createPackage, incrementUsage,
      resetUsage, resetAllUsage, createUsageLog, createInvoice, updateInvoice, createTransaction,
      updateTransaction, updated] at ha
    repeat' split at ha
    all_goals grind

theorem grantsOnce_run {α : Type} (env : Chances) (p : Procedure α) {w : World}
    (h : w.store.GrantsOnce) : (env.run p w).2.store.GrantsOnce :=
  (Procedure.keeps_of_answer (fun _ _ _ _ _ hs ha => grantsOnce_of_answer hs ha) p).run env h

theorem grantedFeature?_eq_some {g : Grant} {granted : GrantedFeature}
    (h : s.grantedFeature? g = some granted) :
    ∃ f ∈ s.features, f.isLive = true ∧ f.id = g.featureId ∧
      granted = ⟨f, g.value, g.isAvailable, g.sortOrder⟩ := by
  obtain ⟨f, hf, rfl⟩ := Option.map_eq_some_iff.mp h
  have hmem := List.mem_of_find?_eq_some hf
  have hlive := List.find?_some hf
  simp only [Bool.and_eq_true, beq_iff_eq] at hlive
  exact ⟨f, hmem, hlive.1, hlive.2, rfl⟩

theorem mem_grantedFeatures {granted : GrantedFeature} :
    granted ∈ s.grantedFeatures packageId ↔
      ∃ g ∈ s.grants, g.packageId = packageId ∧ s.grantedFeature? g = some granted := by
  simp only [grantedFeatures, mem_sortedBy, List.mem_filterMap, List.mem_filter, beq_iff_eq]
  constructor
  · rintro ⟨g, ⟨hg, hpackage⟩, hgranted⟩
    exact ⟨g, hg, hpackage, hgranted⟩
  · rintro ⟨g, hg, hpackage, hgranted⟩
    exact ⟨g, ⟨hg, hpackage⟩, hgranted⟩

theorem nodup_grantedFeatures (h : s.GrantsOnce) (packageId : Id) :
    ((s.grantedFeatures packageId).map (·.feature.id)).Nodup := by
  have hfeatures : ((s.grants.filter (·.packageId == packageId)).map (·.featureId)).Nodup := by
    have hkeys : ((s.grants.filter (·.packageId == packageId)).map fun g =>
        (g.packageId, g.featureId)).Nodup := h.sublist (List.filter_sublist.map _)
    have hsame : ((s.grants.filter (·.packageId == packageId)).map fun g =>
        (g.packageId, g.featureId)) =
        (s.grants.filter (·.packageId == packageId)).map fun g => (packageId, g.featureId) :=
      List.map_congr_left fun g hg => by rw [eq_of_beq (List.mem_filter.mp hg).2]
    refine List.Nodup.of_map (fun id => (packageId, id)) ?_
    rw [List.map_map]
    exact hsame ▸ hkeys
  have hsublist : ∀ grants : List Grant,
      ((grants.filterMap s.grantedFeature?).map (·.feature.id)).Sublist
        (grants.map (·.featureId)) := by
    intro grants
    induction grants with
    | nil => exact List.Sublist.slnil
    | cons g rest ih =>
      cases hg : s.grantedFeature? g with
      | none =>
        rw [List.filterMap_cons_none hg]
        exact ih.cons _
      | some granted =>
        obtain ⟨f, _, _, hid, rfl⟩ := grantedFeature?_eq_some hg
        rw [List.filterMap_cons_some hg, List.map_cons, List.map_cons, ← hid]
        exact ih.cons_cons _
  exact ((sortedBy_perm _ _).map _).nodup_iff.mpr (hfeatures.sublist (hsublist _))

end Store

end RecurringBilling
