import RecurringBilling.Catalog
import RecurringBilling.Proofs.DailyRun.DayEffect
import RecurringBilling.Proofs.Store.Pivots

/-! Definitions that are saved. What a definition leaves open is not written, so that it is as it
was before in a row that there already is. -/

namespace RecurringBilling

open Sql

theorem or_eq_left_iff {α : Type} {a b : Option α} :
    a.or b = a ↔ (a = none → b = none) := by
  cases a <;> simp

def Attachment.grant (packageId : Id) (a : Attachment) : NewGrant :=
  ⟨packageId, a.featureId, a.value, a.isAvailable, a.sortOrder⟩

def Package.unstamped (p : Package) : Package := { p with updatedAt := p.createdAt }

def Feature.unstamped (f : Feature) : Feature := { f with updatedAt := f.createdAt }

namespace Store

variable {s s' : Store} {now now' : Instant} {packageId : Id}

/-- The store as it is but for the instants at which the catalog was last changed. -/
def unstamped (s : Store) : Store :=
  { s with
    features := s.features.map Feature.unstamped
    packages := s.packages.map Package.unstamped
    grants := s.grants.map Grant.unstamped }

theorem upsertPackage_cases {new : NewPackage} {p : Package}
    (h : s.upsertPackage now new = (p, s')) :
    s'.findPackageBySlug new.slug = some p ∧ s'.grants = s.grants ∧
      ((∃ old, s.findPackageBySlug new.slug = some old ∧ p = redefinePackage now new old) ∨
        s.findPackageBySlug new.slug = none ∧ p.toNewPackage = new) := by
  have hf : ∀ x : Package, (x.isLive && x.slug == new.slug) = true →
      ((redefinePackage now new x).isLive && (redefinePackage now new x).slug == new.slug) = true :=
    fun x hx => Bool.and_eq_true_iff.mpr ⟨(Bool.and_eq_true_iff.mp hx).1, beq_self_eq_true _⟩
  unfold upsertPackage at h
  rcases modifyFirst?_or_append (s.createPackage now new).1 hf
    (by simp [createPackage, Package.isLive]) s.packages with
    ⟨old, rows, hm, hfind, hfound⟩ | ⟨hm, hfind, hfound⟩
  · rw [hm] at h
    obtain ⟨rfl, rfl⟩ := Prod.mk.inj h
    exact ⟨hfound, rfl, .inl ⟨old, hfind, rfl⟩⟩
  · rw [hm] at h
    obtain ⟨rfl, rfl⟩ := Prod.mk.inj h
    exact ⟨hfound, rfl, .inr ⟨hfind, rfl⟩⟩

theorem upsertFeature_cases {new : NewFeature} {f : Feature}
    (h : s.upsertFeature now new = (f, s')) :
    s'.findFeatureBySlug new.slug = some f ∧
      ((∃ old, s.findFeatureBySlug new.slug = some old ∧ f = redefineFeature now new old) ∨
        s.findFeatureBySlug new.slug = none ∧ f.toNewFeature = new) := by
  have hf : ∀ x : Feature, (x.isLive && x.slug == new.slug) = true →
      ((redefineFeature now new x).isLive && (redefineFeature now new x).slug == new.slug) = true :=
    fun x hx => Bool.and_eq_true_iff.mpr ⟨(Bool.and_eq_true_iff.mp hx).1, beq_self_eq_true _⟩
  unfold upsertFeature at h
  rcases modifyFirst?_or_append (s.createFeature now new).1 hf
    (by simp [createFeature, Feature.isLive]) s.features with
    ⟨old, rows, hm, hfind, hfound⟩ | ⟨hm, hfind, hfound⟩
  · rw [hm] at h
    obtain ⟨rfl, rfl⟩ := Prod.mk.inj h
    exact ⟨hfound, .inl ⟨old, hfind, rfl⟩⟩
  · rw [hm] at h
    obtain ⟨rfl, rfl⟩ := Prod.mk.inj h
    exact ⟨hfound, .inr ⟨hfind, rfl⟩⟩

section

variable {new : NewPackage} {p : Package}

/-- A definition leaves a row alone that has come from it. -/
theorem unstamped_redefinePackage
    (h : (∃ now old, p = redefinePackage now new old) ∨ p.toNewPackage = new) :
    (redefinePackage now' new p).unstamped = p.unstamped := by
  rcases h with ⟨now, old, rfl⟩ | rfl
  · unfold redefinePackage
    cases new.description <;> cases new.originalPrice <;> cases new.metadata <;> rfl
  · obtain ⟨⟨⟩⟩ := p
    simp [redefinePackage, Package.unstamped]

/-- A definition is in a row if that has nothing where the definition is open. -/
theorem toNewPackage_redefinePackage_iff : (redefinePackage now new p).toNewPackage = new ↔
    (new.description = none → p.description = none) ∧
      (new.originalPrice = none → p.originalPrice = none) ∧
      (new.metadata = none → p.metadata = none) := by
  obtain ⟨⟩ := new
  simp [redefinePackage, or_eq_left_iff]

theorem unstamped_upsertPackage (hfind : s.findPackageBySlug new.slug = some p)
    (hp : (redefinePackage now new p).unstamped = p.unstamped) :
    (s.upsertPackage now new).1.id = p.id ∧ (s.upsertPackage now new).2.unstamped = s.unstamped := by
  obtain ⟨rows, hm⟩ := modifyFirst?_of_find? hfind (redefinePackage now new)
  have hrows := map_modifyFirst?_of_find? hm Package.unstamped fun x hx => by
    obtain rfl : p = x := Option.some.inj (hfind.symm.trans hx)
    exact hp
  rw [upsertPackage, hm]
  exact ⟨rfl, by simp only [unstamped, hrows]⟩

end

section

variable {new : NewFeature} {f : Feature}

theorem unstamped_redefineFeature
    (h : (∃ now old, f = redefineFeature now new old) ∨ f.toNewFeature = new) :
    (redefineFeature now' new f).unstamped = f.unstamped := by
  rcases h with ⟨now, old, rfl⟩ | rfl
  · unfold redefineFeature
    cases new.description <;> cases new.metadata <;> rfl
  · obtain ⟨⟨⟩⟩ := f
    simp [redefineFeature, Feature.unstamped]

theorem toNewFeature_redefineFeature_iff : (redefineFeature now new f).toNewFeature = new ↔
    (new.description = none → f.description = none) ∧
      (new.metadata = none → f.metadata = none) := by
  obtain ⟨⟩ := new
  simp [redefineFeature, or_eq_left_iff]

theorem unstamped_upsertFeature (hfind : s.findFeatureBySlug new.slug = some f)
    (hf : (redefineFeature now new f).unstamped = f.unstamped) :
    (s.upsertFeature now new).2.unstamped = s.unstamped := by
  obtain ⟨rows, hm⟩ := modifyFirst?_of_find? hfind (redefineFeature now new)
  have hrows := map_modifyFirst?_of_find? hm Feature.unstamped fun x hx => by
    obtain rfl : f = x := Option.some.inj (hfind.symm.trans hx)
    exact hf
  rw [upsertFeature, hm]
  simp only [unstamped, hrows]

end

end Store

namespace World

theorem done_of_ask {α : Type} {c : Chance} {w : World} {r : Request}
    {next : r.Reply → World → Outcome α × World} {a : α}
    (h : (Outcome.andThen (Outcome.ofReply (w.answer c r)) next).1 = .done a) :
    ∃ reply w₁, w.store.answer c.now r = .ok (reply, w₁.store) ∧
      Outcome.andThen (Outcome.ofReply (w.answer c r)) next = next reply w₁ := by
  rcases w.answer_cases c r with ⟨e, ha⟩ | ⟨reply, s, _, hs, ha⟩ | ⟨fault, _, ha⟩
  · rw [ha] at h
    cases h
  · exact ⟨reply, (w.withStore s).called r (.ok reply), hs, by rw [ha]; rfl⟩
  · rw [ha] at h
    cases h

end World

variable {env env' : Chances} {w : World}

namespace PackageDefinition

variable {d : PackageDefinition} {p : Package}

/-- The attachments of a feature, the last given last. -/
def attachmentsOf (d : PackageDefinition) (featureId : Id) : List Attachment :=
  d.attachments.filter (·.featureId = featureId)

/-- What the definition of a package does to the store when it is saved. -/
structure Saves (d : PackageDefinition) (s : Store) (p : Package) (s' : Store) : Prop where
  found : s'.findPackageBySlug d.slug = some p
  inserted : s.findPackageBySlug d.slug = none → p.toNewPackage = d.row
  written : ∀ old, s.findPackageBySlug d.slug = some old → ∃ now,
    assigned? old.cells (assignmentsOf d.row.cells ++ [touched now]) = some p.cells
  established : p.toNewPackage = d.row ↔ ∀ old, s.findPackageBySlug d.slug = some old →
    (d.description = none → old.description = none) ∧
      (d.originalPrice = none → old.originalPrice = none) ∧
      (d.metadata = none → old.metadata = none)
  attached : ∀ featureId last, (d.attachmentsOf featureId).getLast? = some last →
    ∃ g, Store.grantOf s'.grants (p.id, featureId) = some g ∧
      (g.toNewGrant = last.grant p.id ↔ last.value ≠ none ∨
        (∀ a ∈ d.attachmentsOf featureId, a.value = none) ∧
          ∀ old, Store.grantOf s.grants (p.id, featureId) = some old → old.value = none)
  unlisted : ∀ q : Grant → Bool,
    (∀ g : Grant, g.packageId = p.id → d.attachmentsOf g.featureId ≠ [] → q g = false) →
      s'.grants.filter q = s.grants.filter q

theorem done_createOrUpdate (h : (env.run d.createOrUpdate w).1 = .done p) :
    ∃ now now' s₁, w.store.upsertPackage now d.row = (p, s₁) ∧
      (env.run d.createOrUpdate w).2.store = s₁.syncFeatures now' p.id (d.grants p.id) := by
  rw [createOrUpdate, Chances.run_bind, Chances.run_request] at h ⊢
  obtain ⟨p', w₁, hanswer, hrun⟩ := World.done_of_ask h
  have hupsert : w.store.upsertPackage (env w).now d.row = (p', w₁.store) := Except.ok.inj hanswer
  rw [hrun] at h ⊢
  rw [attachFeatures] at h ⊢
  split at h
  · rename_i hsome
    rw [if_pos hsome]
    rw [Chances.run_bind, Chances.run_request] at h ⊢
    obtain ⟨_, w₂, hsync, hrun⟩ := World.done_of_ask h
    rw [hrun] at h ⊢
    obtain rfl : p' = p := by simpa using h
    have hstore : w₁.store.syncFeatures (env w₁).now p'.id (d.grants p'.id) = w₂.store :=
      congrArg Prod.snd (Except.ok.inj hsync)
    exact ⟨_, _, _, hupsert, hstore.symm⟩
  · rename_i hnone
    rw [if_neg hnone]
    obtain rfl : p' = p := by simpa using h
    have hempty : d.grants p'.id = [] := by
      simpa [grants, List.isEmpty_iff] using hnone
    refine ⟨_, (env w).now, _, hupsert, ?_⟩
    rw [hempty]
    rfl

theorem filter_grants (d : PackageDefinition) (packageId featureId : Id) :
    (d.grants packageId).filter (·.key = (packageId, featureId)) =
      (d.attachmentsOf featureId).map (Attachment.grant packageId) := by
  rw [grants, attachmentsOf, List.filter_map]
  congr 1
  refine List.filter_congr fun a _ => ?_
  simp [NewGrant.key]

theorem grants_syncFeatures (d : PackageDefinition) (s : Store) (now : Instant) (packageId : Id) :
    (s.syncFeatures now packageId (d.grants packageId)).grants =
      (d.grants packageId).foldl (Store.syncGrant now) s.grants := by
  have hall : (d.grants packageId).filter (·.packageId == packageId) = d.grants packageId :=
    List.filter_eq_self.mpr fun row hrow => by
      obtain ⟨a, _, rfl⟩ := List.mem_map.mp hrow
      exact beq_self_eq_true packageId
  rw [Store.syncFeatures, hall]

/-- What is stored of a feature that is attached is what its last attachment says, if that leaves
nothing open that was given before. -/
theorem attached_of_syncGrants {grants : List Grant} {now : Instant} {packageId featureId : Id}
    {last : Attachment} (hlast : (d.attachmentsOf featureId).getLast? = some last) :
    ∃ g, Store.grantOf ((d.grants packageId).foldl (Store.syncGrant now) grants)
        (packageId, featureId) = some g ∧
      (g.toNewGrant = last.grant packageId ↔ last.value ≠ none ∨
        (∀ a ∈ d.attachmentsOf featureId, a.value = none) ∧
          ∀ old, Store.grantOf grants (packageId, featureId) = some old → old.value = none) := by
  obtain ⟨earlier, hgiven⟩ := List.getLast?_eq_some_iff.mp hlast
  have hrows : (d.grants packageId).filter (·.key = (packageId, featureId)) =
      earlier.map (Attachment.grant packageId) ++ [last.grant packageId] := by
    rw [filter_grants, hgiven, List.map_append, List.map_singleton]
  have hlastRow : (earlier.map (Attachment.grant packageId) ++ [last.grant packageId]).getLast? =
      some (last.grant packageId) := List.getLast?_concat
  obtain ⟨g, hg, havailable, hsort⟩ := Store.foldl_granted_of_getLast? now
    (Store.grantOf grants (packageId, featureId)) hlastRow
  have hvalue := Store.value_foldl_granted now
    (earlier.map (Attachment.grant packageId) ++ [last.grant packageId])
    (Store.grantOf grants (packageId, featureId))
  rw [hg, NewGrant.lastValue?_append] at hvalue
  have hfound : Store.grantOf ((d.grants packageId).foldl (Store.syncGrant now) grants)
      (packageId, featureId) = some g := by
    rw [Store.grantOf_syncGrants, hrows, hg]
  obtain ⟨hpackage, hfeature⟩ : g.packageId = packageId ∧ g.featureId = featureId := by
    simpa [Grant.key] using List.find?_some hfound
  have hof : last.featureId = featureId := by
    have hmem : last ∈ d.attachmentsOf featureId := hgiven ▸ List.mem_concat_self
    simpa using (List.mem_filter.mp hmem).2
  have hsame : g.toNewGrant = last.grant packageId ↔ g.value = last.value := by
    constructor
    · intro h
      exact congrArg NewGrant.value h
    · intro h
      obtain ⟨⟨⟩⟩ := g
      simp_all [Attachment.grant]
  refine ⟨g, hfound, hsame.trans ?_⟩
  rw [hgiven]
  cases hlastValue : last.value with
  | some v =>
    have hgiven : g.value = some v := by simpa [Attachment.grant, hlastValue] using hvalue
    simp [hgiven]
  | none =>
    have hopen : g.value =
        (NewGrant.lastValue? (earlier.map (Attachment.grant packageId))).or
          ((Store.grantOf grants (packageId, featureId)).bind (·.value)) := by
      simpa [Attachment.grant, hlastValue] using hvalue
    have hearlier : NewGrant.lastValue? (earlier.map (Attachment.grant packageId)) = none ↔
        ∀ a ∈ earlier, a.value = none := by
      rw [NewGrant.lastValue?_eq_none_iff, List.forall_mem_map]
      rfl
    rw [hopen, Option.or_eq_none_iff, hearlier]
    simp [hlastValue, or_imp, forall_and]

theorem saves_createOrUpdate (h : (env.run d.createOrUpdate w).1 = .done p) :
    d.Saves w.store p (env.run d.createOrUpdate w).2.store := by
  obtain ⟨now, now', s₁, hupsert, hstore⟩ := done_createOrUpdate h
  obtain ⟨hfound, hgrants, hcases⟩ := Store.upsertPackage_cases hupsert
  have hsynced : (env.run d.createOrUpdate w).2.store.grants =
      (d.grants p.id).foldl (Store.syncGrant now') w.store.grants := by
    rw [hstore, grants_syncFeatures, hgrants]
  refine
    { found := by rw [hstore]; exact hfound
      inserted := ?inserted
      written := ?written
      established := ?established
      attached := ?attached
      unlisted := ?unlisted }
  case inserted =>
    intro hnone
    rcases hcases with ⟨old, hold, _⟩ | ⟨_, hnew⟩
    · cases hnone.symm.trans hold
    · exact hnew
  case written =>
    intro old hold
    rcases hcases with ⟨old', hold', rfl⟩ | ⟨hnone, _⟩
    · obtain rfl : old' = old := Option.some.inj (hold'.symm.trans hold)
      exact ⟨now, assigned?_package d.row old'⟩
    · cases hnone.symm.trans hold
  case established =>
    rcases hcases with ⟨old, hold, rfl⟩ | ⟨hnone, hnew⟩
    · rw [Store.toNewPackage_redefinePackage_iff]
      constructor
      · intro h old' hold'
        obtain rfl : old = old' := Option.some.inj (hold.symm.trans hold')
        exact h
      · exact fun h => h old hold
    · refine iff_of_true hnew fun old hold => ?_
      cases hnone.symm.trans hold
  case attached =>
    intro featureId last hlast
    rw [hsynced]
    exact attached_of_syncGrants hlast
  case unlisted =>
    intro q hq
    rw [hsynced]
    refine Store.filter_syncGrants fun g hg => ?_
    obtain ⟨row, hrow, hkey⟩ := List.mem_map.mp hg
    obtain ⟨a, ha, rfl⟩ := List.mem_map.mp hrow
    obtain ⟨hpackage, hfeature⟩ := Prod.mk.inj hkey
    refine hq g hpackage.symm (List.ne_nil_of_mem (a := a) (List.mem_filter.mpr ⟨ha, ?_⟩))
    simpa using hfeature

/-- A definition that is saved a second time changes nothing but the instants of the changes. -/
theorem unstamped_createOrUpdate_again (h : (env.run d.createOrUpdate w).1 = .done p) {p' : Package}
    (hagain : (env'.run d.createOrUpdate (env.run d.createOrUpdate w).2).1 = .done p') :
    (env'.run d.createOrUpdate (env.run d.createOrUpdate w).2).2.store.unstamped =
      (env.run d.createOrUpdate w).2.store.unstamped := by
  have hfound := (saves_createOrUpdate h).found
  obtain ⟨now₁, now₂, s₁, hupsert, hstore⟩ := done_createOrUpdate h
  obtain ⟨now₃, now₄, s₃, hupsert', hstore'⟩ := done_createOrUpdate hagain
  have hsettled : (Store.redefinePackage now₃ d.row p).unstamped = p.unstamped := by
    refine Store.unstamped_redefinePackage ?_
    rcases (Store.upsertPackage_cases hupsert).2.2 with ⟨old, _, hp⟩ | ⟨_, hnew⟩
    · exact .inl ⟨now₁, old, hp⟩
    · exact .inr hnew
  obtain ⟨hid, hrows⟩ := Store.unstamped_upsertPackage hfound hsettled
  rw [hupsert'] at hid hrows
  have hid : p'.id = p.id := hid
  have hgrants := (Store.upsertPackage_cases hupsert').2.1
  have hsynced : (s₃.syncFeatures now₄ p'.id (d.grants p'.id)).grants.map Grant.unstamped =
      (s₁.syncFeatures now₂ p.id (d.grants p.id)).grants.map Grant.unstamped := by
    rw [grants_syncFeatures, hgrants, hstore, grants_syncFeatures, hid,
      Store.unstamped_syncGrants]
  calc (env'.run d.createOrUpdate (env.run d.createOrUpdate w).2).2.store.unstamped
      = { s₃.unstamped with
          grants := (s₃.syncFeatures now₄ p'.id (d.grants p'.id)).grants.map Grant.unstamped } := by
        rw [hstore']
        rfl
    _ = (s₁.syncFeatures now₂ p.id (d.grants p.id)).unstamped := by
        rw [hsynced, hrows, hstore]
        rfl
    _ = (env.run d.createOrUpdate w).2.store.unstamped := by rw [hstore]

end PackageDefinition

namespace FeatureDefinition

variable {d : FeatureDefinition} {f : Feature}

/-- What the definition of a feature does to the store when it is saved. -/
structure Saves (d : FeatureDefinition) (s : Store) (f : Feature) (s' : Store) : Prop where
  found : s'.findFeatureBySlug d.slug = some f
  inserted : s.findFeatureBySlug d.slug = none → f.toNewFeature = d.row
  written : ∀ old, s.findFeatureBySlug d.slug = some old → ∃ now,
    assigned? old.cells (assignmentsOf d.row.cells ++ [touched now]) = some f.cells
  established : f.toNewFeature = d.row ↔ ∀ old, s.findFeatureBySlug d.slug = some old →
    (d.description = none → old.description = none) ∧ (d.metadata = none → old.metadata = none)

theorem done_createOrUpdate (h : (env.run d.createOrUpdate w).1 = .done f) :
    ∃ now, w.store.upsertFeature now d.row = (f, (env.run d.createOrUpdate w).2.store) := by
  rw [createOrUpdate, Chances.run_bind, Chances.run_request] at h ⊢
  obtain ⟨f', w₁, hanswer, hrun⟩ := World.done_of_ask h
  rw [hrun] at h ⊢
  obtain rfl : f' = f := by simpa using h
  exact ⟨_, Except.ok.inj hanswer⟩

theorem saves_createOrUpdate (h : (env.run d.createOrUpdate w).1 = .done f) :
    d.Saves w.store f (env.run d.createOrUpdate w).2.store := by
  obtain ⟨now, hupsert⟩ := done_createOrUpdate h
  obtain ⟨hfound, hcases⟩ := Store.upsertFeature_cases hupsert
  rcases hcases with ⟨old, hold, rfl⟩ | ⟨hnone, hnew⟩
  · have hfirst : ∀ old', w.store.findFeatureBySlug d.slug = some old' → old = old' :=
      fun old' hold' => Option.some.inj (hold.symm.trans hold')
    refine
      { found := hfound
        inserted := fun hnone => absurd (hnone.symm.trans hold) nofun
        written := fun old' hold' => ⟨now, hfirst old' hold' ▸ assigned?_feature d.row old⟩
        established := ?_ }
    rw [Store.toNewFeature_redefineFeature_iff]
    exact ⟨fun h old' hold' => hfirst old' hold' ▸ h, fun h => h old hold⟩
  · have hnot : ∀ old, w.store.findFeatureBySlug d.slug ≠ some old :=
      fun old hold => absurd (hnone.symm.trans hold) nofun
    exact
      { found := hfound
        inserted := fun _ => hnew
        written := fun old hold => absurd hold (hnot old)
        established := iff_of_true hnew fun old hold => absurd hold (hnot old) }

theorem unstamped_createOrUpdate_again (h : (env.run d.createOrUpdate w).1 = .done f) {f' : Feature}
    (hagain : (env'.run d.createOrUpdate (env.run d.createOrUpdate w).2).1 = .done f') :
    (env'.run d.createOrUpdate (env.run d.createOrUpdate w).2).2.store.unstamped =
      (env.run d.createOrUpdate w).2.store.unstamped := by
  obtain ⟨now, hupsert⟩ := done_createOrUpdate h
  obtain ⟨now', hupsert'⟩ := done_createOrUpdate hagain
  have hsettled : (Store.redefineFeature now' d.row f).unstamped = f.unstamped := by
    refine Store.unstamped_redefineFeature ?_
    rcases (Store.upsertFeature_cases hupsert).2 with ⟨old, _, hf⟩ | ⟨_, hnew⟩
    · exact .inl ⟨now, old, hf⟩
    · exact .inr hnew
  have hrows := Store.unstamped_upsertFeature (saves_createOrUpdate h).found hsettled
  rwa [hupsert'] at hrows

end FeatureDefinition

/-- A definition that is saved is what is stored, exactly if it leaves nothing open that was given
before; and it is stored for good. -/
theorem saves_definitions (env env' : Chances) (w : World) :
    (∀ (d : PackageDefinition) (p : Package), (env.run d.createOrUpdate w).1 = .done p →
      d.Saves w.store p (env.run d.createOrUpdate w).2.store ∧
        ∀ p', (env'.run d.createOrUpdate (env.run d.createOrUpdate w).2).1 = .done p' →
          (env'.run d.createOrUpdate (env.run d.createOrUpdate w).2).2.store.unstamped =
            (env.run d.createOrUpdate w).2.store.unstamped) ∧
    ∀ (d : FeatureDefinition) (f : Feature), (env.run d.createOrUpdate w).1 = .done f →
      d.Saves w.store f (env.run d.createOrUpdate w).2.store ∧
        ∀ f', (env'.run d.createOrUpdate (env.run d.createOrUpdate w).2).1 = .done f' →
          (env'.run d.createOrUpdate (env.run d.createOrUpdate w).2).2.store.unstamped =
            (env.run d.createOrUpdate w).2.store.unstamped :=
  ⟨fun _ _ h => ⟨PackageDefinition.saves_createOrUpdate h, fun _ hagain =>
      PackageDefinition.unstamped_createOrUpdate_again h hagain⟩,
    fun _ _ h => ⟨FeatureDefinition.saves_createOrUpdate h, fun _ hagain =>
      FeatureDefinition.unstamped_createOrUpdate_again h hagain⟩⟩

/-- A package with a description, which grants three seats. -/
def describedWorld : World :=
  { store :=
      { packages := [{ DailyRun.plainPackage with description := some "For teams" }]
        grants := [{ packageId := .ofNat 9, featureId := .ofNat 5, value := some "3"
                     isAvailable := true, sortOrder := 0, createdAt := .first
                     updatedAt := .first }] } }

/-- The same package without a description, and with seats without a value. -/
def undescribed : PackageDefinition :=
  PackageDefinition.attachAll { slug := "pro", currency := "USD" } [.ofNat 5]

def seats : FeatureDefinition := { slug := "seats", type := .limit }

theorem saves_undescribed :
    (∃ p, (DailyRun.plainChances.run undescribed.createOrUpdate describedWorld).1 = .done p ∧
      undescribed.Saves describedWorld.store p
        (DailyRun.plainChances.run undescribed.createOrUpdate describedWorld).2.store) ∧
    ∃ f, (DailyRun.plainChances.run seats.createOrUpdate describedWorld).1 = .done f ∧
      seats.Saves describedWorld.store f
        (DailyRun.plainChances.run seats.createOrUpdate describedWorld).2.store :=
  have hsaved := saves_definitions DailyRun.plainChances DailyRun.plainChances describedWorld
  ⟨⟨_, rfl, (hsaved.1 undescribed _ rfl).1⟩, _, rfl, (hsaved.2 seats _ rfl).1⟩

theorem description_left_by_undescribed :
    ∃ p, (DailyRun.plainChances.run undescribed.createOrUpdate describedWorld).1 = .done p ∧
      p.description = some "For teams" ∧ undescribed.row.description = none ∧
      (Store.grantOf (DailyRun.plainChances.run undescribed.createOrUpdate
        describedWorld).2.store.grants (p.id, .ofNat 5)).map (·.value) = some (some "3") ∧
      (undescribed.attachmentsOf (.ofNat 5)).getLast?.map (·.value) = some none :=
  ⟨_, rfl, rfl, rfl, rfl, rfl⟩

end RecurringBilling
