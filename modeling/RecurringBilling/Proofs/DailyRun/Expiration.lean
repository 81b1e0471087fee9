import RecurringBilling.Proofs.DailyRun.Renewal

/-! The expirations of a day: a listed subscription becomes expired unless its update is refused. -/

namespace RecurringBilling

open Procedure

namespace Call

variable {id : Id} {calls calls' : List Call}

@[simp] theorem updateRefused_nil : ¬ UpdateRefused id [] := by simp [UpdateRefused]

@[simp] theorem updateRefused_cons {c : Call} :
    UpdateRefused id (c :: calls) ↔
      (c.isRefused ∧ ∃ changes, c.request = .updateSubscription id changes) ∨
        UpdateRefused id calls := by simp [UpdateRefused]

@[simp] theorem updateRefused_append :
    UpdateRefused id (calls ++ calls') ↔ UpdateRefused id calls ∨ UpdateRefused id calls' := by
  simp only [UpdateRefused, List.mem_append, or_and_right, exists_or]

theorem updateRefused_flatMap {listed : List Subscription} {own : Id → List Call}
    (hown : ∀ r ∈ listed, ∀ c ∈ own r.id, ∀ other changes,
      c.request = .updateSubscription other changes → other = r.id) :
    UpdateRefused id (listed.flatMap fun r => own r.id) ↔
      id ∈ listed.map (·.id) ∧ UpdateRefused id (own id) := by
  constructor
  · rintro ⟨c, hc, hrefused, changes, hreq⟩
    obtain ⟨r, hr, hc⟩ := List.mem_flatMap.mp hc
    obtain rfl : id = r.id := hown r hr c hc id changes hreq
    exact ⟨List.mem_map_of_mem hr, c, hc, hrefused, changes, hreq⟩
  · rintro ⟨hid, c, hc, h⟩
    obtain ⟨r, hr, rfl⟩ := List.mem_map.mp hid
    exact ⟨c, List.mem_flatMap.mpr ⟨r, hr, hc⟩, h⟩

end Call

namespace DailyRun

def expiredRow (now : Instant) (r : Subscription) : Subscription :=
  { r with status := SubscriptionStatus.expired.word, updatedAt := now }

/-- What the expirations do to the account of a subscription that was listed for them. -/
structure Expired (r : Subscription) (calls : List Call) (before after : Account) : Prop where
  refused : Call.UpdateRefused r.id calls → after = before
  expired : ¬ Call.UpdateRefused r.id calls →
    ∃ now, after = { before with subscription := some (expiredRow now r) }

def expirationEffect : Effect := fun r calls before after =>
  (∀ c ∈ calls, ∃ changes, c.request = .updateSubscription r.id changes) ∧
    (r.statusOf ≠ .expired → Expired r calls before after)

theorem works_expireOne (env : Chances) (packages : List Package) :
    Works env expirationEffect packages expireOne := by
  intro report r w _ hr
  by_cases hexpired : r.statusOf = .expired
  · exact ⟨report, w, [], by simp [expireOne, hexpired], rfl, by simp, .refl _ _, by simp,
      fun h => absurd hexpired h⟩
  rcases w.answer_cases_of_ne_fault (env w) (.updateSubscription r.id
      { status := .set SubscriptionStatus.expired.word, updatedAt := (env w).now })
      fun _ => Store.updated_ne_fault with ⟨e, w', ha, hs, hw⟩ | ⟨row, w', ha, hs, hw⟩
  · refine ⟨_, w', _, by simp [expireOne, hexpired, ha]; rfl, ?_, hw, hs ▸ .refl _ _, by simp,
      fun _ => ?_⟩
    · rfl
    · rw [hs]
      exact ⟨fun _ => rfl, fun h => absurd ⟨_, List.mem_singleton_self _, by simp, _, rfl⟩ h⟩
  · obtain ⟨htouch, old, hold, haccount⟩ := Store.touches_updateSubscription hs
    obtain rfl : r = old := Option.some.inj (hr.symm.trans hold)
    refine ⟨_, w', _, by simp [expireOne, hexpired, ha]; rfl, ?_, hw, htouch, by simp,
      fun _ => ⟨?_, fun _ => ⟨_, haccount⟩⟩⟩
    · rfl
    · rintro ⟨c, hc, hrefused, _⟩
      obtain rfl := List.mem_singleton.mp hc
      simp at hrefused

theorem Worked.not_lists {listed : List Subscription} {own : Id → List Call} {s s' : Store}
    (h : Worked expirationEffect listed own s s') (date : Date) :
    ∀ c ∈ listed.flatMap fun r => own r.id, ∀ renews, c.request ≠ .listExpiring date renews := by
  intro c hc renews
  obtain ⟨r, hr, hc⟩ := List.mem_flatMap.mp hc
  obtain ⟨changes, hreq⟩ := (h.accounts r hr).1 c hc
  simp [hreq]

end DailyRun

end RecurringBilling
