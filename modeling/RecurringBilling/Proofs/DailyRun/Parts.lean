import RecurringBilling.DailyRun
import RecurringBilling.Proofs.Store.Accounts
import RecurringBilling.Proofs.World

/-! Loops over listed subscriptions. Each part of such a loop works on one account, and since no
subscription is listed twice, the account comes to it as it was at the start and leaves the loop as
the part left it. -/

namespace RecurringBilling

namespace DailyRun

open Procedure

/-- What the calls made for a subscription do to its account. -/
abbrev Effect := Subscription → List Call → Account → Account → Prop

/-- A loop has done its work: on each listed account what its own calls say, on others nothing. -/
structure Worked (effect : Effect) (listed : List Subscription) (own : Id → List Call)
    (s s' : Store) : Prop where
  store : s.Extends s'
  others : ∀ id, id ∉ listed.map (·.id) → s'.account id = s.account id
  accounts : ∀ r ∈ listed, effect r (own r.id) (s.account r.id) (s'.account r.id)

/-- One part of a loop always comes to its end and touches one account. -/
def Works (env : Chances) (effect : Effect) (packages : List Package)
    (part : RunReport → Subscription → Procedure RunReport) : Prop :=
  ∀ report r w, w.store.packages = packages → (w.store.account r.id).subscription = some r →
    ∃ report' w' calls, env.run (part report r) w = (.done report', w') ∧
      report'.expirationsIncomplete = report.expirationsIncomplete ∧
      w'.calls = w.calls ++ calls ∧ Store.Touches r.id w.store w'.store ∧
      effect r calls (w.store.account r.id) (w'.store.account r.id)

variable {env : Chances} {effect : Effect} {packages : List Package}
  {part : RunReport → Subscription → Procedure RunReport}

theorem Works.foldlM (hpart : Works env effect packages part) (listed : List Subscription)
    (report : RunReport) {w : World} (hp : w.store.packages = packages)
    (hids : (listed.map (·.id)).Nodup)
    (hrows : ∀ r ∈ listed, (w.store.account r.id).subscription = some r) :
    ∃ report' w' own, env.run (listed.foldlM part report) w = (.done report', w') ∧
      report'.expirationsIncomplete = report.expirationsIncomplete ∧
      w'.calls = w.calls ++ (listed.flatMap fun r => own r.id) ∧
      Worked effect listed own w.store w'.store := by
  -- the accounts of the rest are still as they were, since no identifier is listed twice
  induction listed generalizing report w with
  | nil =>
    refine ⟨report, w, fun _ => [], rfl, rfl, by simp, .refl _, ?_, by simp⟩
    exact fun _ _ => rfl
  | cons r rest ih =>
    obtain ⟨hr, hrest⟩ := List.nodup_cons.mp hids
    obtain ⟨report₁, w₁, calls, hrun, hreport, hcalls, htouch, heffect⟩ :=
      hpart report r w hp (hrows r (by simp))
    have hne : ∀ x ∈ rest, x.id ≠ r.id := fun x hx h => hr (List.mem_map.mpr ⟨x, hx, h⟩)
    have hrows₁ : ∀ x ∈ rest, (w₁.store.account x.id).subscription = some x := by
      intro x hx
      rw [htouch.accounts x.id (hne x hx)]
      exact hrows x (by simp [hx])
    obtain ⟨report₂, w₂, own, hrun₂, hreport₂, hcalls₂, hworked⟩ :=
      ih report₁ (htouch.packages.trans hp) hrest hrows₁
    refine ⟨report₂, w₂, fun id => if id = r.id then calls else own id, ?_,
      hreport₂.trans hreport, ?_, htouch.toExtends.trans hworked.store, ?_, ?_⟩
    · simp [hrun, hrun₂]
    · have hown : (rest.flatMap fun x => if x.id = r.id then calls else own x.id) =
          rest.flatMap fun x => own x.id := by
        simp only [List.flatMap]
        congr 1
        exact List.map_congr_left fun x hx => by simp [hne x hx]
      simp [hcalls₂, hcalls, hown]
    · intro id hid
      simp only [List.map_cons, List.mem_cons, not_or] at hid
      rw [hworked.others id hid.2, htouch.accounts id hid.1]
    · intro x hx
      rcases List.mem_cons.mp hx with rfl | hx
      · simpa [hworked.others x.id hr] using heffect
      · have h := hworked.accounts x hx
        rw [htouch.accounts x.id (hne x hx)] at h
        simpa [hne x hx] using h

theorem answer_listExpiring (c : Chance) (date : Date) (autoRenew : Option Bool) (w : World) :
    (∃ e w', w.answer c (.listExpiring date autoRenew) = (.ok (.error e), w') ∧
      w'.store = w.store ∧ w'.calls = w.calls ++ [⟨.listExpiring date autoRenew, .error e⟩]) ∨
    (¬ date.day < Calendar.lastDay ∧
      ∃ fault, w.answer c (.listExpiring date autoRenew) = (.error fault, w)) ∨
    ∃ listed w', w.answer c (.listExpiring date autoRenew) = (.ok (.ok listed), w') ∧
      w.store.expiring date autoRenew = .ok listed ∧ w'.store = w.store ∧
      w'.calls = w.calls ++ [⟨.listExpiring date autoRenew, .ok listed⟩] := by
  rcases w.answer_cases c (.listExpiring date autoRenew) with
    ⟨e, ha⟩ | ⟨listed, s, _, hs, ha⟩ | ⟨fault, hs, ha⟩
  · exact .inl ⟨e, _, ha, rfl, rfl⟩
  · cases hl : w.store.expiring date autoRenew with
    | error refusal => simp [Store.answer, hl, Except.map] at hs
    | ok rows =>
      simp only [Store.answer, hl, Except.map, Except.ok.injEq, Prod.mk.injEq] at hs
      obtain ⟨rfl, rfl⟩ := hs
      exact .inr (.inr ⟨rows, _, ha, rfl, rfl, rfl⟩)
  · refine .inr (.inl ⟨?_, fault, ha⟩)
    intro hlt
    obtain ⟨start, fin, hb, _⟩ := Date.bounds?_of_lt hlt
    simp [Store.answer, Store.expiring, hb, Except.map] at hs

/-- A listing with its loop: the listing is refused, or it halts, or the loop does its work. -/
theorem Works.run_listed {w : World} (hpart : Works env effect w.store.packages part)
    (hids : (w.store.subscriptions.map (·.id)).Nodup) (date : Date) (renews : Bool)
    (start : List Subscription → RunReport) :
    let p : Procedure RunReport := do
      let listed ← request (.listExpiring date (some renews))
      listed.foldlM part (start listed)
    (∃ e w', env.run p w = (.failed (.storage e), w') ∧ w'.store = w.store ∧
      w'.calls = w.calls ++ [⟨.listExpiring date (some renews), .error e⟩]) ∨
    (¬ date.day < Calendar.lastDay ∧ ∃ fault, env.run p w = (.halted fault, w)) ∨
    ∃ listed report w' own, env.run p w = (.done report, w') ∧
      w.store.expiring date (some renews) = .ok listed ∧
      report.expirationsIncomplete = (start listed).expirationsIncomplete ∧
      w'.calls = w.calls ++ ⟨.listExpiring date (some renews), .ok listed⟩ ::
        listed.flatMap (fun r => own r.id) ∧
      Worked effect listed own w.store w'.store := by
  rcases answer_listExpiring (env w) date (some renews) w with
    ⟨e, w₁, ha, hs, hw⟩ | ⟨hlast, fault, ha⟩ | ⟨listed, w₁, ha, hl, hs, hw⟩
  · exact .inl ⟨e, w₁, by simp [ha], hs, hw⟩
  · exact .inr (.inl ⟨hlast, fault, by simp [ha]⟩)
  · have hrows : ∀ r ∈ listed, (w₁.store.account r.id).subscription = some r := by
      intro r hr
      rw [hs]
      exact Store.account_of_mem hids ((Store.mem_expiring_iff hl r).mp hr).1
    obtain ⟨report, w', own, hrun, hreport, hcalls, hworked⟩ :=
      hpart.foldlM listed (start listed) (by rw [hs]) (Store.nodup_expiring hl hids) hrows
    refine .inr (.inr ⟨listed, report, w', own, by simp [ha, hrun], hl, hreport, ?_, hs ▸ hworked⟩)
    rw [hcalls, hw, List.append_assoc]
    rfl

end DailyRun

end RecurringBilling
