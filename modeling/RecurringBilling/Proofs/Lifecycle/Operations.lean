import RecurringBilling.Proofs.Lifecycle
import RecurringBilling.Proofs.Schedule.Listings

/-! The operations in the life of a subscription, each complete before the next and on the row as the
storage has it, and what they can write. -/

namespace RecurringBilling

open Procedure

namespace Chances

/-- Whether no time of the first is after one of the second. -/
def NotAfter (env later : Chances) : Prop := ∀ w w', (env w).now ≤ (later w').now

/-- Whether all times of the first are before those of the second. -/
def Before (env later : Chances) : Prop := ∀ w w', (env w).now < (later w').now

end Chances

/-- An operation on a subscription, which is read first; to subscribe, nothing is read. -/
inductive Operation where
  | subscribe (subscriber : Subscriber) (package : Package) (withTrial : Bool)
  | cancel (id : Id) (immediate : Bool) (reason : Option String)
  | resume (id : Id)
  | switchPlan (id : Id) (package : Package)

def Operation.procedure : Operation → Procedure Subscription
  | subscribe subscriber package withTrial => Subscribing.subscribe subscriber package withTrial
  | cancel id immediate reason => do
    Subscribing.cancel (← Subscribing.find id) immediate reason
  | resume id => do Subscribing.resume (← Subscribing.find id)
  | switchPlan id package => do Subscribing.switchPlan (← Subscribing.find id) package

namespace World

/-- Any request but a listing is answered from the store or leaves it as it is. -/
theorem answer_cases_of_not_listing (c : Chance) (r : Request) (w : World)
    (h : ∀ date autoRenew, r ≠ .listExpiring date autoRenew) :
    (∃ e w', w.answer c r = (.ok (.error e), w') ∧ w'.store = w.store) ∨
    ∃ reply w', w.answer c r = (.ok (.ok reply), w') ∧
      w.store.answer c.now r = .ok (reply, w'.store) := by
  have hfault : ∀ fault, w.store.answer c.now r ≠ .error (.fault fault) := by
    intro fault hf
    obtain ⟨date, autoRenew, hr⟩ := Store.answer_fault hf
    exact h date autoRenew hr
  rcases w.answer_cases_of_ne_fault c r hfault with ⟨e, w', ha, hs, _⟩ | ⟨reply, w', ha, hs, _⟩
  · exact .inl ⟨e, w', ha, hs⟩
  · exact .inr ⟨reply, w', ha, hs⟩

end World

namespace Subscribing

/-- What an operation at an instant writes: nothing, or one change, or one new row, or both. -/
inductive Written (now : Instant) (s : Store) : Store → Prop where
  | nothing : Written now s s
  | subscribed (subscriber : Subscriber) (package : Package) (withTrial : Bool)
      (items : List ItemSeed) (stored : Instant) :
      Written now s
        (s.createSubscription stored (newSubscription subscriber package withTrial now) items).2
  | cancelled {id : Id} {immediate : Bool} {reason : Option String} {row : Subscription} {s' : Store}
      (h : s.updateSubscription id (cancellation now immediate reason) = .ok (row, s')) :
      Written now s s'
  | resumed {r row : Subscription} {s' : Store} (hfound : r ∈ s.subscriptions)
      (hresumable : r.isResumableAt now = true)
      (h : s.updateSubscription r.id (resumption now) = .ok (row, s')) : Written now s s'
  | switched {id : Id} {old : Subscription} {s' : Store} (subscriber : Subscriber)
      (package : Package) (items : List ItemSeed) (stored : Instant)
      (h : s.updateSubscription id (cancellation now true (some planSwitchReason)) = .ok (old, s')) :
      Written now s
        (s'.createSubscription stored (newSubscription subscriber package false now) items).2

variable (env : Chances)

theorem run_find_cases (id : Id) (w : World) :
    (∃ e w', env.run (find id) w = (.failed e, w') ∧ w'.store = w.store) ∨
    ∃ r w', env.run (find id) w = (.done r, w') ∧ w'.store = w.store ∧ r ∈ w.store.subscriptions := by
  simp only [find, Chances.run_bind, Chances.run_request]
  rcases w.answer_cases_of_not_listing (env w) (.findSubscription id) (by simp) with
    ⟨e, w', ha, hs⟩ | ⟨found, w', ha, hs⟩
  · exact .inl ⟨_, w', by rw [ha]; rfl, hs⟩
  · obtain ⟨hfound, hstore⟩ : w.store.findSubscription id = found ∧ w.store = w'.store := by
      simpa [Store.answer] using hs
    rw [ha]
    cases found with
    | none => exact .inl ⟨_, w', rfl, hstore.symm⟩
    | some r => exact .inr ⟨r, w', rfl, hstore.symm, List.mem_of_find?_eq_some hfound⟩

theorem run_itemSeeds_cases (package : Package) (w : World) :
    (∃ e w', env.run (itemSeeds package) w = (.failed e, w') ∧ w'.store = w.store) ∨
    ∃ items w', env.run (itemSeeds package) w = (.done items, w') ∧ w'.store = w.store := by
  simp only [itemSeeds, Chances.run_bind, Chances.run_requestOr]
  rcases w.answer_cases_of_not_listing (env w) (.listFeatures package.id) (by simp) with
    ⟨e, w', ha, hs⟩ | ⟨granted, w', ha, hs⟩
  · exact .inl ⟨_, w', by rw [ha]; rfl, hs⟩
  · obtain ⟨_, hstore⟩ : w.store.grantedFeatures package.id = granted ∧ w.store = w'.store := by
      simpa [Store.answer] using hs
    exact .inr ⟨_, w', by rw [ha]; rfl, hstore.symm⟩

theorem written_subscribe (subscriber : Subscriber) (package : Package) (withTrial : Bool)
    (w : World) :
    Written (env w).now w.store (env.run (subscribe subscriber package withTrial) w).2.store := by
  simp only [subscribe, Chances.run_bind, Chances.run_log, Chances.run_now, Chances.run_requestOr,
    Chances.run_publish, Chances.run_pure, Outcome.andThen_done]
  rcases run_itemSeeds_cases env package w with ⟨e, w₁, hrun, hs⟩ | ⟨items, w₁, hrun, hs⟩
  · rw [hrun, ← hs]
    exact .nothing
  · rw [hrun, ← hs]
    rcases w₁.answer_cases_of_not_listing (env w₁) (.createSubscription
        (newSubscription subscriber package withTrial (env w).now) items) (by simp) with
      ⟨e, w₂, ha, hs₂⟩ | ⟨created, w₂, ha, hs₂⟩
    · rw [Outcome.andThen_done, ha, ← hs₂]
      exact .nothing
    · rw [Outcome.andThen_done, ha]
      have hw₂ : w₂.store = (w₁.store.createSubscription (env w₁).now
          (newSubscription subscriber package withTrial (env w).now) items).2 := by
        simpa [Store.answer] using congrArg Prod.snd (Except.ok.inj hs₂).symm
      change Written (env w).now w₁.store w₂.store
      rw [hw₂]
      exact .subscribed subscriber package withTrial items _

theorem written_cancel (r : Subscription) (immediate : Bool) (reason : Option String) (w : World) :
    Written (env w).now w.store (env.run (cancel r immediate reason) w).2.store := by
  rw [run_cancel]
  rcases w.answer_cases_of_not_listing (env w) (.updateSubscription r.id
      (cancellation (env w).now immediate reason)) (by simp) with ⟨e, w', ha, hs⟩ | ⟨row, w', ha, hs⟩
  · rw [ha, ← hs]
    exact .nothing
  · rw [ha]
    exact .cancelled hs

theorem written_resume {r : Subscription} {w : World} (hr : r ∈ w.store.subscriptions) :
    Written (env w).now w.store (env.run (resume r) w).2.store := by
  simp only [resume, Chances.run_bind, Chances.run_now, Outcome.andThen_done]
  cases hresumable : r.isResumableAt (env w).now with
  | false => exact .nothing
  | true =>
    simp only [Bool.not_true, Bool.false_eq_true, if_false, Chances.run_bind, Chances.run_requestOr,
      Chances.run_log, Chances.run_pure, Outcome.andThen_done, Outcome.andThen_pure]
    rcases w.answer_cases_of_not_listing (env w) (.updateSubscription r.id
        (resumption (env w).now)) (by simp) with ⟨e, w', ha, hs⟩ | ⟨row, w', ha, hs⟩
    · rw [ha, ← hs]
      exact .nothing
    · rw [ha]
      exact .resumed hr hresumable hs

theorem written_switchPlan (r : Subscription) (package : Package) (w : World) :
    Written (env w).now w.store (env.run (switchPlan r package) w).2.store := by
  unfold switchPlan
  cases r.subscriber? with
  | none => exact .nothing
  | some subscriber =>
    simp only [Chances.run_bind, Chances.run_log, Chances.run_now, Chances.run_requestOr,
      Chances.run_publish, Chances.run_pure, Outcome.andThen_done]
    rcases run_itemSeeds_cases env package w with ⟨e, w₁, hrun, hs⟩ | ⟨items, w₁, hrun, hs⟩
    · rw [hrun, ← hs]
      exact .nothing
    · rw [hrun, ← hs]
      rcases w₁.answer_cases_of_not_listing (env w₁) (.switchPlan r.id
          (cancellation (env w).now true (some planSwitchReason))
          (newSubscription subscriber package false (env w).now) items) (by simp) with
        ⟨e, w₂, ha, hs₂⟩ | ⟨⟨old, created⟩, w₂, ha, hs₂⟩
      · rw [Outcome.andThen_done, ha, ← hs₂]
        exact .nothing
      · rw [Outcome.andThen_done, ha]
        change Written (env w).now w₁.store w₂.store
        simp only [Store.answer, Store.switchPlan] at hs₂
        cases hu : w₁.store.updateSubscription r.id
            (cancellation (env w).now true (some planSwitchReason)) with
        | error refusal => simp [hu] at hs₂
        | ok updated =>
          simp only [hu, Except.ok.injEq, Prod.mk.injEq] at hs₂
          rw [← hs₂.2]
          exact .switched subscriber package items _ hu

theorem written_of_find (id : Id) {f : Subscription → Procedure Subscription}
    (hf : ∀ r w, r ∈ w.store.subscriptions →
      Written (env w).now w.store (env.run (f r) w).2.store) (w : World) :
    ∃ w', Written (env w').now w.store (env.run (find id >>= f) w).2.store := by
  rw [Chances.run_bind]
  rcases run_find_cases env id w with ⟨e, w₁, hrun, hs⟩ | ⟨r, w₁, hrun, hs, hr⟩
  · rw [hrun, ← hs]
    exact ⟨w, .nothing⟩
  · rw [hrun, ← hs]
    exact ⟨w₁, hf r w₁ (hs ▸ hr)⟩

/-- Whatever is refused, an operation reads the clock once and writes what it is to write then, or
nothing. -/
theorem written_operation (op : Operation) (w : World) :
    ∃ w', Written (env w').now w.store (env.run op.procedure w).2.store := by
  cases op with
  | subscribe subscriber package withTrial =>
    exact ⟨w, written_subscribe env subscriber package withTrial w⟩
  | cancel id immediate reason =>
    exact written_of_find env id (fun r w _ => written_cancel env r immediate reason w) w
  | resume id => exact written_of_find env id (fun _ _ hr => written_resume env hr) w
  | switchPlan id package =>
    exact written_of_find env id (fun r w _ => written_switchPlan env r package w) w

end Subscribing

end RecurringBilling
