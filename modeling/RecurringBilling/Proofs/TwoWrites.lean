import RecurringBilling.Catalog
import RecurringBilling.Proofs.Usage.Allowance

/-! Operations that write twice, by two requests. The storage takes each request on its own, so
that a refusal of the second write leaves the first where it is. -/

namespace RecurringBilling

namespace Outcome

variable {α β σ : Type} {e : BillingError} {s' : σ}

theorem andThen_eq_failed {x : Outcome α × σ} {next : α → σ → Outcome β × σ}
    (h : andThen x next = (failed e, s')) :
    x = (failed e, s') ∨ ∃ a s, x = (done a, s) ∧ next a s = (failed e, s') := by
  obtain ⟨outcome, s⟩ := x
  cases outcome with
  | done a => exact .inr ⟨a, s, rfl, h⟩
  | failed e' =>
    obtain ⟨rfl, rfl⟩ : e' = e ∧ s = s' := by simpa using h
    exact .inl rfl
  | halted fault => simp at h

end Outcome

namespace World

variable {α : Type} {c : Chance} {w w₁ w' : World} {r : Request} {call : Call} {e : BillingError}

/-- Whether the storage was asked and answered for a while, until it refused the request. -/
def BreaksAt (r : Request) (w w' : World) : Prop :=
  ∃ answered last, w'.calls = w.calls ++ answered ++ [last] ∧
    (∀ call ∈ answered, call.isRefused = false) ∧ last.request = r ∧ last.isRefused = true

theorem BreaksAt.cons (h : BreaksAt r w₁ w') (hcalls : w₁.calls = w.calls ++ [call])
    (hanswered : call.isRefused = false) : BreaksAt r w w' := by
  obtain ⟨answered, last, hlast, hall, hr, hrefused⟩ := h
  refine ⟨call :: answered, last, ?_, ?_, hr, hrefused⟩
  · simp [hlast, hcalls]
  · exact List.forall_mem_cons.mpr ⟨hanswered, hall⟩

theorem failed_of_ask {next : r.Reply → World → Outcome α × World}
    (h : Outcome.andThen (Outcome.ofReply (w.answer c r)) next = (.failed e, w')) :
    BreaksAt r w w' ∧ w'.store = w.store ∨
    ∃ reply w₁ call, w.store.answer c.now r = .ok (reply, w₁.store) ∧
      w₁.calls = w.calls ++ [call] ∧ call.isRefused = false ∧
      next reply w₁ = (.failed e, w') := by
  rcases w.answer_cases c r with ⟨e', ha⟩ | ⟨reply, s, _, hs, ha⟩ | ⟨fault, _, ha⟩
  · left
    rw [ha] at h
    obtain ⟨_, rfl⟩ : _ ∧ w.called r (.error e') = w' := by simpa using h
    exact ⟨⟨[], ⟨r, .error e'⟩, by simp [called], by simp, rfl, rfl⟩, rfl⟩
  · right
    rw [ha] at h
    exact ⟨reply, (w.withStore s).called r (.ok reply), ⟨r, .ok reply⟩, hs, rfl, rfl, h⟩
  · rw [ha] at h
    simp at h

end World

def Request.isSecondWrite : Request → Bool
  | .createUsageLog _ | .syncFeatures .. => true
  | _ => false

inductive TwoWrites where
  | increment (subscription : Subscription) (slug : String) (amount : Decimal)
  | reset (subscription : Subscription) (slug : String)
  | create (definition : PackageDefinition)
  | createOrUpdate (definition : PackageDefinition)

namespace TwoWrites

open Outcome Procedure World

def procedure : TwoWrites → Procedure Unit
  | increment subscription slug amount =>
    (fun _ => ()) <$> Usage.increment subscription slug amount
  | reset subscription slug => (fun _ => ()) <$> Usage.reset subscription slug
  | create definition => (fun _ => ()) <$> definition.create
  | createOrUpdate definition => (fun _ => ()) <$> definition.createOrUpdate

/-- What the first write of an operation does to the store. -/
inductive FirstWrite : TwoWrites → Store → Store → Prop where
  | counted {s s' : Store} {now : Instant} {subscription : Subscription} {slug : String}
      {amount new : Decimal} {item : SubscriptionItem} {feature : Feature}
      (hfound : s.findItem subscription.id slug = some (item, feature))
      (hcounted : s.incrementUsage now item.id amount (Usage.enforcedLimit item feature) =
        .ok (some new, s')) : FirstWrite (.increment subscription slug amount) s s'
  | reset {s s' : Store} {now : Instant} {subscription : Subscription} {slug : String}
      {item : SubscriptionItem} {feature : Feature}
      (hfound : s.findItem subscription.id slug = some (item, feature))
      (hreset : s.resetUsage now item.id = .ok ((), s')) : FirstWrite (.reset subscription slug) s s'
  | created (s : Store) (now : Instant) (definition : PackageDefinition) :
      FirstWrite (.create definition) s (s.createPackage now definition.row).2
  | saved (s : Store) (now : Instant) (definition : PackageDefinition) :
      FirstWrite (.createOrUpdate definition) s (s.upsertPackage now definition.row).2

/-- Where a failed operation leaves the store: as it was, or after its first write if it is the
second that was refused. -/
def Leaves (op : TwoWrites) (w w' : World) : Prop :=
  ∃ r, BreaksAt r w w' ∧
    if r.isSecondWrite then op.FirstWrite w.store w'.store else w'.store = w.store

variable {env : Chances} {w w₁ w' : World} {e : BillingError} {op : TwoWrites}
  {subscription : Subscription} {slug : String} {amount : Decimal} {item : SubscriptionItem}
  {call : Call}

theorem Leaves.of_first {r : Request} (hr : r.isSecondWrite = false)
    (h : BreaksAt r w w' ∧ w'.store = w.store) : op.Leaves w w' :=
  ⟨r, h.1, by simp [hr, h.2]⟩

theorem Leaves.after_read (h : op.Leaves w₁ w') (hstore : w₁.store = w.store)
    (hcalls : w₁.calls = w.calls ++ [call]) (hanswered : call.isRefused = false) :
    op.Leaves w w' := by
  obtain ⟨r, hbreaks, hleft⟩ := h
  exact ⟨r, hbreaks.cons hcalls hanswered, by rwa [hstore] at hleft⟩

/-- Whether a procedure can fail only by the refusal of a second write, with all as it was. -/
def IsSecondWrite (p : Procedure Unit) : Prop :=
  ∀ (env : Chances) (w w' : World) (e : BillingError), env.run p w = (.failed e, w') →
    ∃ r, r.isSecondWrite = true ∧ BreaksAt r w w' ∧ w'.store = w.store

theorem isSecondWrite_writeLog (description : String) :
    IsSecondWrite (Usage.writeLog subscription item amount description) := by
  intro env w w' e h
  unfold Usage.writeLog at h
  rw [Chances.run_bind, Chances.run_requestOr] at h
  rcases failed_of_ask h with hbreaks | ⟨_, _, _, _, _, _, h⟩
  · exact ⟨_, rfl, hbreaks⟩
  · cases h

theorem isSecondWrite_attachFeatures (definition : PackageDefinition) (package : Package) :
    IsSecondWrite (definition.attachFeatures package) := by
  intro env w w' e h
  unfold PackageDefinition.attachFeatures at h
  split at h
  · rw [Chances.run_request, ← andThen_pure (ofReply _)] at h
    rcases failed_of_ask h with hbreaks | ⟨_, _, _, _, _, _, h⟩
    · exact ⟨_, rfl, hbreaks⟩
    · cases h
  · cases h

theorem Leaves.of_second {β : Type} {p : Procedure Unit} {f : Unit → Procedure β}
    (hp : IsSecondWrite p) (hf : ∀ w₂, env.run (f ()) w₂ ≠ (.failed e, w'))
    (h : env.run (p >>= f) w₁ = (.failed e, w')) (hfirst : op.FirstWrite w.store w₁.store)
    (hcalls : w₁.calls = w.calls ++ [call]) (hanswered : call.isRefused = false) :
    op.Leaves w w' := by
  rw [Chances.run_bind] at h
  rcases andThen_eq_failed h with hsecond | ⟨_, w₂, _, h⟩
  · obtain ⟨r, hr, hbreaks, hstore⟩ := hp env w₁ w' e hsecond
    refine ⟨r, hbreaks.cons hcalls hanswered, ?_⟩
    rwa [if_pos hr, hstore]
  · exact absurd h (hf w₂)

/-- A first write and a second one right after it. -/
theorem Leaves.of_pair {β : Type} {r : Request} {second : r.Reply → Procedure Unit}
    {f : r.Reply → Unit → Procedure β} (hr : r.isSecondWrite = false)
    (hsecond : ∀ reply, IsSecondWrite (second reply))
    (hf : ∀ reply w₂, env.run (f reply ()) w₂ ≠ (.failed e, w'))
    (hfirst : ∀ now reply s', w.store.answer now r = .ok (reply, s') →
      op.FirstWrite w.store s')
    (h : env.run (request r >>= fun reply => second reply >>= f reply) w = (.failed e, w')) :
    op.Leaves w w' := by
  rw [Chances.run_bind, Chances.run_request] at h
  rcases failed_of_ask h with hbreaks | ⟨reply, w₁, call, hanswer, hcalls, hanswered, h⟩
  · exact .of_first hr hbreaks
  · exact .of_second (hsecond reply) (hf reply) h (hfirst _ reply _ hanswer) hcalls hanswered

theorem failed_compute_bind {α β : Type} {result : Except ArithmeticFault α} {f : α → Procedure β}
    (h : env.run (compute result >>= f) w = (.failed e, w')) :
    ∃ a, result = .ok a ∧ env.run (f a) w = (.failed e, w') := by
  cases result with
  | ok a => exact ⟨a, rfl, h⟩
  | error fault => cases h

/-- The warning may be announced, but it cannot fail. -/
theorem failed_after_warning {β : Type} {feature : Feature} {new : Decimal} {f : Unit → Procedure β}
    (h : env.run (Usage.warnIfCrossed subscription slug item feature amount new >>= f) w =
      (.failed e, w')) :
    ∃ w₁, w₁.store = w.store ∧ w₁.calls = w.calls ∧ env.run (f ()) w₁ = (.failed e, w') := by
  unfold Usage.warnIfCrossed at h
  split at h
  · cases hprevious : new.sub amount with
    | error fault => simp [hprevious] at h
    | ok previous =>
      cases hcrossed : Usage.crossesThreshold previous new item.limitValue with
      | error fault => simp [hprevious, hcrossed] at h
      | ok crossed =>
        cases crossed with
        | true =>
          refine ⟨w.announced (.usageLimitWarning subscription feature new item.limitValue), rfl,
            rfl, ?_⟩
          simpa [hprevious, hcrossed] using h
        | false => exact ⟨w, rfl, rfl, by simpa [hprevious, hcrossed] using h⟩
  · exact ⟨w, rfl, rfl, h⟩

theorem Leaves.of_findItem {β : Type} {f : Option (SubscriptionItem × Feature) → Procedure β}
    (h : env.run (request (.findItem subscription.id slug) >>= f) w = (.failed e, w'))
    (hrest : ∀ w₁, env.run (f (w₁.store.findItem subscription.id slug)) w₁ = (.failed e, w') →
      op.Leaves w₁ w') : op.Leaves w w' := by
  rw [Chances.run_bind, Chances.run_request] at h
  rcases failed_of_ask h with hread | ⟨found, w₁, call, hfound, hcalls, hanswered, h⟩
  · exact .of_first rfl hread
  · obtain ⟨hfound, hstore⟩ : w.store.findItem subscription.id slug = found ∧
        w.store = w₁.store := by
      simpa [Store.answer] using hfound
    rw [← hfound, hstore] at h
    exact (hrest w₁ h).after_read hstore.symm hcalls hanswered

theorem leaves_increment
    (h : env.run (Usage.increment subscription slug amount) w = (.failed e, w')) :
    (increment subscription slug amount).Leaves w w' := by
  refine Leaves.of_findItem h ?_
  intro w₁ h
  cases hfound : w₁.store.findItem subscription.id slug with
  | none =>
    rw [hfound] at h
    cases h
  | some found =>
    obtain ⟨item, feature⟩ := found
    rw [hfound] at h
    obtain ⟨exceeded, _, h⟩ := failed_compute_bind h
    cases exceeded with
    | true => cases h
    | false =>
      rw [if_neg (by simp), Chances.run_bind, Chances.run_requestOr] at h
      rcases failed_of_ask h with hcount | ⟨updated, w₂, call, hupdate, hcalls, hanswered, h⟩
      · exact .of_first rfl hcount
      · cases updated with
        | none => cases h
        | some new =>
          -- the warning between the two writes asks nothing of the storage, so that the refusal
          -- is of the log entry
          obtain ⟨w₃, hstore, hcalls', h⟩ := failed_after_warning h
          rw [← hstore] at hupdate
          rw [← hcalls'] at hcalls
          have hfirst : (increment subscription slug amount).FirstWrite w₁.store w₃.store :=
            .counted hfound hupdate
          exact .of_second (isSecondWrite_writeLog _) (by simp) h hfirst hcalls hanswered

theorem leaves_reset (h : env.run (Usage.reset subscription slug) w = (.failed e, w')) :
    (reset subscription slug).Leaves w w' := by
  refine Leaves.of_findItem h ?_
  intro w₁ h
  cases hfound : w₁.store.findItem subscription.id slug with
  | none =>
    rw [hfound] at h
    cases h
  | some found =>
    obtain ⟨item, feature⟩ := found
    rw [hfound] at h
    refine Leaves.of_pair rfl (fun _ => isSecondWrite_writeLog _) (by simp) ?_ h
    intro now _ s' hreset
    exact .reset hfound hreset

theorem leaves_create {definition : PackageDefinition}
    (h : env.run definition.create w = (.failed e, w')) : (create definition).Leaves w w' := by
  refine Leaves.of_pair rfl (isSecondWrite_attachFeatures definition) (by simp) ?_ h
  intro now package s' hcreated
  obtain ⟨_, rfl⟩ := Prod.mk.inj (Except.ok.inj hcreated)
  exact .created w.store now definition

theorem leaves_createOrUpdate {definition : PackageDefinition}
    (h : env.run definition.createOrUpdate w = (.failed e, w')) :
    (createOrUpdate definition).Leaves w w' := by
  refine Leaves.of_pair rfl (isSecondWrite_attachFeatures definition) (by simp) ?_ h
  intro now package s' hsaved
  obtain ⟨_, rfl⟩ := Prod.mk.inj (Except.ok.inj hsaved)
  exact .saved w.store now definition

theorem FirstWrite.second_absent {s s' : Store} (h : op.FirstWrite s s') :
    s'.usageLogs = s.usageLogs ∧ s'.grants = s.grants := by
  cases h with
  | counted _ hcounted =>
    obtain ⟨_, _, rows, _, _, _, rfl⟩ := Store.incrementUsage_eq_some hcounted
    exact ⟨rfl, rfl⟩
  | reset _ hreset =>
    obtain ⟨_, rows, _, rfl⟩ := Store.resetUsage_eq_ok hreset
    exact ⟨rfl, rfl⟩
  | created s now definition => exact ⟨rfl, rfl⟩
  | saved s now definition =>
    unfold Store.upsertPackage
    split <;> exact ⟨rfl, rfl⟩

theorem Leaves.second_absent (h : op.Leaves w w') :
    w'.store.usageLogs = w.store.usageLogs ∧ w'.store.grants = w.store.grants := by
  obtain ⟨r, _, hleft⟩ := h
  split at hleft
  · exact hleft.second_absent
  · rw [hleft]
    exact ⟨rfl, rfl⟩

theorem failed_of_map {α β : Type} {f : α → β} {p : Procedure α}
    (h : env.run (f <$> p) w = (.failed e, w')) : env.run p w = (.failed e, w') := by
  change env.run (p >>= fun a => pure (f a)) w = (.failed e, w') at h
  rw [Chances.run_bind] at h
  rcases andThen_eq_failed h with h | ⟨_, _, _, h⟩
  · exact h
  · cases h

/-- An operation fails only where the storage refuses a request. The store is then as it was, unless
the request was the second write: then the first has been made, and nothing of the second. -/
theorem leaves_of_failed (h : env.run op.procedure w = (.failed e, w')) :
    op.Leaves w w' ∧ w'.store.usageLogs = w.store.usageLogs ∧ w'.store.grants = w.store.grants := by
  have hleaves : op.Leaves w w' := by
    cases op with
    | increment subscription slug amount => exact leaves_increment (failed_of_map h)
    | reset subscription slug => exact leaves_reset (failed_of_map h)
    | create definition => exact leaves_create (failed_of_map h)
    | createOrUpdate definition => exact leaves_createOrUpdate (failed_of_map h)
  exact ⟨hleaves, hleaves.second_absent⟩

/-! Five more than ninety, whose entry in the log is refused; then the caller tries again. A new
package, whose features are refused. -/

def refusedAt (n : Nat) : Chances := fun w =>
  { now := .first
    refusal := if w.calls.length = n then some (.refused "connection reset") else none }

def fiveMore : TwoWrites :=
  .increment Usage.openSubscription "api-calls" (.whole 5 (by decide))

def fiveRefused : Outcome Unit × World := (refusedAt 2).run fiveMore.procedure Usage.raceWorld

def fiveRetried : Outcome Unit × World := (refusedAt 2).run fiveMore.procedure fiveRefused.2

def teamPackage : TwoWrites :=
  .create { slug := "team", currency := "USD"
            attachments := [{ featureId := .ofNat 1, value := some "5" }] }

def teamRefused : Outcome Unit × World := (refusedAt 1).run teamPackage.procedure Usage.raceWorld

theorem leaves_of_failed_five :
    fiveRefused = (.failed (.storage (.refused "connection reset")), fiveRefused.2) ∧
      fiveMore.FirstWrite Usage.raceWorld.store fiveRefused.2.store ∧
      fiveRefused.2.store.usageLogs = [] := by
  have hfailed : (refusedAt 2).run fiveMore.procedure Usage.raceWorld =
      (.failed (.storage (.refused "connection reset")), fiveRefused.2) := rfl
  have hsecond : fiveRefused.2.calls.getLast?.map (·.request.isSecondWrite) = some true := rfl
  obtain ⟨⟨r, ⟨answered, last, hcalls, _, rfl, _⟩, hleft⟩, hlogs, _⟩ :=
    leaves_of_failed hfailed
  have hlast : last.request.isSecondWrite = true := by simpa [hcalls] using hsecond
  rw [if_pos hlast] at hleft
  exact ⟨hfailed, hleft, hlogs⟩

theorem failed_but_written :
    fiveRefused.1 = .failed (.storage (.refused "connection reset")) ∧
      fiveRefused.2.store.items.map (·.usage) = [.whole 95 (by decide)] ∧
      fiveRetried.1 = .done () ∧
      fiveRetried.2.store.items.map (·.usage) = [.hundred] ∧
      fiveRetried.2.store.usageLogs.map (·.amount) = [.whole 5 (by decide)] ∧
      teamRefused.1 = .failed (.storage (.refused "connection reset")) ∧
      teamRefused.2.store.packages.map (·.slug) = ["team"] ∧ teamRefused.2.store.grants = [] := by
  refine ⟨rfl, by decide +kernel, rfl, by decide +kernel, by decide +kernel, rfl, rfl, rfl⟩

end TwoWrites

end RecurringBilling
