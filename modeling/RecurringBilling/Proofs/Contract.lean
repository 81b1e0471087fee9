import RecurringBilling.Proofs.Store.Keys

/-! Contracts of procedures: what a procedure asks for, as long as the replies are such as it may
expect. What the requests of a contract do to a store is then said of every procedure that honors
it. -/

namespace RecurringBilling

/-- What a procedure may ask, and what it may expect of the replies. -/
structure Contract where
  asks : Request → Prop
  told : (r : Request) → r.Reply → Prop

/-- Whether what a step meets is fixed by the calls and events so far, whatever is stored. -/
def Chances.IgnoresStore (env : Chances) : Prop := ∀ w s, env (w.withStore s) = env w

namespace Procedure

variable {α β : Type} {contract : Contract} {post : α → Prop}

/-- Every request that the procedure comes to is one of the contract, and its result meets the
condition, if every reply is one of the contract. -/
def Honors (contract : Contract) (post : α → Prop) : Procedure α → Prop
  | done a => post a
  | fail _ => True
  | halt _ => True
  | ask r next =>
    contract.asks r ∧ (∀ e, (next (.error e)).Honors contract post) ∧
      ∀ reply, contract.told r reply → (next (.ok reply)).Honors contract post
  | note _ next => next.Honors contract post
  | announce _ next => next.Honors contract post
  | clock next => ∀ now, (next now).Honors contract post
  | drawNumber next => ∀ number, (next number).Honors contract post

theorem Honors.bind {mid : α → Prop} {post : β → Prop} {p : Procedure α} {f : α → Procedure β}
    (hp : p.Honors contract mid) (hf : ∀ a, mid a → (f a).Honors contract post) :
    (p >>= f).Honors contract post := by
  change (p.bind f).Honors contract post
  induction p with
  | done a => exact hf a hp
  | fail e => trivial
  | halt fault => trivial
  | ask r next ih =>
    obtain ⟨hasks, hrefused, htold⟩ := hp
    exact ⟨hasks, fun e => ih _ (hrefused e), fun reply hreply => ih _ (htold reply hreply)⟩
  | note record next ih => exact ih hp
  | announce event next ih => exact ih hp
  | clock next ih => exact fun now => ih now (hp now)
  | drawNumber next ih => exact fun number => ih number (hp number)

theorem Honors.mono {post' : α → Prop} {p : Procedure α} (hp : p.Honors contract post)
    (hpost : ∀ a, post a → post' a) : p.Honors contract post' := by
  induction p with
  | done a => exact hpost a hp
  | fail e => trivial
  | halt fault => trivial
  | ask r next ih =>
    obtain ⟨hasks, hrefused, htold⟩ := hp
    exact ⟨hasks, fun e => ih _ (hrefused e), fun reply hreply => ih _ (htold reply hreply)⟩
  | note record next ih => exact ih hp
  | announce event next ih => exact ih hp
  | clock next ih => exact fun now => ih now (hp now)
  | drawNumber next ih => exact fun number => ih number (hp number)

theorem Honors.map {p : Procedure α} (f : α → β) (hp : p.Honors contract post) :
    (f <$> p).Honors contract fun _ => True := hp.bind fun _ _ => trivial

theorem honors_log {level : LogLevel} {target message : String}
    {fields : List (String × LogValue)} :
    (log level target message fields).Honors contract fun _ => True := trivial

theorem honors_publish {event : BillingEvent} :
    (publish event).Honors contract fun _ => True := trivial

theorem honors_now : now.Honors contract fun _ => True := fun _ => trivial

theorem honors_compute (result : Except ArithmeticFault α) :
    (compute result).Honors contract fun _ => True := by
  cases result <;> trivial

theorem honors_request {r : Request} (h : contract.asks r) :
    (request r).Honors contract (contract.told r) := ⟨h, fun _ => trivial, fun _ hreply => hreply⟩

theorem honors_requestOr {r : Request} {level : LogLevel} {target message : String}
    {fields : StorageError → List (String × LogValue)} (h : contract.asks r) :
    (requestOr r fun e => log level target message (fields e)).Honors contract (contract.told r) :=
  ⟨h, fun _ => trivial, fun _ hreply => hreply⟩

/-- What every request of the contract keeps on the way to a store of which `ok` holds. The replies
are as expected since `ok` holds all along: each store retains what was in those before it. -/
theorem Honors.run (inv ok : Store → Prop) (hback : ∀ {s t}, s.Retains t → ok t → ok s)
    (hstep : ∀ s now r reply t, inv s → ok t → contract.asks r → s.answer now r = .ok (reply, t) →
      contract.told r reply ∧ inv t)
    {p : Procedure α} (hp : p.Honors contract post) (env : Chances) {w : World}
    (hw : inv w.store) (hok : ok (env.run p w).2.store) :
    inv (env.run p w).2.store ∧ ∀ a, (env.run p w).1 = .done a → post a := by
  induction p generalizing w with
  | done a =>
    refine ⟨hw, ?_⟩
    rintro _ ⟨⟩
    exact hp
  | fail e => exact ⟨hw, by rintro _ ⟨⟩⟩
  | halt fault => exact ⟨hw, by rintro _ ⟨⟩⟩
  | ask r next ih =>
    obtain ⟨hasks, hrefused, htold⟩ := hp
    rcases w.answer_cases (env w) r with ⟨e, ha⟩ | ⟨reply, s, _, hs, ha⟩ | ⟨fault, _, ha⟩
    · rw [env.run_ask, ha] at hok ⊢
      exact ih _ (hrefused e) hw hok
    · rw [env.run_ask, ha] at hok ⊢
      have hlater := env.retains_run (next (.ok reply)) ((w.withStore s).called r (.ok reply))
      obtain ⟨hreply, hs⟩ := hstep _ _ _ _ _ hw (hback hlater hok) hasks hs
      exact ih _ (htold reply hreply) hs hok
    · rw [env.run_ask, ha]
      exact ⟨hw, by rintro _ ⟨⟩⟩
  | note record next ih => exact ih hp hw hok
  | announce event next ih => exact ih hp (w := w.announced event) hw hok
  | clock next ih => exact ih _ (hp _) hw hok
  | drawNumber next ih => exact ih _ (hp _) hw hok

/-- A request on a part of the store that has the same answer. -/
theorem answer_view {view : Store → Store} {c : Chance} {r : Request} {w : World}
    (h : c.refusal = none → (view w.store).answer c.now r =
      (w.store.answer c.now r).map fun x => (x.1, view x.2)) :
    (w.withStore (view w.store)).answer c r =
      ((w.answer c r).1, (w.answer c r).2.withStore (view (w.answer c r).2.store)) := by
  unfold World.answer
  cases hc : c.refusal with
  | some e => rfl
  | none =>
    have hanswer : (w.withStore (view w.store)).store.answer c.now r = _ := h hc
    rw [hanswer]
    cases w.store.answer c.now r with
    | ok answered => rfl
    | error refusal => cases refusal <;> rfl

/-- A run on a part of the store, if all that is asked for is answered from that part. -/
theorem Honors.run_view (view : Store → Store) (inv ok : Store → Prop)
    (hback : ∀ {s t}, s.Retains t → ok t → ok s)
    (hstep : ∀ s now r reply t, inv s → ok t → contract.asks r → s.answer now r = .ok (reply, t) →
      contract.told r reply ∧ inv t)
    (hview : ∀ s now r, inv s → contract.asks r →
      (∀ reply t, s.answer now r = .ok (reply, t) → ok t) →
        (view s).answer now r = (s.answer now r).map fun x => (x.1, view x.2))
    {p : Procedure α} (hp : p.Honors contract post) {env : Chances} (henv : env.IgnoresStore)
    {w : World} (hw : inv w.store) (hok : ok (env.run p w).2.store) :
    env.run p (w.withStore (view w.store)) =
      ((env.run p w).1, (env.run p w).2.withStore (view (env.run p w).2.store)) := by
  induction p generalizing w with
  | done a => rfl
  | fail e => rfl
  | halt fault => rfl
  | ask r next ih =>
    obtain ⟨hasks, hrefused, htold⟩ := hp
    have hok' : ∀ reply t, (env w).refusal = none → w.store.answer (env w).now r = .ok (reply, t) →
        ok t := by
      intro reply t hcalm hs
      have ha : w.answer (env w) r = (.ok (.ok reply), (w.withStore t).called r (.ok reply)) := by
        simp [World.answer, hcalm, hs]
      rw [env.run_ask, ha] at hok
      exact hback (env.retains_run (next (.ok reply)) ((w.withStore t).called r (.ok reply))) hok
    have hanswer := answer_view fun hcalm =>
      hview w.store (env w).now r hw hasks fun reply t => hok' reply t hcalm
    rw [env.run_ask, henv w, hanswer]
    rw [env.run_ask] at hok ⊢
    rcases w.answer_cases (env w) r with ⟨e, ha⟩ | ⟨reply, s, hcalm, hs, ha⟩ | ⟨fault, hs, ha⟩
    · rw [ha] at hok ⊢
      exact ih _ (hrefused e) hw hok
    · rw [ha] at hok ⊢
      obtain ⟨hreply, hs⟩ := hstep _ _ _ _ _ hw (hok' reply s hcalm hs) hasks hs
      exact ih _ (htold reply hreply) hs hok
    · rw [ha]
  | note record next ih => exact ih hp hw hok
  | announce event next ih => exact ih hp (w := w.announced event) hw hok
  | clock next ih =>
    have hnow : (env (w.withStore (view w.store))).now = (env w).now := by rw [henv]
    have hrun := ih _ (hp (env w).now) hw hok
    simp only [Chances.run, Procedure.run, Chances.backend, hnow] at hrun ⊢
    exact hrun
  | drawNumber next ih =>
    have hnumber : (env (w.withStore (view w.store))).number = (env w).number := by rw [henv]
    have hrun := ih _ (hp (env w).number) hw hok
    simp only [Chances.run, Procedure.run, Chances.backend, hnumber] at hrun ⊢
    exact hrun

end Procedure

end RecurringBilling
